import Vitals.Pipeline.Flow

/-!
# The exporter

An exporter is run once. The run that gets the transport binds it, starts the flow of snapshots,
and starts scrapes until it sees the shutdown; then it waits for both stages to end and reports
on them. Every other run is turned away. This file fixes

* `Lifecycle`, the states of an exporter, which only go forward;
* `Exporter`, with `Exporter.Progress`, how far the run that got the transport has come;
* `Exporter.Move` and `Exporter.step`, the effect of a move that is possible at an instant.

A transport that fails while it serves ends the run at once, with its fault as the result; the
stages then go on by themselves. A transport that ends in any other way does not end the run.

The run is a task among those of the flow, and what it does when it is woken is one move. It looks
at the shutdown first, and once more when serving has ended properly: whichever of the two sees it,
the run goes on in the same way.
-/

namespace Vitals

inductive Lifecycle where
  | idle
  | running
  | draining
  | stopped
  deriving DecidableEq, Repr, Inhabited

namespace Lifecycle

def all : List Lifecycle :=
  [.idle, .running, .draining, .stopped]

def name : Lifecycle → String
  | .idle => "idle"
  | .running => "running"
  | .draining => "draining"
  | .stopped => "stopped"

end Lifecycle

/-- How far the run that got the transport has come. `call` is its number. -/
inductive Exporter.Progress where
  /-- There was no run yet. -/
  | untouched
  | binding (call : Nat)
  | scraping (call : Nat)
  /-- It waits for the stages of `left`, after those that `report` tells of. -/
  | awaiting (call : Nat) (left : List Stage) (report : Report)
  /-- It returned, or broke off. -/
  | returned
  deriving DecidableEq, Repr

structure Exporter where
  settings : Flow.Settings
  /-- Whether the shutdown was signalled. -/
  cancelled : Bool := false
  lifecycle : Lifecycle := .idle
  progress : Exporter.Progress := .untouched
  subscribers : Flow.Subscribers
  /-- The flow of snapshots, once the transport was bound. -/
  flow : Option Flow := none
  deriving Repr

namespace Exporter

def new (settings : Flow.Settings) (subscribers : Flow.Subscribers) : Exporter :=
  { settings, subscribers }

/-! ## 1. Moves -/

inductive Move where
  /-- Someone runs the exporter; `call` tells the runs apart. -/
  | run (call : Nat)
  /-- Someone signals the shutdown. -/
  | stop
  /-- The transport was bound, or could not be. -/
  | bind (result : Except Fault Unit)
  /-- Binding the transport breaks off, and the run with it. -/
  | bindCrash
  /-- The run sees the shutdown and starts no more scrapes. -/
  | seeShutdown
  /-- The run sees that serving has ended. -/
  | seeServing
  /-- The run learns how the next stage ended. -/
  | collect
  /-- The run returns its report. -/
  | conclude
  | flow (move : Flow.Move)
  /-- A guest does something to the registry, with or without a flow. -/
  | guest (move : Registry.Move Party (Snapshot Float))
  deriving Repr

/-- What a move brings besides the new state. -/
inductive Outcome where
  | event (e : Event)
  | answered (guest : Nat) (answer : Registry.Answer)
  /-- A run returns. -/
  | returned (call : Nat) (result : Except Fault Report)
  deriving Repr

def Outcome.ofFlow : Flow.Outcome → Outcome
  | .event e => .event e
  | .answered guest answer => .answered guest answer

/-! ## 2. The run -/

/-- A run begins if it is the first one. -/
def run (x : Exporter) (call : Nat) : Exporter × List Outcome :=
  match x.progress with
  | .untouched => ({ x with progress := .binding call }, [])
  | _ => (x, [.returned call (.error .alreadyStarted)])

/-- A run returns, and the exporter has stopped. -/
def return_ (x : Exporter) (call : Nat) (result : Except Fault Report) : Exporter × List Outcome :=
  ({ x with progress := .returned, lifecycle := .stopped }, [.returned call result])

/-- The transport is bound and the flow starts, or the run ends with the fault. -/
def bind (now : Nat) (x : Exporter) (result : Except Fault Unit) :
    Option (Exporter × List Outcome) :=
  match x.progress, result with
  | .binding call, .ok () =>
    some ({ x with
      progress := .scraping call
      lifecycle := .running
      flow := some (Flow.start x.settings now) }, [])
  | .binding call, .error fault => some (x.return_ call (.error fault))
  | _, _ => none

/-- A run that breaks off returns nothing, but the exporter has stopped all the same. -/
def bindCrash (x : Exporter) : Option Exporter :=
  match x.progress with
  | .binding _ => some { x with progress := .returned, lifecycle := .stopped }
  | _ => none

/-- Starts no more scrapes and waits for the stages. -/
def beginDraining (x : Exporter) (call : Nat) : Exporter :=
  { x with
    progress := .awaiting call Stage.all {}
    lifecycle := .draining
    flow := x.flow.map Flow.endScraping }

def seeShutdown (x : Exporter) : Option Exporter :=
  match x.progress, x.cancelled with
  | .scraping call, true => some (x.beginDraining call)
  | _, _ => none

/-- Serving ended. Only a fault ends the run; a proper end is no news after the shutdown. -/
def seeServing (x : Exporter) : Option (Exporter × List Outcome) :=
  match x.progress, x.flow with
  | .scraping call, some f =>
    let noticed : Exporter := { x with flow := some { f with serving := .noticed } }
    match f.serving with
    | .ended .returned =>
      if x.cancelled then some (noticed.beginDraining call, [])
      else some (noticed, [.event .transportEnded])
    | .ended (.crashed crash) => some (noticed, [.event (.transportCrashed crash)])
    | .ended (.failed fault) =>
      let x := { noticed with cancelled := true, flow := noticed.flow.map Flow.endScraping }
      let (x, out) := x.return_ call (.error fault)
      some (x, .event (.transportFailed fault) :: out)
    | _ => none
  | _, _ => none

/-- Learns how the next stage ended. -/
def collect (x : Exporter) : Option (Exporter × List Outcome) :=
  match x.progress, x.flow with
  | .awaiting call (stage :: left) report, some f =>
    if f.isOver stage then
      let goOn (report : Report) : Exporter := { x with progress := .awaiting call left report }
      match f.endingOf stage with
      | some .drained => some (goOn report, [])
      | some .abandoned => some (goOn ⟨report.abandoned ++ [stage]⟩, [])
      | some (.crashed crash) =>
        some (goOn ⟨report.abandoned ++ [stage]⟩, [.event (.stageCrashed stage crash)])
      | none => none
    else none
  | _, _ => none

/-- Returns the report when all tasks of the flow have ended. -/
def conclude (x : Exporter) : Option (Exporter × List Outcome) :=
  match x.progress, x.flow with
  | .awaiting call [] report, some f =>
    if f.aggregator.isStopped && f.fanOut.isFinished then some (x.return_ call (.ok report))
    else none
  | _, _ => none

/-! ## 3. Steps -/

/-- A move of the flow. -/
def stepFlow (now : Nat) (x : Exporter) (move : Flow.Move) : Option (Exporter × List Outcome) := do
  let f ← x.flow
  let (f, subscribers, out) ← f.step now x.cancelled x.subscribers move
  return ({ x with flow := some f, subscribers }, out.map Outcome.ofFlow)

/-- A move on the registry before there is a flow. -/
def stepGuest (now : Nat) (x : Exporter) (move : Registry.Move Party (Snapshot Float)) :
    Option (Exporter × List Outcome) :=
  match x.flow with
  | some _ => x.stepFlow now (.subscribers move)
  | none =>
    if Flow.isForeign move then do
      let (subscribers, os) ← x.subscribers.step now move
      return ({ x with subscribers }, os.filterMap fun o =>
        match o with
        | .event e => some (.event e)
        | .done (.guest n) answer => some (.answered n answer)
        | .done .stage _ => none)
    else none

/-- The effect of a move at an instant, if it is possible. -/
def step (now : Nat) (x : Exporter) : Move → Option (Exporter × List Outcome)
  | .run call => some (x.run call)
  | .stop => some ({ x with cancelled := true }, [])
  | .bind result => x.bind now result
  | .bindCrash => x.bindCrash.map fun x => (x, [])
  | .seeShutdown => x.seeShutdown.map fun x => (x, [])
  | .seeServing => x.seeServing
  | .collect => x.collect
  | .conclude => x.conclude
  | .flow move => x.stepFlow now move
  | .guest move => x.stepGuest now move

/-- The instants at which something is due. -/
def due (x : Exporter) : List Nat :=
  x.flow.elim [] Flow.due ++ x.subscribers.due

end Exporter

end Vitals
