import Vitals.Window.Aggregator
import Vitals.FanOut
import Vitals.Subscribers.Registry
import Vitals.Pipeline.Consumer
import Vitals.Record.Writing

/-!
# The flow of snapshots

While the exporter runs, scrapes bring samples to the aggregator, its snapshots go through the
fan-out to the two stages, the storage stage saves each of them, and the streaming stage
broadcasts each of them to the subscribers. This file fixes

* the parts of the flow: `Scrape` tasks, `Save` jobs, and `Flow`, which holds them together;
* `Flow.Move`, everything that can happen, and `Flow.step`, the effect of a move that is possible
  at an instant, on the flow and on the registry of subscribers.

Moves of the world are among them: how a scrape or a save ends, and what subscribers do. A save
runs on its own once it has begun, also when the stage that waits for it is gone. A broadcast that
the streaming stage gives up is cancelled. When that stage has ended it closes all subscriptions.

All of these are tasks that run side by side. What a task does when it is woken, up to the point
where it waits again, is one move, and the moves of different tasks come in any order. Where a task
looks more than once at what others change in the meantime, each look is a move (`Consumer.Move`,
`Aggregator.Move`). Elsewhere, what happens during a move can be told as if it came before or after
it:

* A scrape that is woken for the last time when scraping ends is not broken off any more, since only
  a task that waits is broken off. Its end, with the sample that it brings, comes first, and then
  `endScraping`.
* When its input has ended, the fan-out drops its senders one after another. Each stage has one of
  them and sees no other, so that they go at once.
* A sender gets room for an item and then puts it there. If the receiver goes away in between, the
  item is lost with those that were there before, and is told as sent before them. Only the number
  that a stage reports when it gives up can tell the difference.
* A shutdown that is signalled during a move comes after it.
-/

namespace Vitals

/-! ## 1. Parts -/

/-- The tasks that ask the registry for its lock. -/
inductive Party where
  /-- The streaming stage. -/
  | stage
  /-- Anyone else. -/
  | guest (n : Nat)
  deriving DecidableEq, Repr

/-- How long things take, and how much room there is. -/
structure Flow.Settings where
  scrapeInterval : Duration
  warmup : Duration
  steady : Duration
  grace : Duration
  branchBuffer : Nat
  deriving DecidableEq, Repr

/-- A task that scrapes the host. -/
structure Flow.ScrapeTask where
  id : Nat
  /-- Whether the task has ended, and the crash if that is how. -/
  ended : Option (Option Crash) := none
  deriving DecidableEq, Repr

/-- How a scrape ends. -/
inductive Flow.ScrapeEnding where
  | brought (scrape : Scrape)
  | crashed (crash : Crash)
  deriving Repr

/-- A save under way. -/
structure Flow.SaveJob where
  id : Nat
  record : List Char
  stamp : Moment
  deriving DecidableEq, Repr

/-- How a save ends. -/
inductive Flow.SaveEnding where
  | saved
  | failed (fault : Fault)
  | crashed (crash : Crash)
  deriving DecidableEq, Repr

/-- What is reported of a save. -/
def Flow.SaveEnding.events : Flow.SaveEnding → List Event
  | .saved => []
  | .failed fault => [.saveFailed fault]
  | .crashed crash => [.saveCrashed crash]

/-- Where the storage stage stands with the snapshot in its hand. -/
inductive Flow.Saving where
  /-- There is none. -/
  | idle
  | underWay (job : Nat)
  | ended (how : Flow.SaveEnding)
  /-- It has no record and is not saved. -/
  | unwritable (fault : Fault)
  deriving DecidableEq, Repr

/-- How far the streaming stage is with closing the subscriptions. -/
inductive Flow.Closing where
  | pending
  | asked
  | done
  deriving DecidableEq, Repr

/-- How serving the subscribers ends. -/
inductive Flow.ServeEnding where
  | returned
  | failed (fault : Fault)
  | crashed (crash : Crash)
  deriving DecidableEq, Repr

inductive Flow.Serving where
  | underWay
  | ended (how : Flow.ServeEnding)
  /-- The end of serving was noticed. -/
  | noticed
  deriving DecidableEq, Repr

structure Flow where
  settings : Flow.Settings
  serving : Flow.Serving := .underWay
  /-- Whether scrapes are still started. -/
  scraping : Bool := true
  nextTick : Nat
  /-- The scrapes whose end was not noticed yet. -/
  scrapes : List Flow.ScrapeTask := []
  /-- The number of scrapes started. -/
  scrapesStarted : Nat := 0
  aggregator : Aggregator Float
  /-- The aggregator sends to its input, the stages receive from its branches. -/
  fanOut : FanOut (Snapshot Float)
  storage : Consumer (Snapshot Float)
  saving : Flow.Saving := .idle
  /-- The saves that have begun and not ended. -/
  jobs : List Flow.SaveJob := []
  /-- The number of saves begun. -/
  savesStarted : Nat := 0
  streaming : Consumer (Snapshot Float)
  /-- Whether the broadcast of the snapshot in hand is done. -/
  delivered : Bool := false
  closing : Flow.Closing := .pending
  deriving Repr

namespace Flow

/-- The flow as it starts at an instant. -/
def start (settings : Settings) (now : Nat) : Flow :=
  let branch (stage : Stage) : Branch (Snapshot Float) :=
    { name := stage.name, output := Channel.new settings.branchBuffer }
  { settings
    nextTick := now + settings.scrapeInterval.nanos
    aggregator := Aggregator.start settings.warmup settings.steady now
    fanOut := { input := Channel.new settings.branchBuffer, branches := Stage.all.map branch }
    storage := { stage := .storage, grace := settings.grace }
    streaming := { stage := .streaming, grace := settings.grace } }

/-- The branch of a stage. -/
def branchOf : Stage → Nat
  | .storage => 0
  | .streaming => 1

/-- The input of a stage. -/
def inputOf (f : Flow) (stage : Stage) : Option (Channel (Snapshot Float)) :=
  (f.fanOut.branches[branchOf stage]?).map Branch.output

def setInput (f : Flow) (stage : Stage) (input : Channel (Snapshot Float)) : Flow :=
  { f with fanOut := f.fanOut.modify (branchOf stage) fun b => { b with output := input } }

/-! ## 2. Scrapes -/

/-- The lateness that a tick is allowed before the ticks after it are put off. -/
def tickSlack : Nat := 5000000

/-- Starts a scrape. A tick that comes late puts off all later ones. -/
def tick (now : Nat) (f : Flow) : Option Flow :=
  if f.scraping && decide (f.nextTick ≤ now) then
    let from_ := if f.nextTick + tickSlack < now then now else f.nextTick
    some { f with
      nextTick := from_ + f.settings.scrapeInterval.nanos
      scrapes := f.scrapes ++ [{ id := f.scrapesStarted }]
      scrapesStarted := f.scrapesStarted + 1 }
  else none

/-- A scrape ends. What it brought is folded, however little it is. -/
def endScrape (f : Flow) (id : Nat) (how : ScrapeEnding) : Option (Flow × List Event) :=
  if f.scrapes.any fun s => s.id == id && s.ended.isNone then
    let ended (crash : Option Crash) : List ScrapeTask :=
      f.scrapes.map fun s => if s.id = id then { s with ended := some crash } else s
    match how with
    | .brought scrape =>
      some ({ f with scrapes := ended none, aggregator := f.aggregator.push scrape.sample },
        scrape.failures.map .groupMissing)
    | .crashed crash => some ({ f with scrapes := ended (some crash) }, [])
  else none

/-- Notices the end of a scrape. -/
def join (f : Flow) (id : Nat) : Option (Flow × List Event) := do
  let task ← f.scrapes.find? fun s => s.id == id
  let crash ← task.ended
  return ({ f with scrapes := f.scrapes.filter fun s => s.id != id },
    crash.toList.map .scrapeCrashed)

/-- Starts no more scrapes and breaks off those under way. -/
def endScraping (f : Flow) : Flow :=
  { f with scraping := false, scrapes := [] }

/-! ## 3. Storing -/

/-- Begins to save a snapshot. -/
def beginSave (f : Flow) (s : Snapshot Float) : Flow :=
  match s.record with
  | .error fault => { f with saving := .unwritable fault }
  | .ok record =>
    { f with
      saving := .underWay f.savesStarted
      jobs := f.jobs ++ [⟨f.savesStarted, record, s.timestamp⟩]
      savesStarted := f.savesStarted + 1 }

/-- A save ends. The stage learns of it if it still waits for that save. -/
def endSave (f : Flow) (id : Nat) (how : SaveEnding) : Option Flow :=
  if f.jobs.any fun j => j.id == id then
    let f := { f with jobs := f.jobs.filter fun j => j.id != id }
    some (if f.saving = .underWay id then { f with saving := .ended how } else f)
  else none

/-- A move of the storage stage. A snapshot is handled when its save is over, or when it cannot be
saved. -/
def stepStorage (now : Nat) (cancelled : Bool) (f : Flow) (move : Consumer.Move) :
    Option (Flow × List Event) := do
  let input ← f.inputOf .storage
  let (storage, input, events) ← f.storage.step now cancelled input move
  let f := { f.setInput .storage input with storage }
  match move, storage.inHand?, f.saving with
  | .receive, some s, _ => return (f.beginSave s, events)
  | .complete, _, .ended how => return ({ f with saving := .idle }, how.events)
  | .complete, _, .unwritable fault => return ({ f with saving := .idle }, [.recordMissing fault])
  | .complete, _, _ => none
  | .expire, _, _ | .crash _, _, _ => return ({ f with saving := .idle }, events)
  | _, _, _ => return (f, events)

/-! ## 4. Streaming -/

/-- The registry that snapshots are broadcast to. -/
abbrev Subscribers := Registry Party (Snapshot Float)

/-- A move of the streaming stage. A snapshot is handled when its broadcast is done. -/
def stepStreaming (now : Nat) (cancelled : Bool) (f : Flow) (r : Subscribers)
    (move : Consumer.Move) : Option (Flow × Subscribers × List Event) := do
  let input ← f.inputOf .streaming
  let (streaming, input, events) ← f.streaming.step now cancelled input move
  let f := { f.setInput .streaming input with streaming }
  match move, streaming.inHand? with
  | .receive, some s =>
    let r ← r.ask .stage (.broadcast s)
    return ({ f with delivered := false }, r, events)
  | .complete, _ => if f.delivered then return ({ f with delivered := false }, r, events) else none
  | .expire, _ | .crash _, _ => return (f, r.cancel .stage, events)
  | _, _ => return (f, r, events)

/-- The streaming stage has ended and asks to close all subscriptions. A stage that broke off does
not. -/
def close (f : Flow) (r : Subscribers) : Option (Flow × Subscribers) :=
  match f.closing, f.streaming.ending? with
  | .pending, some .drained | .pending, some .abandoned => do
    let r ← r.ask .stage .stopAll
    return ({ f with closing := .asked }, r)
  | _, _ => none

/-- Whether the task of a stage is over. -/
def isOver (f : Flow) : Stage → Bool
  | .storage => f.storage.ending?.isSome
  | .streaming =>
    match f.streaming.ending? with
    | some (.crashed _) => true
    | some _ => f.closing == .done
    | none => false

/-- How the consumer of a stage ended. -/
def endingOf (f : Flow) : Stage → Option Consumer.Ending
  | .storage => f.storage.ending?
  | .streaming => f.streaming.ending?

/-- Takes note of what the streaming stage was answered. -/
def answered (f : Flow) : Registry.Answer → Flow
  | .delivered => { f with delivered := true }
  | .stopped => { f with closing := .done }
  | _ => f

/-! ## 5. Moves -/

inductive Move where
  /-- Serving the subscribers ends. -/
  | serveEnds (how : ServeEnding)
  | tick
  | scrapeEnds (id : Nat) (how : ScrapeEnding)
  | join (id : Nat)
  | aggregate (move : Aggregator.Move Float)
  | relay (move : FanOut.Move (Snapshot Float))
  | storage (move : Consumer.Move)
  | saveEnds (id : Nat) (how : SaveEnding)
  | streaming (move : Consumer.Move)
  | close
  | subscribers (move : Registry.Move Party (Snapshot Float))
  deriving Repr

/-- What a move brings besides the new state. -/
inductive Outcome where
  | event (e : Event)
  /-- A guest of the registry is done. -/
  | answered (guest : Nat) (answer : Registry.Answer)
  deriving DecidableEq, Repr

/-- Takes note of the outcomes of a move of the registry. -/
def note (f : Flow) : List (Registry.Outcome Party) → Flow × List Outcome
  | [] => (f, [])
  | .event e :: os =>
    let (f, out) := f.note os
    (f, .event e :: out)
  | .done .stage answer :: os => (f.answered answer).note os
  | .done (.guest n) answer :: os =>
    let (f, out) := f.note os
    (f, .answered n answer :: out)

/-- Whether a move of the registry is one of its own or a guest's. -/
def isForeign : Registry.Move Party (Snapshot Float) → Bool
  | .ask .stage _ | .cancel .stage => false
  | _ => true

/-- Whether the fan-out makes a move by itself. -/
def isOwn : FanOut.Move (Snapshot Float) → Bool
  | .read | .offer _ | .settle => true
  | _ => false

/-- The effect of a move at an instant, if it is possible. -/
def step (now : Nat) (cancelled : Bool) (f : Flow) (r : Subscribers) :
    Move → Option (Flow × Subscribers × List Outcome)
  | .serveEnds how =>
    match f.serving with
    | .underWay => some ({ f with serving := .ended how }, r, [])
    | _ => none
  | .tick => (f.tick now).map fun f => (f, r, [])
  | .scrapeEnds id how => (f.endScrape id how).map fun (f, es) => (f, r, es.map .event)
  | .join id => if f.scraping then (f.join id).map fun (f, es) => (f, r, es.map .event) else none
  | .aggregate (.push _) => none
  | .aggregate move =>
    (f.aggregator.step now cancelled f.fanOut.input move).map fun (aggregator, input, es) =>
      ({ f with aggregator, fanOut := { f.fanOut with input } }, r, es.map .event)
  | .relay move =>
    if isOwn move then
      (f.fanOut.step move).map fun (fanOut, es) => ({ f with fanOut }, r, es.map .event)
    else none
  | .storage move => (f.stepStorage now cancelled move).map fun (f, es) => (f, r, es.map .event)
  | .saveEnds id how => (f.endSave id how).map fun f => (f, r, [])
  | .streaming move =>
    (f.stepStreaming now cancelled r move).map fun (f, r, es) => (f, r, es.map .event)
  | .close => (f.close r).map fun (f, r) => (f, r, [])
  | .subscribers move =>
    if isForeign move then
      (r.step now move).map fun (r, os) =>
        let (f, out) := f.note os
        (f, r, out)
    else none

/-- The instants at which something is due. -/
def due (f : Flow) : List Nat :=
  (if f.scraping then [f.nextTick] else []) ++ f.aggregator.due ++ f.storage.due ++ f.streaming.due

end Flow

end Vitals
