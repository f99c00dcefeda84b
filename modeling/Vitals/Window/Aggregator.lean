import Vitals.Channel
import Vitals.Event
import Vitals.Window.Accumulator

/-!
# The aggregator

The aggregator folds samples into the open window and closes the window when its time is over. A
window with samples becomes a snapshot, which is sent before the next window can close; a window
without samples brings nothing. Windows are `warmup` long until the first snapshot was sent, and
`steady` long from then on. The end of a window is counted from the planned end of the last one,
so that a consumer that stalls delays snapshots but does not shift the windows. This file fixes

* `WindowPhase`, and `Aggregator` with `Aggregator.Stand`, where its timer task stands;
* `Aggregator.Move`, everything that can happen to it, and `Aggregator.step`, the effect of a move
  that is possible at an instant, on the aggregator and on the channel it sends to.

A cancelled aggregator makes no other move than `halt`. Samples can be pushed at any time, also
when it has stopped.

The timer task runs beside those that push samples and the one that signals the shutdown. It looks
at the shutdown whenever it is woken and once more when it has closed a window, and each of these
looks begins a move. What it does from one look to the next is one move:

* It closes the window under the lock that a push takes too, so that a push comes before the end of
  the window or after it.
* A shutdown that is signalled after the look comes after the move. The snapshot that it sends
  meanwhile is one that it would also have sent if the shutdown had been signalled a little later.
-/

namespace Vitals

inductive WindowPhase where
  /-- No snapshot was sent yet. -/
  | warmup
  | steady
  deriving DecidableEq, Repr, Inhabited

namespace WindowPhase

def all : List WindowPhase :=
  [.warmup, .steady]

def name : WindowPhase → String
  | .warmup => "warmup"
  | .steady => "steady"

end WindowPhase

/-- Where the timer task stands. -/
inductive Aggregator.Stand (ν : Type) where
  /-- The open window ends at the deadline. -/
  | waiting (deadline : Nat)
  /-- The snapshot of a window that ended at the deadline waits for room. -/
  | sending (snapshot : Snapshot ν) (deadline : Nat)
  | stopped
  deriving DecidableEq, Repr

structure Aggregator (ν : Type) where
  /-- The length of windows up to the first snapshot, and after it. -/
  warmup : Duration
  steady : Duration
  phase : WindowPhase := .warmup
  /-- The samples of the open window. -/
  window : Accumulator ν
  stand : Aggregator.Stand ν
  deriving Repr

namespace Aggregator

variable {ν : Type} [Averageable ν]

/-- An aggregator that starts at an instant. -/
def start (warmup steady : Duration) (now : Nat) : Aggregator ν :=
  { warmup, steady, window := Accumulator.empty, stand := .waiting (now + warmup.nanos) }

/-- The length of a window. -/
def length (a : Aggregator ν) : WindowPhase → Nat
  | .warmup => a.warmup.nanos
  | .steady => a.steady.nanos

/-- The number of samples in the open window. -/
def pending (a : Aggregator ν) : Nat :=
  a.window.count

def isStopped (a : Aggregator ν) : Bool :=
  match a.stand with
  | .stopped => true
  | _ => false

/-- Folds a sample into the open window. -/
def push (a : Aggregator ν) (s : Sample ν) : Aggregator ν :=
  { a with window := a.window.fold s }

/-! ## Moves -/

inductive Move (ν : Type) where
  | push (sample : Sample ν)
  /-- The window ends; its snapshot is stamped with the wall-clock time. -/
  | fire (stamp : Moment)
  | send
  /-- The aggregator sees that it was cancelled. -/
  | halt
  deriving Repr

/-- Closes the window at its end. -/
def fire (now : Nat) (a : Aggregator ν) (stamp : Moment) : Option (Aggregator ν) :=
  match a.stand with
  | .waiting deadline =>
    if deadline ≤ now then
      match a.window.take stamp with
      | (none, _) => some { a with stand := .waiting (deadline + a.length a.phase) }
      | (some snapshot, window) => some { a with window, stand := .sending snapshot deadline }
    else none
  | _ => none

/-- The snapshot that waits is sent, or finds that no one takes it. -/
def send (a : Aggregator ν) (out : Channel (Snapshot ν)) :
    Option (Aggregator ν × Channel (Snapshot ν) × List Event) :=
  match a.stand with
  | .sending snapshot deadline =>
    match out.offer snapshot with
    | .accepted out =>
      some ({ a with phase := .steady, stand := .waiting (deadline + a.length .steady) }, out, [])
    | .full => none
    | .refused => some ({ a with stand := .stopped }, out.closeSender, [.aggregatorCutOff])
  | _ => none

/-- The effect of a move at an instant, if it is possible. -/
def step (now : Nat) (cancelled : Bool) (a : Aggregator ν) (out : Channel (Snapshot ν)) :
    Move ν → Option (Aggregator ν × Channel (Snapshot ν) × List Event)
  | .push sample => some (a.push sample, out, [])
  | .fire stamp => if cancelled then none else (a.fire now stamp).map fun a => (a, out, [])
  | .send => if cancelled then none else a.send out
  | .halt =>
    if cancelled && !a.isStopped then some ({ a with stand := .stopped }, out.closeSender, [])
    else none

/-- The end of the open window. -/
def due (a : Aggregator ν) : List Nat :=
  match a.stand with
  | .waiting deadline => [deadline]
  | _ => []

end Aggregator

end Vitals
