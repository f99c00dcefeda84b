import Vitals.Channel
import Vitals.Event

/-!
# Consumers

A consumer takes items from its input one at a time and handles each of them to the end before it
takes the next. After a shutdown it goes on for a limited time, the grace, counted from the moment
it sees the shutdown. This file fixes

* `Consumer`, with `Consumer.Stand`, where it stands, and `Consumer.Ending`, how it ended;
* `Consumer.Move` and `Consumer.step`, the effect of a move that is possible at an instant, on the
  consumer and on its input.

What handling an item means is left to the user of this file, who makes the move `complete`. A
consumer looks at the shutdown and at its deadline before anything else, so that past either it
neither takes an item nor notices that one was handled. When its grace is over it looks at its
input up to three times: whether it is empty; if so, whether a sender is left, and if there is none
the consumer counts as *drained*; otherwise once more whether a sender is left. Then it closes its
input, and what it gives up is counted in one event.

Its senders are tasks of their own, and go on meanwhile: an item can come, and a sender can go,
between any two of these looks. So each of them is a move. What else the consumer does when it is
woken, up to the point where it waits again, is one move, with what others do in the meantime told
as if it came before or after it:

* It finds that neither the shutdown nor its deadline has come, and then takes an item, or notices
  that one was handled, or that its input has ended. A shutdown that is signalled in between comes
  after the move.
* It closes its input and takes out what is buffered, until it finds nothing more; the move is made
  then. No sender gets room in a closed input, so that what comes into it meanwhile comes from one
  that had got room before, and is counted.
-/

namespace Vitals

/-- How a consumer ended. -/
inductive Consumer.Ending where
  /-- It found its input at an end. -/
  | drained
  /-- The grace was over first. -/
  | abandoned
  /-- The task of the consumer broke off. -/
  | crashed (crash : Crash)
  deriving DecidableEq, Repr

/-- Where a consumer stands. -/
inductive Consumer.Stand (α : Type) where
  | receiving
  | handling (item : α)
  /-- The grace is over and the input was found empty; nothing is known of its senders yet. -/
  | checking
  /-- It gives up, with the item that was in its hand. -/
  | leaving (item : Option α)
  /-- It gives up, and has seen whether a sender was left. -/
  | parting (item : Option α) (upstreamOpen : Bool)
  | ended (how : Consumer.Ending)
  deriving DecidableEq, Repr

structure Consumer (α : Type) where
  stage : Stage
  grace : Duration
  /-- The instant at which the grace is over, once the shutdown was seen. -/
  graceEnds : Option Nat := none
  stand : Consumer.Stand α := .receiving
  deriving DecidableEq, Repr

namespace Consumer

variable {α : Type}

def ending? (c : Consumer α) : Option Ending :=
  match c.stand with
  | .ended how => some how
  | _ => none

/-- The item being handled. -/
def inHand? (c : Consumer α) : Option α :=
  match c.stand with
  | .handling item => some item
  | _ => none

/-- Whether the grace is over. -/
def isOverdue (now : Nat) (c : Consumer α) : Bool :=
  c.graceEnds.any fun t => decide (t ≤ now)

/-- Whether the consumer may go on with its work: it has seen the shutdown, if there was one, and
its grace is not over. -/
def mayWork (now : Nat) (cancelled : Bool) (c : Consumer α) : Bool :=
  (!cancelled || c.graceEnds.isSome) && !c.isOverdue now

inductive Move where
  /-- See the shutdown. -/
  | observe
  /-- Take the next item. -/
  | receive
  /-- Notice the end of the input. -/
  | finish
  /-- Notice that the item in hand was handled. -/
  | complete
  /-- Notice that the grace is over: break off the item in hand, or look whether one is left. -/
  | expire
  /-- Look whether an input that was found empty has a sender left. -/
  | check
  /-- Look whether there is a sender left behind what is given up. -/
  | look
  /-- Close the input and give up what is left. -/
  | abandon
  /-- The task breaks off. -/
  | crash (crash : Crash)
  deriving DecidableEq, Repr

/-- Gives up the item that was in hand and all that are buffered. -/
def abandon (c : Consumer α) (input : Channel α) (item : Option α) (upstreamOpen : Bool) :
    Consumer α × Channel α × List Event :=
  ({ c with stand := .ended .abandoned }, input.dropReceiver,
    [.stageAbandoned c.stage c.grace (item.toList.length + input.items.length) upstreamOpen])

/-- The effect of a move at an instant, if it is possible. -/
def step (now : Nat) (cancelled : Bool) (c : Consumer α) (input : Channel α) :
    Move → Option (Consumer α × Channel α × List Event)
  | .observe =>
    if cancelled && c.graceEnds.isNone && c.ending?.isNone then
      some ({ c with graceEnds := some (now + c.grace.nanos) }, input, [])
    else none
  | .receive =>
    match c.stand, c.mayWork now cancelled, input.poll with
    | .receiving, true, .item item rest => some ({ c with stand := .handling item }, rest, [])
    | _, _, _ => none
  | .finish =>
    match c.stand, c.mayWork now cancelled, input.poll with
    | .receiving, true, .ended =>
      some ({ c with stand := .ended .drained }, input.dropReceiver, [])
    | _, _, _ => none
  | .complete =>
    match c.stand, c.mayWork now cancelled with
    | .handling _, true => some ({ c with stand := .receiving }, input, [])
    | _, _ => none
  | .expire =>
    match c.stand, c.isOverdue now with
    | .receiving, true =>
      some ({ c with stand := if input.items.isEmpty then .checking else .leaving none }, input, [])
    | .handling item, true => some ({ c with stand := .leaving (some item) }, input, [])
    | _, _ => none
  | .check =>
    match c.stand with
    | .checking =>
      if input.senderAlive then some ({ c with stand := .leaving none }, input, [])
      else some ({ c with stand := .ended .drained }, input.dropReceiver, [])
    | _ => none
  | .look =>
    match c.stand with
    | .leaving item => some ({ c with stand := .parting item input.senderAlive }, input, [])
    | _ => none
  | .abandon =>
    match c.stand with
    | .parting item upstreamOpen => some (c.abandon input item upstreamOpen)
    | _ => none
  | .crash crash =>
    match c.stand with
    | .ended _ => none
    | _ => some ({ c with stand := .ended (.crashed crash) }, input.dropReceiver, [])

/-- The end of the grace. -/
def due (c : Consumer α) : List Nat :=
  if c.ending?.isSome then [] else c.graceEnds.toList

end Consumer

end Vitals
