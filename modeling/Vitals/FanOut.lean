import Vitals.Channel
import Vitals.Event

/-!
# Fan-out

The fan-out reads items from one channel and passes each of them to every branch. An item is
offered to all branches at once, and the next one is read when every branch has taken or refused
the last. This file fixes

* `Branch`, a branch with its channel and what it did with the item under way;
* `FanOut`, and `FanOut.Move`, everything that can happen to it: its own three moves, `read`,
  `offer` and `settle`, and those of the world around it;
* `FanOut.step`, the effect of a move that is possible. Any order of moves is a run.
-/

namespace Vitals

/-! ## 1. Branches -/

/-- Where a branch stands with the item under way. -/
inductive Standing where
  /-- No item is under way. -/
  | ready
  /-- The item waits for room. -/
  | offered
  | accepted
  /-- The receiver is gone. -/
  | refused
  /-- The branch was removed for good. -/
  | removed
  deriving DecidableEq, Repr

structure Branch (α : Type) where
  name : String
  output : Channel α
  standing : Standing := .ready
  deriving DecidableEq, Repr

namespace Branch

variable {α : Type}

/-- Registers a branch with room for `buffer` items behind the others. -/
def register (buffer : Nat) (bs : List (Branch α)) (name : String) :
    Except Fault (List (Branch α)) :=
  if bs.any fun b => b.name == name then .error (.duplicateBranch name)
  else .ok (bs ++ [{ name := name, output := Channel.new buffer }])

/-- A new item is under way. -/
def begin (b : Branch α) : Branch α :=
  if b.standing = .removed then b else { b with standing := .offered }

/-- Whether the branch still has to answer to the item under way. -/
def isOpen (b : Branch α) : Bool :=
  b.standing == .offered

/-- The item is dealt with: a branch that refused it is removed. -/
def conclude (b : Branch α) : Branch α :=
  match b.standing with
  | .removed => b
  | .refused => { b with output := b.output.closeSender, standing := .removed }
  | _ => { b with standing := .ready }

/-- No more items will come. -/
def close (b : Branch α) : Branch α :=
  { b with output := b.output.closeSender }

/-- The answer of a branch to an item, if it has one. -/
def answer (b : Branch α) (a : α) : Option (Branch α) :=
  if b.standing = .offered then
    match b.output.offer a with
    | .accepted c => some { b with output := c, standing := .accepted }
    | .full => none
    | .refused => some { b with standing := .refused }
  else none

end Branch

/-! ## 2. The fan-out -/

/-- What the fan-out is about. -/
inductive FanOut.Phase (α : Type) where
  | reading
  | sending (item : α)
  | finished
  deriving DecidableEq, Repr

structure FanOut (α : Type) where
  input : Channel α
  branches : List (Branch α)
  phase : FanOut.Phase α := .reading
  deriving DecidableEq, Repr

namespace FanOut

variable {α : Type}

/-- A fan-out to branches of the given names. -/
def new (buffer : Nat) (input : Channel α) (names : List String) : Except Fault (FanOut α) := do
  let branches ← names.foldlM (Branch.register buffer) []
  return { input, branches }

def isFinished (f : FanOut α) : Bool :=
  match f.phase with
  | .finished => true
  | _ => false

/-- Changes one branch. -/
def modify (f : FanOut α) (i : Nat) (g : Branch α → Branch α) : FanOut α :=
  { f with branches := f.branches.modify i g }

/-- Reads the next item and offers it to the branches, or finishes when there will be none. -/
def read (f : FanOut α) : Option (FanOut α) :=
  match f.phase with
  | .reading =>
    match f.input.poll with
    | .item a rest =>
      some { input := rest, branches := f.branches.map Branch.begin, phase := .sending a }
    | .empty => none
    | .ended => some { f with branches := f.branches.map Branch.close, phase := .finished }
  | _ => none

/-- A branch answers to the item under way. -/
def offer (f : FanOut α) (i : Nat) : Option (FanOut α) :=
  match f.phase with
  | .sending a => do
    let b ← f.branches[i]?
    let b ← b.answer a
    return { f with branches := f.branches.set i b }
  | _ => none

/-- Ends with the item under way once every branch has answered; branches that refused it are
removed. -/
def settle (f : FanOut α) : Option (FanOut α × List Event) :=
  match f.phase with
  | .sending _ =>
    if f.branches.any Branch.isOpen then none
    else
      let removed := f.branches.filter fun b => b.standing == .refused
      some ({ f with branches := f.branches.map Branch.conclude, phase := .reading },
        removed.map fun b => .branchRemoved b.name)
  | _ => none

/-! ## 3. Moves -/

inductive Move (α : Type) where
  | read
  | offer (branch : Nat)
  | settle
  /-- The world sends an item. -/
  | send (item : α)
  /-- The world ends the input. -/
  | close
  /-- The world receives from a branch. -/
  | receive (branch : Nat)
  /-- The world drops the receiver of a branch. -/
  | drop (branch : Nat)
  deriving DecidableEq, Repr

/-- The effect of a move, if it is possible, with the events it brings. -/
def step (f : FanOut α) : Move α → Option (FanOut α × List Event)
  | .read => f.read.map fun f => (f, [])
  | .offer i => (f.offer i).map fun f => (f, [])
  | .settle => f.settle
  | .send a =>
    match f.input.senderAlive, f.input.offer a with
    | true, .accepted c => some ({ f with input := c }, [])
    | _, _ => none
  | .close => some ({ f with input := f.input.closeSender }, [])
  | .receive i => do
    let b ← f.branches[i]?
    match b.output.poll with
    | .item _ rest => some (f.modify i fun b => { b with output := rest }, [])
    | _ => none
  | .drop i => some (f.modify i fun b => { b with output := b.output.dropReceiver }, [])

/-- The moves of the fan-out itself, in the order in which they are tried when time stands
still. -/
def ownMoves (f : FanOut α) : List (Move α) :=
  .read :: (List.range f.branches.length).map .offer ++ [.settle]

end FanOut

end Vitals
