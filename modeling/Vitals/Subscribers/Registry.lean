import Vitals.Channel
import Vitals.Event
import Vitals.Subscribers.Policy

/-!
# The registry of subscribers

Every subscriber has a channel of its own, registered under an id that is used once. Tasks work on
the registry one at a time, under a lock that is granted in the order in which it was asked for.
Only a broadcast keeps the lock while it waits: it goes through the registered subscribers in the
order of their ids and waits at each one that has no room. This file fixes

* `Request`, what tasks ask the lock for, and `Answer`, what they get;
* `Delivery`, a broadcast that holds the lock, and how far it has come;
* `Registry` with the tasks that wait for the lock, and `Registry.Move`, everything that can
  happen to it;
* `Registry.step`, the effect of a move that is possible at an instant.

A channel is closed together with the removal of its id, in one move.
-/

namespace Vitals

/-- The name of a subscription; the first one is 1. -/
abbrev SubscriberId := Nat

namespace Registry

/-! ## 1. Requests -/

/-- What a task does once it has the lock. -/
inductive Request (α : Type) where
  /-- Register an id that was drawn before. -/
  | subscribe (id : SubscriberId)
  | remove (id : SubscriberId)
  | broadcast (item : α)
  /-- Close every subscription, for good. -/
  | stopAll
  | count
  deriving DecidableEq, Repr

inductive Answer where
  | subscribed (id : SubscriberId)
  | removed (wasRegistered : Bool)
  | delivered
  | stopped
  | counted (n : Nat)
  deriving DecidableEq, Repr

/-- What a move brings besides the new state. -/
inductive Outcome (τ : Type) where
  | event (e : Event)
  /-- A task is done. -/
  | done (task : τ) (answer : Answer)
  deriving DecidableEq, Repr

/-- A broadcast that holds the lock. -/
structure Delivery (τ α : Type) where
  task : τ
  item : α
  /-- The subscribers still to be served, the one it waits for first. -/
  remaining : List SubscriberId
  /-- The instant at which the first of `remaining` was reached. -/
  since : Nat
  /-- The subscribers whose receiver turned out to be gone. -/
  lost : List SubscriberId
  deriving DecidableEq, Repr

end Registry

/-! ## 2. The registry -/

structure Registry (τ α : Type) where
  /-- The room in each subscriber's channel. -/
  buffer : Nat
  policy : DeliveryPolicy
  /-- The channel of every id drawn so far, that of id 1 first. -/
  channels : List (Channel α) := []
  /-- The ids drawn by tasks that have not asked for the lock yet. -/
  drawn : List SubscriberId := []
  /-- The ids that broadcasts go to, in ascending order. -/
  registered : List SubscriberId := []
  /-- Whether all subscriptions were closed for good. -/
  stopped : Bool := false
  /-- The tasks that wait for the lock, the next one first. -/
  waiters : List (τ × Registry.Request α) := []
  /-- The broadcast that holds the lock. -/
  holder : Option (Registry.Delivery τ α) := none
  deriving DecidableEq, Repr

namespace Registry

variable {τ α : Type}

def new (buffer : Nat) (policy : DeliveryPolicy) : Registry τ α :=
  { buffer, policy }

/-- The id that is drawn next. -/
def nextId (r : Registry τ α) : SubscriberId :=
  r.channels.length + 1

def channel? (r : Registry τ α) (id : SubscriberId) : Option (Channel α) :=
  if id = 0 then none else r.channels[id - 1]?

def modifyChannel (r : Registry τ α) (id : SubscriberId) (f : Channel α → Channel α) :
    Registry τ α :=
  if id = 0 then r else { r with channels := r.channels.modify (id - 1) f }

/-- A change of one channel leaves the others as they were. -/
theorem channel?_modifyChannel (r : Registry τ α) (i j : Nat) (f : Channel α → Channel α) :
    (r.modifyChannel i f).channel? j = if i = j then (r.channel? j).map f else r.channel? j := by
  unfold modifyChannel channel?
  by_cases hj : j = 0
  · simp [hj]
  · by_cases hi : i = 0
    · have hij : i ≠ j := by omega
      simp [hi, hj, Ne.symm hj]
    · have hij : i - 1 = j - 1 ↔ i = j := by omega
      by_cases h : i = j
      · simp [h, hj]
      · simp [hi, hj, h, hij]

theorem registered_modifyChannel (r : Registry τ α) (i : SubscriberId)
    (f : Channel α → Channel α) : (r.modifyChannel i f).registered = r.registered := by
  unfold modifyChannel
  split <;> rfl

/-- Whether a broadcast keeps the lock. -/
def isLocked (r : Registry τ α) : Bool :=
  r.holder.isSome

/-- Puts an id in its place among others. -/
def insert (id : SubscriberId) : List SubscriberId → List SubscriberId
  | [] => [id]
  | i :: is => if id ≤ i then id :: i :: is else i :: insert id is

/-- Takes ids out of the registry and closes their channels. -/
def unregister (r : Registry τ α) (ids : List SubscriberId) : Registry τ α :=
  ids.foldl (fun r id => { r with registered := r.registered.erase id }.modifyChannel id
    Channel.closeSender) r

/-! ## 3. Under the lock -/

/-- Draws an id, with an open channel that nothing is sent to yet. -/
def draw (r : Registry τ α) : Registry τ α :=
  { r with channels := r.channels ++ [Channel.new r.buffer], drawn := r.drawn ++ [r.nextId] }

/-- What a task does when it gets the lock. -/
def perform (now : Nat) (r : Registry τ α) (task : τ) :
    Request α → Registry τ α × List (Outcome τ)
  | .subscribe id =>
    (if r.stopped then r.modifyChannel id Channel.closeSender
      else { r with registered := insert id r.registered },
      [.done task (.subscribed id)])
  | .remove id =>
    if r.registered.contains id then (r.unregister [id], [.done task (.removed true)])
    else (r, [.done task (.removed false)])
  | .broadcast item =>
    ({ r with holder := some ⟨task, item, r.registered, now, []⟩ }, [])
  | .stopAll =>
    ({ r.unregister r.registered with stopped := true }, [.done task .stopped])
  | .count => (r, [.done task (.counted r.registered.length)])

/-- The task that has waited longest gets the lock, if it is free. -/
def grant (now : Nat) (r : Registry τ α) : Option (Registry τ α × List (Outcome τ)) :=
  match r.holder, r.waiters with
  | none, (task, request) :: waiters => some ({ r with waiters }.perform now task request)
  | _, _ => none

/-- The broadcast is through with the first of the remaining subscribers. -/
def Delivery.next (d : Delivery τ α) (now : Nat) : Delivery τ α :=
  { d with remaining := d.remaining.tail, since := now }

/-- The subscriber that the broadcast waits for takes the item, or turns out to be gone. -/
def deliver (now : Nat) (r : Registry τ α) : Option (Registry τ α) := do
  let d ← r.holder
  let id ← d.remaining.head?
  let c ← r.channel? id
  match c.offer d.item with
  | .accepted c => some { r.modifyChannel id (fun _ => c) with holder := some (d.next now) }
  | .refused => some { r with holder := some { d.next now with lost := d.lost ++ [id] } }
  | .full => none

/-- The subscriber that the broadcast waits for misses the item, because its time is over and it
has no room. -/
def skip (now : Nat) (r : Registry τ α) : Option (Registry τ α × Event) :=
  match r.policy with
  | .block => none
  | .dropAfter timeout => do
    let d ← r.holder
    let id ← d.remaining.head?
    let c ← r.channel? id
    match c.offer d.item with
    | .full =>
      if d.since + timeout.nanos ≤ now then
        some ({ r with holder := some (d.next now) }, .snapshotSkipped id timeout)
      else none
    | _ => none

/-- The broadcast ends: lost subscribers are removed and the lock is free. -/
def finish (r : Registry τ α) : Option (Registry τ α × List (Outcome τ)) := do
  let d ← r.holder
  if d.remaining.isEmpty then
    some ({ r.unregister d.lost with holder := none }, [.done d.task .delivered])
  else none

/-! ## 4. Cancelling -/

/-- A subscription that will not be handed out is given up at both ends. -/
def Request.forget (r : Registry τ α) : Request α → Registry τ α
  | .subscribe id => r.modifyChannel id fun c => c.closeSender.dropReceiver
  | _ => r

/-- Cancels a task that waits for the lock, or gives the lock of a broadcast back. -/
def cancel [DecidableEq τ] (r : Registry τ α) (task : τ) : Registry τ α :=
  let (out, stay) := r.waiters.partition fun w => w.1 = task
  let r := out.foldl (fun r w => w.2.forget r) { r with waiters := stay }
  if r.holder.any fun d => d.task = task then { r with holder := none } else r

/-! ## 5. Moves -/

inductive Move (τ α : Type) where
  /-- A task draws an id. -/
  | draw
  /-- A task asks for the lock. -/
  | ask (task : τ) (request : Request α)
  | grant
  | deliver
  | skip
  | finish
  | cancel (task : τ)
  /-- A subscriber receives. -/
  | receive (id : SubscriberId)
  /-- A subscriber drops its receiver. -/
  | drop (id : SubscriberId)
  deriving DecidableEq, Repr

/-- Asks for the lock. Only an id that was drawn can be subscribed, and only once. -/
def ask (r : Registry τ α) (task : τ) (request : Request α) : Option (Registry τ α) :=
  let wait (r : Registry τ α) : Registry τ α := { r with waiters := r.waiters ++ [(task, request)] }
  match request with
  | .subscribe id =>
    if r.drawn.contains id then some (wait { r with drawn := r.drawn.erase id }) else none
  | _ => some (wait r)

/-- The effect of a move at an instant, if it is possible. -/
def step [DecidableEq τ] (now : Nat) (r : Registry τ α) :
    Move τ α → Option (Registry τ α × List (Outcome τ))
  | .draw => some (r.draw, [])
  | .ask task request => (r.ask task request).map fun r => (r, [])
  | .grant => r.grant now
  | .deliver => (r.deliver now).map fun r => (r, [])
  | .skip => (r.skip now).map fun (r, e) => (r, [.event e])
  | .finish => r.finish
  | .cancel task => some (r.cancel task, [])
  | .receive id => do
    let c ← r.channel? id
    match c.poll with
    | .item _ rest => some (r.modifyChannel id fun _ => rest, [])
    | _ => none
  | .drop id => some (r.modifyChannel id Channel.dropReceiver, [])

/-- The moves that need no one else, in the order in which they are tried when time stands
still. -/
def ownMoves : List (Move τ α) :=
  [.deliver, .skip, .finish, .grant]

/-- The instants at which a broadcast's patience with a subscriber ends. -/
def due (r : Registry τ α) : List Nat :=
  match r.policy, r.holder with
  | .dropAfter timeout, some d => if d.remaining.isEmpty then [] else [d.since + timeout.nanos]
  | _, _ => []

end Registry

end Vitals
