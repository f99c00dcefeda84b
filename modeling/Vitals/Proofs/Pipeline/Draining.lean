import Vitals.Proofs.Course
import Vitals.Proofs.Pipeline.Consumer

/-!
# A consumer at work

A consumer does not run alone: senders fill its input and go away, someone signals the shutdown,
and the handler of the item in hand takes its time. This file fixes

* `Draining`, a consumer with its input, the shutdown and its handler, and `Draining.step`, in
  which the moves of the consumer and those of the world come in any order: a sender first gets
  room for an item, and then puts it there, whatever happens in between;
* `Effect`, everything that a step can do, with `effect_of_step`: all that is proved about a step
  goes through it;
* the histories of a course: the items that the input `accepted`, those that the consumer has
  `begun` to handle, those whose handlers were `completed` and those that it `missed`, and when the
  shutdown came (`cancelledAt?`).
-/

namespace Vitals

/-! ## 1. Events of a consumer -/

namespace Consumer

variable {α : Type}

/-- What is reported with a move: a consumer that gives up says what was in its hand and is left in
its input, and whether it saw a sender left. -/
def notice (c : Consumer α) (input : Channel α) : Move → List Event
  | .abandon =>
    match c.stand with
    | .parting item upstreamOpen =>
      [.stageAbandoned c.stage c.grace (item.toList.length + input.items.length) upstreamOpen]
    | _ => []
  | _ => []

theorem notice_of_parting {c : Consumer α} {item : Option α} {upstreamOpen : Bool}
    (input : Channel α) (h : c.stand = .parting item upstreamOpen) : c.notice input .abandon =
      [.stageAbandoned c.stage c.grace (item.toList.length + input.items.length) upstreamOpen] := by
  rw [notice, h]

/-- A consumer reports only that it gives up. -/
theorem eq_of_mem_notice {c : Consumer α} {input : Channel α} {move : Move} {e : Event}
    (h : e ∈ c.notice input move) :
    ∃ dropped upstreamOpen, e = .stageAbandoned c.stage c.grace dropped upstreamOpen := by
  unfold notice at h
  split at h
  · split at h
    · exact ⟨_, _, List.mem_singleton.mp h⟩
    · cases h
  · cases h

theorem events_of_step {now : Nat} {cancelled : Bool} {c c' : Consumer α} {input input' : Channel α}
    {move : Move} {es : List Event} (h : c.step now cancelled input move = some (c', input', es)) :
    es = c.notice input move := by
  cases move with
  | observe | receive | finish | complete | expire | look | crash =>
    simp only [step] at h
    split at h <;> cases h <;> rfl
  | check =>
    simp only [step] at h
    split at h
    · split at h <;> cases h <;> rfl
    · cases h
  | abandon =>
    simp only [step] at h
    split at h
    · rename_i item upstreamOpen hs
      cases h
      exact (notice_of_parting input hs).symm
    · cases h

end Consumer

/-! ## 2. Moves -/

namespace Channel

variable {α : Type}

/-- Puts an item into the room that was kept for it. If there is no receiver it is lost. -/
def put (c : Channel α) (item : α) : Channel α :=
  if c.receiverAlive then { c with items := c.items ++ [item] } else c

section

variable {c : Channel α} (item : α)

@[simp]
theorem senderAlive_put : (c.put item).senderAlive = c.senderAlive := by
  unfold put
  split <;> rfl

@[simp]
theorem receiverAlive_put : (c.put item).receiverAlive = c.receiverAlive := by
  unfold put
  split <;> rfl

theorem items_put (h : c.receiverAlive = true) : (c.put item).items = c.items ++ [item] := by
  rw [put, if_pos h]

end

end Channel

/-- A consumer with everything around it. -/
structure Draining (α : Type) where
  consumer : Consumer α
  input : Channel α
  /-- Whether the shutdown was signalled. -/
  cancelled : Bool := false
  /-- Whether the handler of the item in hand has come to its end. -/
  ready : Bool := false
  /-- The number of items for which a sender has got room, and which it has not put there yet. -/
  granted : Nat := 0

namespace Draining

variable {α : Type}

inductive Move (α : Type) where
  | own (move : Consumer.Move)
  /-- The handler of the item in hand comes to its end. -/
  | handled
  /-- A sender gets room for an item. -/
  | reserve
  /-- A sender puts an item into the room that it got. -/
  | send (item : α)
  /-- The last sender goes away; it is not sending. -/
  | close
  /-- Someone signals the shutdown. -/
  | cancel

/-- A consumer that has done nothing yet, with room for `capacity` items in its input. -/
def start (stage : Stage) (grace : Duration) (capacity : Nat) : Draining α :=
  { consumer := { stage, grace }, input := Channel.new capacity }

/-- Whether the consumer may make a move: it learns that an item was handled when it looks at a
handler that has come to its end, and no handler breaks off. -/
def allows (s : Draining α) : Consumer.Move → Bool
  | .complete => s.ready
  | .crash _ => false
  | _ => true

/-- The effect of a move at an instant, if it is possible. -/
def step (now : Nat) (s : Draining α) : Move α → Option (Draining α × List Event)
  | .own move =>
    if s.allows move then
      (s.consumer.step now s.cancelled s.input move).map fun (consumer, input, es) =>
        ({ s with consumer, input, ready := if move = .complete then false else s.ready }, es)
    else none
  | .handled => if s.consumer.inHand?.isSome then some ({ s with ready := true }, []) else none
  | .reserve =>
    if s.input.senderAlive && s.input.receiverAlive &&
        decide (s.input.items.length + s.granted < s.input.capacity) then
      some ({ s with granted := s.granted + 1 }, [])
    else none
  | .send item =>
    if 0 < s.granted then
      some ({ s with input := s.input.put item, granted := s.granted - 1 }, [])
    else none
  | .close =>
    if s.granted = 0 then some ({ s with input := s.input.closeSender }, []) else none
  | .cancel => some ({ s with cancelled := true }, [])

/-- Whether the consumer can make a move at an instant. -/
def Busy (now : Nat) (s : Draining α) : Prop :=
  ∃ move, (s.step now (.own move)).isSome

/-! ## 3. Steps -/

/-- **Everything that a step can do.** -/
inductive Effect (now : Nat) (s : Draining α) : Move α → Draining α → List Event → Prop where
  | own (move : Consumer.Move) (c : Consumer α) (input : Channel α)
      (ha : s.allows move = true) (he : s.consumer.Effect now s.cancelled s.input move c input) :
      Effect now s (.own move)
        { s with consumer := c, input, ready := if move = .complete then false else s.ready }
        (s.consumer.notice s.input move)
  | handled (item : α) (hs : s.consumer.inHand? = some item) :
      Effect now s .handled { s with ready := true } []
  | reserve (hs : s.input.senderAlive = true) (hr : s.input.receiverAlive = true)
      (hroom : s.input.items.length + s.granted < s.input.capacity) :
      Effect now s .reserve { s with granted := s.granted + 1 } []
  | send (item : α) (hg : 0 < s.granted) :
      Effect now s (.send item)
        { s with input := s.input.put item, granted := s.granted - 1 } []
  | close (hg : s.granted = 0) : Effect now s .close { s with input := s.input.closeSender } []
  | cancel : Effect now s .cancel { s with cancelled := true } []

section

variable {now : Nat} {s t : Draining α} {move : Move α} {es : List Event}

/-- **A step does nothing else.** -/
theorem effect_of_step (h : s.step now move = some (t, es)) : s.Effect now move t es := by
  cases move with
  | own move =>
    simp only [step] at h
    split at h
    · rename_i ha
      obtain ⟨⟨c, input, es⟩, hs, e⟩ := Option.map_eq_some_iff.mp h
      cases e
      rw [Consumer.events_of_step hs]
      exact .own move c input ha (Consumer.effect_of_step hs)
    · cases h
  | handled =>
    simp only [step] at h
    split at h
    · rename_i hi
      cases h
      obtain ⟨item, hi⟩ := Option.isSome_iff_exists.mp hi
      exact .handled item hi
    · cases h
  | reserve =>
    simp only [step] at h
    split at h
    · rename_i hc
      cases h
      rw [Bool.and_eq_true, Bool.and_eq_true, decide_eq_true_iff] at hc
      exact .reserve hc.1.1 hc.1.2 hc.2
    · cases h
  | send item =>
    simp only [step] at h
    split at h
    · rename_i hg
      cases h
      exact .send item hg
    · cases h
  | close =>
    simp only [step] at h
    split at h
    · rename_i hg
      cases h
      exact .close hg
    · cases h
  | cancel =>
    cases h
    exact .cancel

end

/-! ## 4. Histories -/

abbrev Step (α : Type) := Transition (Draining α) (Move α) Event

/-- The item that is put into the input. -/
def Step.accepted? (t : Step α) : Option α :=
  match t.move with
  | .send item => some item
  | _ => none

/-- The item that the consumer takes in hand. -/
def Step.begun? (t : Step α) : Option α :=
  match t.move with
  | .own move => Consumer.taken? t.before.input move
  | _ => none

/-- The item whose handling the consumer finds completed. -/
def Step.completed? (t : Step α) : Option α :=
  match t.move with
  | .own move => t.before.consumer.completed? move
  | _ => none

/-- The items that are left in the input when the consumer counts as drained. -/
def Step.missed (t : Step α) : List α :=
  match t.move with
  | .own move => Consumer.missed t.before.input move
  | _ => []

/-- The instant of a signal to shut down. -/
def Step.cancelledAt? (t : Step α) : Option Nat :=
  match t.move with
  | .cancel => some t.now
  | _ => none

/-- The items that the input accepted so far. -/
def accepted (ts : List (Step α)) : List α :=
  ts.filterMap Step.accepted?

/-- The items that the consumer has begun to handle so far. -/
def begun (ts : List (Step α)) : List α :=
  ts.filterMap Step.begun?

/-- The items whose handlers have run to completion so far. -/
def completed (ts : List (Step α)) : List α :=
  ts.filterMap Step.completed?

/-- The items that the consumer has missed: they were left in the input when it counted as drained. -/
def missed (ts : List (Step α)) : List α :=
  ts.flatMap Step.missed

/-- When the shutdown was signalled first. -/
def cancelledAt? (ts : List (Step α)) : Option Nat :=
  ts.findSome? Step.cancelledAt?

/-- The events so far. -/
def events (ts : List (Step α)) : List Event :=
  ts.flatMap Transition.out

section

variable (ts : List (Step α)) (t : Step α)

theorem accepted_snoc : accepted (ts ++ [t]) = accepted ts ++ t.accepted?.toList :=
  filterMap_snoc _ ts t

theorem begun_snoc : begun (ts ++ [t]) = begun ts ++ t.begun?.toList :=
  filterMap_snoc _ ts t

theorem completed_snoc : completed (ts ++ [t]) = completed ts ++ t.completed?.toList :=
  filterMap_snoc _ ts t

theorem missed_snoc : missed (ts ++ [t]) = missed ts ++ t.missed := by
  rw [missed, List.flatMap_append, List.flatMap_singleton]
  rfl

theorem cancelledAt?_snoc : cancelledAt? (ts ++ [t]) = (cancelledAt? ts).or t.cancelledAt? := by
  rw [cancelledAt?, List.findSome?_append]
  cases h : t.cancelledAt? <;> simp [cancelledAt?, h]

theorem events_snoc : events (ts ++ [t]) = events ts ++ t.out := by
  rw [events, List.flatMap_append, List.flatMap_singleton]
  rfl

end

end Draining

end Vitals
