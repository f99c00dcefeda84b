import Vitals.Pipeline.Consumer

/-!
# What a consumer can do

This file says once what a move of a consumer can do to the consumer and to its input
(`Consumer.Effect`, `effect_of_step`); all that is proved about consumers goes through it. It fixes

* `taken?`, `completed?` and `missed`, what a move does with the items: a consumer that finds its
  input closed counts as drained, and misses what has come since it found the input empty;
* `held?`, the item that was taken and not completed, and `IsAtWork`, the consumers that can still
  take and complete items;
* `Handles`, the coarser view of a move that says what it does with the items (`Effect.handles`).

A consumer that ends drops its input. It ends as drained only with nothing in its hand and when no
sender is left; that its input is empty then is another matter.
-/

namespace Vitals.Consumer

variable {α : Type}

/-! ## 1. Items -/

/-- The item that a consumer takes from its input with a move. -/
def taken? (input : Channel α) : Move → Option α
  | .receive =>
    match input.poll with
    | .item item _ => some item
    | _ => none
  | _ => none

/-- The item whose handling comes to its end with a move. -/
def completed? (c : Consumer α) : Move → Option α
  | .complete => c.inHand?
  | _ => none

/-- The items that are left in the input of a consumer that counts as drained with a move. -/
def missed (input : Channel α) : Move → List α
  | .check => if input.senderAlive then [] else input.items
  | _ => []

/-- The item that was taken and not completed. It may be given up already. -/
def held? (c : Consumer α) : Option α :=
  match c.stand with
  | .handling item => some item
  | .leaving item | .parting item _ => item
  | _ => none

/-- A consumer that makes such a move has stopped its work, or stops it now. -/
def Move.stops : Move → Bool
  | .observe | .receive | .complete => false
  | .finish | .expire | .check | .look | .abandon | .crash _ => true

/-- Neither has the consumer ended, nor has it seen that its grace is over. -/
def IsAtWork (c : Consumer α) : Prop :=
  c.stand = .receiving ∨ ∃ item, c.stand = .handling item

theorem missed_of_open {input : Channel α} (h : input.senderAlive = true) :
    missed input .check = [] :=
  if_pos h

theorem missed_of_closed {input : Channel α} (h : input.senderAlive = false) :
    missed input .check = input.items :=
  if_neg (Bool.eq_false_iff.mp h)

section

variable {c : Consumer α} {item : α}

theorem ending?_eq_none (h : ∀ how, c.stand ≠ .ended how) : c.ending? = none := by
  unfold ending?
  split
  · rename_i how hs
    exact absurd hs (h how)
  · rfl

theorem ending?_of_receiving (h : c.stand = .receiving) : c.ending? = none := by
  rw [ending?, h]

theorem ending?_of_handling (h : c.stand = .handling item) : c.ending? = none := by
  rw [ending?, h]

theorem IsAtWork.ending? (h : c.IsAtWork) : c.ending? = none := by
  rcases h with h | ⟨item, h⟩
  · exact ending?_of_receiving h
  · exact ending?_of_handling h

theorem not_isAtWork (hr : c.stand ≠ .receiving) (hh : ∀ item, c.stand ≠ .handling item) :
    ¬c.IsAtWork := by
  rintro (h | ⟨item, h⟩)
  · exact hr h
  · exact hh item h

theorem inHand?_of_receiving (h : c.stand = .receiving) : c.inHand? = none := by
  rw [inHand?, h]

theorem inHand?_of_handling (h : c.stand = .handling item) : c.inHand? = some item := by
  rw [inHand?, h]

/-- A consumer that has an item in its hand is handling it. -/
theorem stand_of_inHand? (h : c.inHand? = some item) : c.stand = .handling item := by
  unfold inHand? at h
  split at h
  · rename_i x hs
    rw [hs, Option.some.inj h]
  · cases h

theorem held?_of_receiving (h : c.stand = .receiving) : c.held? = none := by
  rw [held?, h]

theorem held?_of_handling (h : c.stand = .handling item) : c.held? = some item := by
  rw [held?, h]

/-- What is in hand was taken and is not completed. -/
theorem IsAtWork.held? (h : c.IsAtWork) : c.held? = c.inHand? := by
  rcases h with h | ⟨item, h⟩
  · rw [held?_of_receiving h, inHand?_of_receiving h]
  · rw [held?_of_handling h, inHand?_of_handling h]

end

/-! ## 2. Moves -/

/-- **Everything that a move can do.** -/
inductive Effect (now : Nat) (cancelled : Bool) (c : Consumer α) (input : Channel α) :
    Move → Consumer α → Channel α → Prop where
  | observe (hc : cancelled = true) (hg : c.graceEnds = none) (he : c.ending? = none) :
      Effect now cancelled c input .observe { c with graceEnds := some (now + c.grace.nanos) } input
  | receive (item : α) (rest : Channel α) (hs : c.stand = .receiving)
      (hw : c.mayWork now cancelled = true) (hi : input.poll = .item item rest) :
      Effect now cancelled c input .receive { c with stand := .handling item } rest
  | finish (hs : c.stand = .receiving) (hw : c.mayWork now cancelled = true)
      (hi : input.poll = .ended) :
      Effect now cancelled c input .finish { c with stand := .ended .drained } input.dropReceiver
  | complete (item : α) (hs : c.stand = .handling item) (hw : c.mayWork now cancelled = true) :
      Effect now cancelled c input .complete { c with stand := .receiving } input
  /-- The grace is over, and nothing is left for now. -/
  | findEmpty (ho : c.isOverdue now = true) (hs : c.stand = .receiving) (hi : input.items = []) :
      Effect now cancelled c input .expire { c with stand := .checking } input
  /-- The grace is over, and something is left. -/
  | giveUp (ho : c.isOverdue now = true) (hw : c.IsAtWork)
      (hi : c.stand = .receiving → input.items ≠ []) :
      Effect now cancelled c input .expire { c with stand := .leaving c.inHand? } input
  | findOpen (hs : c.stand = .checking) (hi : input.senderAlive = true) :
      Effect now cancelled c input .check { c with stand := .leaving none } input
  /-- It counts as drained, whatever has come since it found its input empty. -/
  | findClosed (hs : c.stand = .checking) (hi : input.senderAlive = false) :
      Effect now cancelled c input .check { c with stand := .ended .drained } input.dropReceiver
  | look (item : Option α) (hs : c.stand = .leaving item) :
      Effect now cancelled c input .look { c with stand := .parting item input.senderAlive } input
  | abandon (item : Option α) (upstreamOpen : Bool) (hs : c.stand = .parting item upstreamOpen) :
      Effect now cancelled c input .abandon { c with stand := .ended .abandoned } input.dropReceiver
  | crash (crash : Crash) (he : c.ending? = none) :
      Effect now cancelled c input (.crash crash) { c with stand := .ended (.crashed crash) }
        input.dropReceiver

section

variable {now : Nat} {cancelled : Bool} {c c' : Consumer α} {input input' : Channel α}
  {move : Move} {es : List Event}

/-- A consumer that has ended makes no move. -/
theorem Effect.ending?_eq_none (h : c.Effect now cancelled input move c' input') :
    c.ending? = none := by
  cases h with
  | observe hc hg he => exact he
  | receive item rest hs | finish hs | findEmpty ho hs => exact ending?_of_receiving hs
  | complete item hs => exact ending?_of_handling hs
  | giveUp ho hw => exact hw.ending?
  | findOpen hs | findClosed hs | look item hs | abandon item _ hs => rw [ending?, hs]
  | crash crash he => exact he

/-- **A move does nothing else.** -/
theorem effect_of_step (h : c.step now cancelled input move = some (c', input', es)) :
    c.Effect now cancelled input move c' input' := by
  cases move with
  | observe =>
    simp only [step] at h
    split at h
    · rename_i hc
      cases h
      rw [Bool.and_eq_true, Bool.and_eq_true, Option.isNone_iff_eq_none,
        Option.isNone_iff_eq_none] at hc
      exact .observe hc.1.1 hc.1.2 hc.2
    · cases h
  | receive =>
    simp only [step] at h
    split at h
    · rename_i item rest hs hw hi
      cases h
      exact .receive item _ hs hw hi
    · cases h
  | finish =>
    simp only [step] at h
    split at h
    · rename_i hs hw hi
      cases h
      exact .finish hs hw hi
    · cases h
  | complete =>
    simp only [step] at h
    split at h
    · rename_i item hs hw
      cases h
      exact .complete item hs hw
    · cases h
  | expire =>
    simp only [step] at h
    split at h
    · rename_i hs ho
      cases h
      by_cases hi : input.items = []
      · rw [if_pos (List.isEmpty_iff.mpr hi)]
        exact .findEmpty ho hs hi
      · rw [if_neg (mt List.isEmpty_iff.mp hi), ← inHand?_of_receiving hs]
        exact .giveUp ho (.inl hs) fun _ => hi
    · rename_i item hs ho
      cases h
      rw [← inHand?_of_handling hs]
      exact .giveUp ho (.inr ⟨item, hs⟩) fun e => nomatch hs.symm.trans e
    · cases h
  | check =>
    simp only [step] at h
    split at h
    · rename_i hs
      split at h
      · rename_i hi
        cases h
        exact .findOpen hs hi
      · rename_i hi
        cases h
        exact .findClosed hs (Bool.eq_false_iff.mpr hi)
    · cases h
  | look =>
    simp only [step] at h
    split at h
    · rename_i item hs
      cases h
      exact .look item hs
    · cases h
  | abandon =>
    simp only [step] at h
    split at h
    · rename_i item upstreamOpen hs
      cases h
      exact .abandon item upstreamOpen hs
    · cases h
  | crash crash =>
    simp only [step] at h
    split at h
    · cases h
    · rename_i hend
      cases h
      exact .crash crash (Consumer.ending?_eq_none hend)

theorem Effect.not_isAtWork (h : c.Effect now cancelled input move c' input')
    (hm : move.stops = true) : ¬c'.IsAtWork := by
  cases h with
  | observe | receive | complete => cases hm
  | finish | findEmpty | giveUp | findOpen | findClosed | look | abandon | crash =>
    exact Consumer.not_isAtWork nofun nofun

/-- A consumer that has stopped its work does not take it up again. -/
theorem Effect.isAtWork (h : c.Effect now cancelled input move c' input') (hw : c'.IsAtWork) :
    c.IsAtWork := by
  cases h with
  | observe => exact hw
  | receive item rest hs => exact .inl hs
  | complete item hs => exact .inr ⟨item, hs⟩
  | finish | findEmpty | giveUp | findOpen | findClosed | look | abandon | crash =>
    exact absurd hw (Consumer.not_isAtWork nofun nofun)

/-- A move leaves the senders of the input alone. -/
theorem Effect.senderAlive (h : c.Effect now cancelled input move c' input') :
    input'.senderAlive = input.senderAlive := by
  cases h with
  | receive item rest hs hw hi => rw [Channel.eq_of_poll hi]
  | observe | finish | complete | findEmpty | giveUp | findOpen | findClosed | look | abandon
  | crash => rfl

/-- A move does not change whose grace it is. -/
theorem Effect.same (h : c.Effect now cancelled input move c' input') :
    c'.stage = c.stage ∧ c'.grace = c.grace := by
  cases h <;> exact ⟨rfl, rfl⟩

/-! ## 3. What becomes of the items -/

/-- **What a move does with the items**, with the item that is taken, the one that is completed and
those that are missed. -/
inductive Handles (c : Consumer α) (input : Channel α) (c' : Consumer α) :
    Channel α → Option α → Option α → List α → Prop where
  /-- It leaves them where they are. -/
  | turns (he : c'.ending? = c.ending?) (hh : c'.held? = c.held?) :
      Handles c input c' input none none []
  | takes (item : α) (rest : Channel α) (hn : c.ending? = none) (hh : c.held? = none)
      (hi : input.poll = .item item rest) (hn' : c'.ending? = none) (hh' : c'.held? = some item) :
      Handles c input c' rest (some item) none []
  | completes (item : α) (hn : c.ending? = none) (hh : c.held? = some item)
      (hn' : c'.ending? = none) (hh' : c'.held? = none) :
      Handles c input c' input none (some item) []
  | ends (how : Ending) (hn : c.ending? = none) (he : c'.ending? = some how)
      (hd : how = .drained → c.held? = none ∧ input.senderAlive = false) :
      Handles c input c' input.dropReceiver none none (if how = .drained then input.items else [])

theorem Effect.handles (h : c.Effect now cancelled input move c' input') :
    Handles c input c' input' (taken? input move) (c.completed? move) (missed input move) := by
  cases h with
  | observe => exact .turns rfl rfl
  | receive item rest hs hw hi =>
    simp only [taken?, hi]
    exact .takes item _ (ending?_of_receiving hs) (held?_of_receiving hs) hi rfl rfl
  | complete item hs hw =>
    simp only [completed?, inHand?_of_handling hs]
    exact .completes item (ending?_of_handling hs) (held?_of_handling hs) rfl rfl
  | finish hs hw hi =>
    obtain ⟨hempty, hclosed⟩ := (Channel.poll_eq_ended_iff _).mp hi
    have hends : Handles c input { c with stand := .ended .drained } input.dropReceiver none none
        (if Ending.drained = .drained then input.items else []) :=
      .ends .drained (ending?_of_receiving hs) rfl fun _ => ⟨held?_of_receiving hs, hclosed⟩
    rw [if_pos rfl, hempty] at hends
    exact hends
  | findEmpty ho hs hi => exact .turns (ending?_of_receiving hs).symm (held?_of_receiving hs).symm
  | giveUp ho hw hi => exact .turns hw.ending?.symm hw.held?.symm
  | findOpen hs hi =>
    rw [missed_of_open hi]
    exact .turns (by simp [ending?, hs]) (by simp [held?, hs])
  | findClosed hs hi =>
    rw [missed_of_closed hi]
    exact .ends .drained (by simp [ending?, hs]) rfl fun _ => ⟨by simp [held?, hs], hi⟩
  | look item hs => exact .turns (by simp [ending?, hs]) (by simp [held?, hs])
  | abandon item upstreamOpen hs => exact .ends .abandoned (by simp [ending?, hs]) rfl nofun
  | crash crash he => exact .ends (.crashed crash) he rfl nofun

end

end Vitals.Consumer
