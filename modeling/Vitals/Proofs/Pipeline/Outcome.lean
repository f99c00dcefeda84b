import Vitals.Proofs.Pipeline.Draining

/-!
# How a consumer ends

A consumer that sees the shutdown goes on until its input is at an end or its grace is over,
whichever comes first. This file proves which of the two it is, and what is reported of it:

* `Consumer.Ledger` and `Consumer.Clocked`, the invariants: what the input accepted is what was
  completed, the item in hand and what is buffered; and the grace is counted from the shutdown;
* `Recalls`, what a consumer past its grace has seen;
* `Outcome`, what every course says of the ending, whatever the schedule, and `Punctual`, when it
  comes if time passes only while the consumer has nothing to do;
* `drain_outcome`, which says both of every course.

A consumer whose grace is over looks first whether its input is empty and then whether it is closed.
What is sent between the two looks is missed if its sender is gone by the second one: the consumer
counts as drained, and no warning is given (`drained_although_one_left`). A consumer that gives up
counts what is in its input; a sender that has got room by then and puts its item there later is
not counted. `Outcome` says that nothing else is ever missed.
-/

namespace Vitals

namespace Consumer

variable {α : Type}

/-- It may find that all is done: it has not ended, and does not give up. -/
def IsUndecided (c : Consumer α) : Prop :=
  c.IsAtWork ∨ c.stand = .checking

theorem IsUndecided.ending? {c : Consumer α} (h : c.IsUndecided) : c.ending? = none := by
  rcases h with h | h
  · exact h.ending?
  · rw [Consumer.ending?, h]

/-! ## 1. Where the items are -/

/-- **Where the items are that an input accepted**, given those that the consumer has begun to
handle, those whose handlers have run to completion, and those that it missed. -/
structure Ledger (c : Consumer α) (input : Channel α) (accepted begun completed missed : List α) :
    Prop where
  line : c.ending? = none → accepted = completed ++ c.held?.toList ++ input.items
  hand : c.ending? = none → begun = completed ++ c.held?.toList
  inOrder : completed <+: begun ∧ begun <+: accepted
  single : begun.length ≤ completed.length + 1
  /-- The input has a receiver until the consumer ends. -/
  attended : input.receiverAlive = true ↔ c.ending? = none
  attentive : c.ending? ≠ some .drained → missed = []
  drained : c.ending? = some .drained → accepted = completed ++ missed ∧ input.senderAlive = false

section

variable {now : Nat} {cancelled : Bool} {c c' : Consumer α} {input input' : Channel α}
  {move : Move} {accepted begun completed missed lost : List α} {taken? completed? : Option α}

theorem ledger_start (stage : Stage) (grace : Duration) (capacity : Nat) :
    Ledger ({ stage, grace } : Consumer α) (Channel.new capacity) [] [] [] [] where
  line _ := rfl
  hand _ := rfl
  inOrder := ⟨List.prefix_rfl, List.prefix_rfl⟩
  single := Nat.zero_le 1
  attended := ⟨fun _ => rfl, fun _ => rfl⟩
  attentive _ := rfl
  drained h := by cases h

/-- **A move of the consumer keeps the ledger.** -/
theorem Ledger.own (h : Ledger c input accepted begun completed missed)
    (he : c.Handles input c' input' taken? completed? lost) :
    Ledger c' input' accepted (begun ++ taken?.toList) (completed ++ completed?.toList)
      (missed ++ lost) := by
  cases he <;> simp only [Option.toList_none, Option.toList_some, List.append_nil]
  case turns hc hh =>
    refine ⟨?_, ?_, h.inOrder, h.single, ?_, ?_, ?_⟩
    · rw [hc, hh]
      exact h.line
    · rw [hc, hh]
      exact h.hand
    · rw [hc]
      exact h.attended
    · rw [hc]
      exact h.attentive
    · rw [hc]
      exact h.drained
  case takes item hn hh hn' hh' hi =>
    have hline := h.line hn
    have hhand := h.hand hn
    have hitems := Channel.items_eq_of_poll hi
    rw [hh, Option.toList_none, List.append_nil] at hline hhand
    refine ⟨fun _ => ?_, fun _ => ?_, ⟨?_, ?_⟩, ?_, ⟨fun _ => hn', fun _ => ?_⟩,
      fun _ => h.attentive (by simp [hn]), fun hd => nomatch hn'.symm.trans hd⟩
    · rw [hline, hitems, hh', Option.toList_some, List.append_assoc]
      rfl
    · rw [hhand, hh', Option.toList_some]
    · rw [hhand]
      exact List.prefix_append _ _
    · rw [hline, hhand, hitems, List.append_cons completed item input'.items]
      exact List.prefix_append _ _
    · rw [hhand, List.length_append]
      exact Nat.le_refl _
    · rw [Channel.eq_of_poll hi]
      exact h.attended.mpr hn
  case completes item hn hh hn' hh' =>
    have hline := h.line hn
    have hhand := h.hand hn
    rw [hh, Option.toList_some] at hline hhand
    refine ⟨fun _ => ?_, fun _ => ?_, ⟨?_, h.inOrder.2⟩, ?_,
      ⟨fun _ => hn', fun _ => h.attended.mpr hn⟩, fun _ => h.attentive (by simp [hn]), fun hd => nomatch hn'.symm.trans hd⟩
    · rw [hline, hh', Option.toList_none, List.append_nil]
    · rw [hhand, hh', Option.toList_none, List.append_nil]
    · exact hhand ▸ List.prefix_rfl
    · rw [hhand]
      exact Nat.le_succ _
  case ends how hn hc hd =>
    have hnone : missed = [] := h.attentive (by simp [hn])
    have hends : c'.ending? ≠ none := by simp [hc]
    refine ⟨fun hn' => absurd hn' hends, fun hn' => absurd hn' hends, h.inOrder, h.single,
      ⟨nofun, fun hn' => absurd hn' hends⟩, fun hne => ?_, fun hdrained => ?_⟩
    · rw [hnone, if_neg fun hhow => hne (hc.trans (congrArg some hhow))]
      rfl
    · have hhow : how = .drained := Option.some.inj (hc.symm.trans hdrained)
      obtain ⟨hheld, hclosed⟩ := hd hhow
      refine ⟨?_, hclosed⟩
      rw [if_pos hhow, h.line hn, hheld, hnone, Option.toList_none, List.append_nil,
        List.nil_append]

/-- An item that is put into the input waits there, unless the consumer has ended. -/
theorem Ledger.send (h : Ledger c input accepted begun completed missed)
    (hd : c.ending? ≠ some .drained) (item : α) :
    Ledger c (input.put item) (accepted ++ [item]) begun completed missed where
  line hn := by
    rw [Channel.items_put item (h.attended.mpr hn), h.line hn]
    simp only [List.append_assoc]
  hand := h.hand
  inOrder := ⟨h.inOrder.1, h.inOrder.2.trans (List.prefix_append _ _)⟩
  single := h.single
  attended := by
    rw [Channel.receiverAlive_put]
    exact h.attended
  attentive := h.attentive
  drained hs := absurd hs hd

theorem Ledger.closeSender (h : Ledger c input accepted begun completed missed) :
    Ledger c input.closeSender accepted begun completed missed :=
  ⟨h.line, h.hand, h.inOrder, h.single, h.attended, h.attentive, fun hd => ⟨(h.drained hd).1, rfl⟩⟩

/-! ## 2. When the grace is over -/

/-- **The grace is counted from a moment after the shutdown** that came at `signal`, if it came. -/
structure Clocked (c : Consumer α) (cancelled : Bool) (signal : Option Nat) (now : Nat) :
    Prop where
  told : cancelled = signal.isSome
  past : ∀ s, signal = some s → s ≤ now
  seen : ∀ d, c.graceEnds = some d → ∃ s, signal = some s ∧ s + c.grace.nanos ≤ d
  /-- A consumer stops its work only when the grace is over. -/
  overdue : c.ending? = none → ¬c.IsAtWork → c.isOverdue now = true

variable {signal : Option Nat}

theorem clocked_start (stage : Stage) (grace : Duration) (now : Nat) :
    Clocked ({ stage, grace } : Consumer α) false none now where
  told := rfl
  past _ h := by cases h
  seen _ h := by cases h
  overdue _ h := absurd (.inl rfl) h

/-- A consumer stays overdue. -/
theorem isOverdue_of_le {later : Nat} (h : c.isOverdue now = true) (hle : now ≤ later) :
    c.isOverdue later = true := by
  obtain ⟨d, hd, hnow⟩ := (Option.any_eq_true _ _).mp h
  exact (Option.any_eq_true _ _).mpr
    ⟨d, hd, decide_eq_true (Nat.le_trans (of_decide_eq_true hnow) hle)⟩

theorem Clocked.wait (h : Clocked c cancelled signal now) {later : Nat} (hle : now ≤ later) :
    Clocked c cancelled signal later :=
  ⟨h.told, fun s hs => Nat.le_trans (h.past s hs) hle, h.seen,
    fun hn hw => isOverdue_of_le (h.overdue hn hw) hle⟩

/-- A consumer that is not overdue stays at its work. -/
theorem Effect.isOverdue (h : Clocked c cancelled signal now)
    (he : c.Effect now cancelled input move c' input') (hn : c'.ending? = none)
    (hw : ¬c'.IsAtWork) : c'.isOverdue now = true := by
  cases he with
  | observe hc hg hn' =>
    have ho := h.overdue hn' hw
    rw [isOverdue, hg] at ho
    cases ho
  | receive item => exact absurd (.inr ⟨item, rfl⟩) hw
  | complete => exact absurd (.inl rfl) hw
  | finish | findClosed | abandon | crash => cases hn
  | findEmpty ho => exact ho
  | giveUp ho => exact ho
  | findOpen hs | look item hs =>
    exact h.overdue (by rw [ending?, hs]) (Consumer.not_isAtWork (by simp [hs]) (by simp [hs]))

theorem Clocked.own (h : Clocked c cancelled signal now)
    (he : c.Effect now cancelled input move c' input') : Clocked c' cancelled signal now := by
  refine ⟨h.told, h.past, fun d hd => ?_, he.isOverdue h⟩
  cases he with
  | observe hc hg hn =>
    have hsome : signal.isSome = true := h.told ▸ hc
    obtain ⟨s, hs⟩ := Option.isSome_iff_exists.mp hsome
    have hle := h.past s hs
    cases hd
    exact ⟨s, hs, Nat.add_le_add_right hle _⟩
  | receive | finish | complete | findEmpty | giveUp | findOpen | findClosed | look | abandon
  | crash => exact h.seen d hd

/-- The first signal counts. -/
theorem Clocked.cancel (h : Clocked c cancelled signal now) :
    Clocked c true (signal.or (some now)) now := by
  cases hs : signal with
  | none =>
    refine ⟨rfl, fun s e => ?_, fun d hd => ?_, h.overdue⟩
    · cases e
      exact Nat.le_refl now
    · obtain ⟨s, e, -⟩ := h.seen d hd
      rw [hs] at e
      cases e
  | some s =>
    rw [hs] at h
    exact ⟨rfl, h.past, h.seen, h.overdue⟩

end

end Consumer

namespace Draining

variable {α : Type}

/-! ## 3. Endings -/

/-- All is done: the input is closed and empty, and the handler of every item that it accepted has
run to completion. -/
def Done (ts : List (Step α)) (s : Draining α) : Prop :=
  s.input.senderAlive = false ∧ s.input.items = [] ∧ completed ts = accepted ts

/-- **What a consumer past its grace has seen**, when it looked. -/
structure Recalls (ts : List (Step α)) (s : Draining α) : Prop where
  /-- The input was empty: what is in it now has come since. -/
  empty : s.consumer.stand = .checking → ∃ front u mid, ts = front ++ u :: mid ∧
    u.move = .own .expire ∧ u.before.input.items = [] ∧ s.input.items = accepted mid
  /-- A sender was left, or none. -/
  sender : ∀ item upstreamOpen, s.consumer.stand = .parting item upstreamOpen →
    ∃ front u mid, ts = front ++ u :: mid ∧ u.move = .own .look ∧
      u.before.input.senderAlive = upstreamOpen

/-- **What the courses of a consumer keep.** -/
structure Kept (stage : Stage) (grace : Duration) (ts : List (Step α)) (now : Nat)
    (s : Draining α) : Prop where
  asStage : s.consumer.stage = stage
  withGrace : s.consumer.grace = grace
  ledger : s.consumer.Ledger s.input (accepted ts) (begun ts) (completed ts) (missed ts)
  clock : s.consumer.Clocked s.cancelled (cancelledAt? ts) now
  recalls : Recalls ts s
  /-- Room is granted to senders only. -/
  granted : s.input.senderAlive = false → s.granted = 0

theorem kept_start (stage : Stage) (grace : Duration) (capacity now : Nat) :
    Kept stage grace [] now (start stage grace capacity : Draining α) where
  asStage := rfl
  withGrace := rfl
  ledger := Consumer.ledger_start stage grace capacity
  clock := Consumer.clocked_start stage grace now
  recalls := ⟨nofun, nofun⟩
  granted _ := rfl

section Step

variable {stage : Stage} {grace : Duration} {ts : List (Step α)} {now : Nat} {s t : Draining α}
  {move : Move α} {es : List Event}

theorem Kept.wait (h : Kept stage grace ts now s) {later : Nat} (hle : now ≤ later) :
    Kept stage grace ts later s :=
  ⟨h.asStage, h.withGrace, h.ledger, h.clock.wait hle, h.recalls, h.granted⟩

/-- As long as a sender has room for an item, the consumer has not drained. -/
theorem Kept.not_drained (h : Kept stage grace ts now s) (hg : 0 < s.granted) :
    s.consumer.ending? ≠ some .drained := by
  intro hd
  have hnone := h.granted (h.ledger.drained hd).2
  omega

/-- A step that leaves the stand of the consumer as it is adds to what has come since. -/
theorem Recalls.snoc (h : Recalls ts s) (u : Step α) (hs : t.consumer.stand = s.consumer.stand)
    (hi : s.consumer.stand = .checking → t.input.items = s.input.items ++ u.accepted?.toList) :
    Recalls (ts ++ [u]) t := by
  refine ⟨fun hc => ?_, fun item upstreamOpen hp => ?_⟩
  · have hc := hs.symm.trans hc
    obtain ⟨front, v, mid, e, hm, hempty, hitems⟩ := h.empty hc
    refine ⟨front, v, mid ++ [u], by simp [e], hm, hempty, ?_⟩
    rw [hi hc, hitems, accepted_snoc]
  · obtain ⟨front, v, mid, e, hv⟩ := h.sender item upstreamOpen (hs.symm.trans hp)
    exact ⟨front, v, mid ++ [u], by simp [e], hv⟩

/-- A step to where nothing is to be recalled. -/
theorem Recalls.of_ne (hc : t.consumer.stand ≠ .checking)
    (hp : ∀ item upstreamOpen, t.consumer.stand ≠ .parting item upstreamOpen) : Recalls ts t :=
  ⟨fun h => absurd h hc, fun item upstreamOpen h => absurd h (hp item upstreamOpen)⟩

theorem recalls_step (hk : Kept stage grace ts now s) (he : s.Effect now move t es) :
    Recalls (ts ++ [⟨now, s, move, t, es⟩]) t := by
  have h := hk.recalls
  cases he with
  | own m c input ha he =>
    cases he with
    | observe => exact h.snoc _ rfl fun _ => (List.append_nil _).symm
    | findEmpty ho hs hi => exact ⟨fun _ => ⟨ts, _, [], rfl, rfl, hi, hi⟩, nofun⟩
    | look item hs =>
      refine ⟨nofun, fun item' upstreamOpen hp => ⟨ts, _, [], rfl, rfl, ?_⟩⟩
      cases hp
      rfl
    | receive | complete | giveUp | findOpen | finish | findClosed | abandon | crash =>
      exact .of_ne nofun nofun
  | handled | reserve | close | cancel => exact h.snoc _ rfl fun _ => (List.append_nil _).symm
  | send item hg =>
    refine h.snoc _ rfl fun hs => Channel.items_put item (hk.ledger.attended.mpr ?_)
    rw [Consumer.ending?, hs]

/-- **A step keeps it.** -/
theorem kept_step (h : Kept stage grace ts now s) (he : s.Effect now move t es) :
    Kept stage grace (ts ++ [⟨now, s, move, t, es⟩]) now t := by
  refine ⟨?_, ?_, ?_, ?_, recalls_step h he, ?_⟩
  · cases he with
    | own m c input ha he => exact he.same.1.trans h.asStage
    | handled | reserve | send | close | cancel => exact h.asStage
  · cases he with
    | own m c input ha he => exact he.same.2.trans h.withGrace
    | handled | reserve | send | close | cancel => exact h.withGrace
  · rw [accepted_snoc, begun_snoc, completed_snoc, missed_snoc]
    cases he with
    | own m c input ha he =>
      have hl := h.ledger.own he.handles
      simpa [Step.accepted?, Step.begun?, Step.completed?, Step.missed] using hl
    | send item hg =>
      have hl := h.ledger.send (h.not_drained hg) item
      simpa [Step.accepted?, Step.begun?, Step.completed?, Step.missed] using hl
    | handled | reserve | cancel =>
      simpa [Step.accepted?, Step.begun?, Step.completed?, Step.missed] using h.ledger
    | close =>
      have hl := h.ledger.closeSender
      simpa [Step.accepted?, Step.begun?, Step.completed?, Step.missed] using hl
  · rw [cancelledAt?_snoc]
    cases he with
    | own m c input ha he => simpa [Step.cancelledAt?] using h.clock.own he
    | handled | reserve | send | close => simpa [Step.cancelledAt?] using h.clock
    | cancel => simpa [Step.cancelledAt?] using h.clock.cancel
  · cases he with
    | own m c input ha he =>
      show input.senderAlive = false → s.granted = 0
      rw [he.senderAlive]
      exact h.granted
    | handled | cancel => exact h.granted
    | reserve hs => exact fun hn => nomatch hs.symm.trans hn
    | send item hg =>
      intro hn
      have hnone := h.granted ((Channel.senderAlive_put item).symm.trans hn)
      exact absurd hnone (Nat.ne_of_gt hg)
    | close hg => exact fun _ => hg

/-- Once the consumer has ended, nothing more is completed, missed or reported, and no more is
accepted than there was room granted for. -/
theorem Kept.frozen_step (h : Kept stage grace ts now s) (he : s.Effect now move t es)
    (hend : s.consumer.ending? ≠ none) :
    t.consumer = s.consumer ∧ es = [] ∧
      completed (ts ++ [⟨now, s, move, t, es⟩]) = completed ts ∧
      missed (ts ++ [⟨now, s, move, t, es⟩]) = missed ts ∧
      (Step.accepted? ⟨now, s, move, t, es⟩).toList.length + t.granted = s.granted := by
  rw [completed_snoc, missed_snoc]
  cases he with
  | own m c input ha he => exact absurd he.ending?_eq_none hend
  | handled item hs =>
    exact absurd (Consumer.ending?_of_handling (Consumer.stand_of_inHand? hs)) hend
  | reserve hs hr => exact absurd (h.ledger.attended.mp hr) hend
  | send item hg =>
    exact ⟨rfl, rfl, List.append_nil _, List.append_nil _, Nat.add_sub_cancel' hg⟩
  | close | cancel =>
    exact ⟨rfl, rfl, List.append_nil _, List.append_nil _, Nat.zero_add _⟩

/-- All is done exactly if nothing is in hand and the input is at an end. -/
theorem Kept.done_iff (h : Kept stage grace ts now s) (hn : s.consumer.ending? = none) :
    Done ts s ↔ s.consumer.held? = none ∧ s.input.items = [] ∧ s.input.senderAlive = false := by
  have hline := h.ledger.line hn
  constructor
  · rintro ⟨hs, hi, hall⟩
    refine ⟨?_, hi, hs⟩
    cases hh : s.consumer.held? with
    | none => rfl
    | some item =>
      -- an item in hand was accepted and not completed
      rw [hall, hh, Option.toList_some] at hline
      have hlen := congrArg List.length hline
      simp only [List.length_append, List.length_singleton] at hlen
      omega
  · rintro ⟨hh, hi, hs⟩
    refine ⟨hs, hi, ?_⟩
    rw [hline, hi, hh, Option.toList_none, List.append_nil, List.append_nil]

/-- **How a consumer ends**: as drained, and then it was all done or something is missed; otherwise
it gives up, when its grace is over, and says how many items it gives up. -/
theorem Kept.ending_step (h : Kept stage grace ts now s) (he : s.Effect now move t es)
    (hn : s.consumer.ending? = none) (hend : t.consumer.ending? ≠ none) :
    (t.consumer.ending? = some .drained ∧ s.consumer.IsUndecided ∧ es = [] ∧
        (Done ts s ∨ missed (ts ++ [⟨now, s, move, t, es⟩]) ≠ [] ∧ move = .own .check)) ∨
      (t.consumer.ending? = some .abandoned ∧ move = .own .abandon ∧
        s.consumer.isOverdue now = true ∧
        (∃ dropped upstreamOpen, es = [.stageAbandoned stage grace dropped upstreamOpen] ∧
          dropped + (completed ts).length = (accepted ts).length ∧
          ∃ front u mid, ts = front ++ u :: mid ∧ u.move = .own .look ∧
            u.before.input.senderAlive = upstreamOpen) ∧
        completed (ts ++ [⟨now, s, move, t, es⟩]) = completed ts ∧ t.granted = s.granted) := by
  cases he with
  | own m c input ha he =>
    have hdone := h.done_iff hn
    cases he with
    | observe hc hg hn' => exact absurd hn hend
    | receive | complete | findEmpty | giveUp | findOpen | look => exact absurd rfl hend
    | finish hs hw hi =>
      obtain ⟨hempty, hclosed⟩ := (Channel.poll_eq_ended_iff _).mp hi
      exact .inl ⟨rfl, .inl (.inl hs), rfl,
        .inl (hdone.mpr ⟨Consumer.held?_of_receiving hs, hempty, hclosed⟩)⟩
    | findClosed hs hi =>
      refine .inl ⟨rfl, .inr hs, rfl, ?_⟩
      have hheld : s.consumer.held? = none := by rw [Consumer.held?, hs]
      by_cases hempty : s.input.items = []
      · exact .inl (hdone.mpr ⟨hheld, hempty, hi⟩)
      · refine .inr ⟨?_, rfl⟩
        rw [missed_snoc, h.ledger.attentive (by simp [hn]), List.nil_append]
        exact fun e => hempty ((Consumer.missed_of_closed hi).symm.trans e)
    | abandon item upstreamOpen hs =>
      have hwork : ¬s.consumer.IsAtWork :=
        Consumer.not_isAtWork (by simp [hs]) (by simp [hs])
      have hheld : s.consumer.held? = item := by rw [Consumer.held?, hs]
      refine .inr ⟨rfl, rfl, h.clock.overdue hn hwork,
        ⟨item.toList.length + s.input.items.length, upstreamOpen, ?_, ?_,
          h.recalls.sender item upstreamOpen hs⟩, ?_, rfl⟩
      · rw [Consumer.notice_of_parting _ hs, h.asStage, h.withGrace]
      · rw [h.ledger.line hn, hheld]
        simp only [List.length_append]
        omega
      · rw [completed_snoc]
        exact List.append_nil _
    | crash crash hn' => cases ha
  | handled | reserve | send | close | cancel => exact absurd hn hend

/-- **What is done stays done**, until the consumer has drained. -/
theorem Kept.done_step (h : Kept stage grace ts now s) (he : s.Effect now move t es)
    (hu : s.consumer.IsUndecided) (hd : Done ts s) :
    (t.consumer.ending? = some .drained ∨ t.consumer.IsUndecided) ∧
      Done (ts ++ [⟨now, s, move, t, es⟩]) t := by
  obtain ⟨hheld, hempty, hclosed⟩ := (h.done_iff hu.ending?).mp hd
  have hsame : accepted (ts ++ [⟨now, s, move, t, es⟩]) = accepted ts := by
    rw [accepted_snoc]
    cases he with
    | send item hg => exact absurd (h.granted hclosed) (Nat.ne_of_gt hg)
    | own | handled | reserve | close | cancel => exact List.append_nil _
  have hall : completed (ts ++ [⟨now, s, move, t, es⟩]) = completed ts := by
    rw [completed_snoc]
    cases he with
    | own m c input ha he =>
      cases he with
      | complete item hs => exact nomatch hheld.symm.trans (Consumer.held?_of_handling hs)
      | observe | receive | finish | findEmpty | giveUp | findOpen | findClosed | look | abandon
      | crash => exact List.append_nil _
    | handled | reserve | send | close | cancel => exact List.append_nil _
  rw [Done, hsame, hall]
  cases he with
  | own m c input ha he =>
    cases he with
    | observe hc hg hn => exact ⟨.inr hu, hd⟩
    | receive item rest hs hw hi => exact nomatch hempty.symm.trans (Channel.items_eq_of_poll hi)
    | complete item hs hw => exact nomatch hheld.symm.trans (Consumer.held?_of_handling hs)
    | finish hs hw hi => exact ⟨.inl rfl, hclosed, rfl, hd.2.2⟩
    | findEmpty ho hs hi => exact ⟨.inr (.inr rfl), hd⟩
    | giveUp ho hw hi =>
      rcases hw with hs | ⟨item, hs⟩
      · exact absurd hempty (hi hs)
      · exact nomatch hheld.symm.trans (Consumer.held?_of_handling hs)
    | findOpen hs hi => exact nomatch hclosed.symm.trans hi
    | findClosed hs hi => exact ⟨.inl rfl, hclosed, rfl, hd.2.2⟩
    | look item hs | abandon item upstreamOpen hs =>
      simp [Consumer.IsUndecided, Consumer.IsAtWork, hs] at hu
    | crash crash hn => cases ha
  | handled item hs => exact ⟨.inr hu, hd⟩
  | reserve hs => exact nomatch hclosed.symm.trans hs
  | send item hg => exact absurd (h.granted hclosed) (Nat.ne_of_gt hg)
  | close => exact ⟨.inr hu, rfl, hd.2⟩
  | cancel => exact ⟨.inr hu, hd⟩

end Step

/-! ## 4. What a course says of the ending -/

/-- At some moment all was done, and the consumer had not ended and did not give up. -/
def WasDone (ts : List (Step α)) : Prop :=
  ∃ front t back, ts = front ++ t :: back ∧ t.before.consumer.IsUndecided ∧ Done front t.before

/-- **What is missed came between two looks**: when its grace was over the consumer found its input
empty, and when it looked again no sender was left, who had sent it meanwhile. -/
def Overlooks (ts : List (Step α)) : Prop :=
  ∃ front u mid t back, ts = front ++ u :: mid ++ t :: back ∧ u.move = .own .expire ∧
    u.before.input.items = [] ∧ t.move = .own .check ∧ t.before.input.senderAlive = false ∧
    missed ts = accepted mid

/-- **A step with which the consumer gives up**: not before the grace is over that began with the
shutdown, and with one warning. -/
structure GivesUp (stage : Stage) (grace : Duration) (front : List (Step α)) (t : Step α) :
    Prop where
  move : t.move = .own .abandon
  goes : t.before.consumer.ending? = none
  ends : t.after.consumer.ending? = some .abandoned
  overdue : ∃ c, cancelledAt? front = some c ∧ c + grace.nanos ≤ t.now
  /-- It counts what was accepted and not completed, and tells whether a sender was left when the
  consumer looked. -/
  warning : ∃ dropped upstreamOpen, t.out = [.stageAbandoned stage grace dropped upstreamOpen] ∧
    dropped + (completed front).length = (accepted front).length ∧
    ∃ before u mid, front = before ++ u :: mid ∧ u.move = .own .look ∧
      u.before.input.senderAlive = upstreamOpen

/-- What a course tells of a consumer in the end. -/
structure Told (stage : Stage) (grace : Duration) (ts : List (Step α)) (s : Draining α) :
    Prop where
  goesOn : s.consumer.ending? = none → events ts = []
  drained : s.consumer.ending? = some .drained → events ts = [] ∧ (WasDone ts ∨ missed ts ≠ [])
  abandoned : s.consumer.ending? = some .abandoned → ∃ front t back, ts = front ++ t :: back ∧
    GivesUp stage grace front t ∧ events ts = t.out ∧ completed ts = completed front ∧
    (accepted back).length + s.granted = t.before.granted
  unbroken : ∀ crash, s.consumer.ending? ≠ some (.crashed crash)
  resolved : WasDone ts → (s.consumer.ending? = some .drained ∨ s.consumer.IsUndecided) ∧
    completed ts = accepted ts ∧ (s.consumer.ending? = none → Done ts s)
  overlooked : missed ts ≠ [] → s.consumer.ending? = some .drained ∧ Overlooks ts

theorem told_start (stage : Stage) (grace : Duration) (capacity : Nat) :
    Told stage grace [] (start stage grace capacity : Draining α) where
  goesOn _ := rfl
  drained h := by cases h
  abandoned h := by cases h
  unbroken _ h := by cases h
  resolved := by
    rintro ⟨front, t, back, h, -⟩
    simp at h
  overlooked h := absurd rfl h

section Step

variable {stage : Stage} {grace : Duration} {ts : List (Step α)} {now : Nat} {s t : Draining α}
  {move : Move α} {es : List Event}

theorem WasDone.snoc (h : WasDone ts) (t : Step α) : WasDone (ts ++ [t]) := by
  obtain ⟨front, u, back, rfl, hu⟩ := h
  exact ⟨front, u, back ++ [t], by simp, hu⟩

theorem wasDone_of_snoc {t : Step α} (h : WasDone (ts ++ [t])) :
    WasDone ts ∨ t.before.consumer.IsUndecided ∧ Done ts t.before := by
  obtain ⟨front, u, back, e, hu⟩ := h
  rcases snoc_eq_append_cons e with ⟨rfl, rfl, -⟩ | ⟨back, -, efront⟩
  · exact .inr hu
  · exact .inl ⟨front, u, back, efront, hu⟩

/-- The grace of a consumer that is overdue began with the shutdown. -/
theorem Kept.overdue (h : Kept stage grace ts now s) (ho : s.consumer.isOverdue now = true) :
    ∃ c, cancelledAt? ts = some c ∧ c + grace.nanos ≤ now := by
  obtain ⟨d, hd, hle⟩ := (Option.any_eq_true _ _).mp ho
  obtain ⟨c, hc, hcd⟩ := h.clock.seen d hd
  rw [h.withGrace] at hcd
  exact ⟨c, hc, Nat.le_trans hcd (of_decide_eq_true hle)⟩

/-- A consumer that was done in time and goes on is still done, and the step at most ends it. -/
theorem Told.resolved_step (h : Told stage grace ts s) (hk : Kept stage grace ts now s)
    (he : s.Effect now move t es) (hn : s.consumer.ending? = none)
    (hw : WasDone (ts ++ [⟨now, s, move, t, es⟩])) :
    (t.consumer.ending? = some .drained ∨ t.consumer.IsUndecided) ∧
      completed (ts ++ [⟨now, s, move, t, es⟩]) = accepted (ts ++ [⟨now, s, move, t, es⟩]) ∧
      (t.consumer.ending? = none → Done (ts ++ [⟨now, s, move, t, es⟩]) t) := by
  obtain ⟨hu, hd⟩ : s.consumer.IsUndecided ∧ Done ts s := by
    rcases wasDone_of_snoc hw with hw | h'
    · obtain ⟨hs | hu, -, hd⟩ := h.resolved hw
      · exact nomatch hn.symm.trans hs
      · exact ⟨hu, hd hn⟩
    · exact h'
  obtain ⟨hends, hd'⟩ := hk.done_step he hu hd
  exact ⟨hends, hd'.2.2, fun _ => hd'⟩

/-- A consumer that goes on has nothing to report. -/
theorem told_of_going (hk : Kept stage grace ts now s) (h : Told stage grace ts s)
    (he : s.Effect now move t es) (hn : s.consumer.ending? = none)
    (hend : t.consumer.ending? = none) : Told stage grace (ts ++ [⟨now, s, move, t, es⟩]) t := by
  have hes : es = [] := by
    cases he with
    | own m c input ha he =>
      cases he with
      | abandon => cases hend
      | observe | receive | finish | complete | findEmpty | giveUp | findOpen | findClosed | look
      | crash => rfl
    | handled | reserve | send | close | cancel => rfl
  have hno : ∀ how, t.consumer.ending? ≠ some how := fun how hs => nomatch hend.symm.trans hs
  refine ⟨fun _ => ?_, fun hs => absurd hs (hno _), fun hs => absurd hs (hno _),
    fun crash => hno _, h.resolved_step hk he hn,
    fun hm => absurd ((kept_step hk he).ledger.attentive (hno _)) hm⟩
  rw [events_snoc, h.goesOn hn, hes]
  rfl

/-- What is missed has come since the consumer found its input empty. -/
theorem Kept.overlooks (hk : Kept stage grace ts now s) (he : s.Effect now move t es)
    (hn : s.consumer.ending? = none) (hm : missed (ts ++ [⟨now, s, move, t, es⟩]) ≠ [])
    (hc : move = .own .check) : Overlooks (ts ++ [⟨now, s, move, t, es⟩]) := by
  subst hc
  have hmissed : missed (ts ++ [⟨now, s, .own .check, t, es⟩]) =
      Consumer.missed s.input .check := by
    rw [missed_snoc, hk.ledger.attentive (by simp [hn])]
    rfl
  cases he with
  | own m c input ha he =>
    cases he with
    | findOpen hs hi =>
      exact absurd (hmissed.trans (Consumer.missed_of_open hi)) hm
    | findClosed hs hi =>
      obtain ⟨front, u, mid, rfl, hu, hempty, hitems⟩ := hk.recalls.empty hs
      exact ⟨front, u, mid, _, [], rfl, hu, hempty, rfl, hi,
        hmissed.trans ((Consumer.missed_of_closed hi).trans hitems)⟩

/-- The step with which a consumer ends, as drained or with the warning. -/
theorem told_of_ending (hk : Kept stage grace ts now s) (h : Told stage grace ts s)
    (he : s.Effect now move t es) (hn : s.consumer.ending? = none)
    (hend : t.consumer.ending? ≠ none) : Told stage grace (ts ++ [⟨now, s, move, t, es⟩]) t := by
  have hsplit : ts ++ [⟨now, s, move, t, es⟩] = ts ++ ⟨now, s, move, t, es⟩ :: [] := rfl
  rcases hk.ending_step he hn hend with ⟨hs, hu, hes, hd⟩ | ⟨hs, hm, ho, hwarn, hcom, hgranted⟩
  · have hno : ∀ how, how ≠ .drained → t.consumer.ending? ≠ some how := fun how hne hs' =>
      hne (Option.some.inj (hs'.symm.trans hs))
    refine ⟨fun hs' => absurd hs' hend, fun _ => ⟨?_, ?_⟩, fun hs' => absurd hs' (hno _ nofun),
      fun crash => hno _ nofun, h.resolved_step hk he hn, fun hm => ⟨hs, ?_⟩⟩
    · rw [events_snoc, h.goesOn hn, hes]
      rfl
    · exact hd.imp (fun hd => ⟨ts, _, [], hsplit, hu, hd⟩) And.left
    · rcases hd with hd | ⟨-, hc⟩
      · -- nothing is missed when all is done
        have hdone := (hk.done_step he hu hd).2.2.2
        have hall := ((kept_step hk he).ledger.drained hs).1
        rw [hdone] at hall
        exact absurd (List.append_right_eq_self.mp hall.symm) hm
      · exact hk.overlooks he hn hm hc
  · have hno : ∀ how, how ≠ .abandoned → t.consumer.ending? ≠ some how := fun how hne hs' =>
      hne (Option.some.inj (hs'.symm.trans hs))
    refine ⟨fun hs' => absurd hs' hend, fun hs' => absurd hs' (hno _ nofun), fun _ => ?_,
      fun crash => hno _ nofun, h.resolved_step hk he hn,
      fun hm => absurd ((kept_step hk he).ledger.attentive (hno _ nofun)) hm⟩
    refine ⟨ts, _, [], hsplit, ⟨hm, hn, hs, hk.overdue ho, hwarn⟩, ?_, hcom, ?_⟩
    · rw [events_snoc, h.goesOn hn]
      rfl
    · exact (Nat.zero_add _).trans hgranted

/-- What was told of a consumer that has ended stays true. -/
theorem told_of_ended (hk : Kept stage grace ts now s) (h : Told stage grace ts s)
    (he : s.Effect now move t es) (hn : s.consumer.ending? ≠ none) :
    Told stage grace (ts ++ [⟨now, s, move, t, es⟩]) t := by
  obtain ⟨hc, hes, hcom, hmis, hgranted⟩ := hk.frozen_step he hn
  have hevents : events (ts ++ [⟨now, s, move, t, es⟩]) = events ts := by
    rw [events_snoc, hes]
    exact List.append_nil _
  have hw' : WasDone (ts ++ [⟨now, s, move, t, es⟩]) → WasDone ts := fun hw =>
    (wasDone_of_snoc hw).resolve_right fun ⟨hu, _⟩ => hn hu.ending?
  refine ⟨fun hs => absurd (hc ▸ hs) hn, fun hs => ?_, fun hs => ?_,
    fun crash hs => h.unbroken crash (hc ▸ hs), fun hw => ?_, fun hm => ?_⟩
  · obtain ⟨hev, hw⟩ := h.drained (hc ▸ hs)
    rw [hmis]
    exact ⟨hevents.trans hev, hw.imp_left fun hw => hw.snoc _⟩
  · obtain ⟨front, u, back, e, hg, hev, hco, hroom⟩ := h.abandoned (hc ▸ hs)
    refine ⟨front, u, back ++ [⟨now, s, move, t, es⟩], by simp [e], hg, hevents.trans hev,
      hcom.trans hco, ?_⟩
    rw [accepted_snoc, List.length_append]
    omega
  · obtain ⟨hends, hall, -⟩ := h.resolved (hw' hw)
    -- no room was granted to anyone when it drained
    have hacc : accepted (ts ++ [⟨now, s, move, t, es⟩]) = accepted ts := by
      have hd := hends.resolve_right fun hu => hn hu.ending?
      have hnone := hk.granted (hk.ledger.drained hd).2
      rw [accepted_snoc, List.eq_nil_of_length_eq_zero (Nat.eq_zero_of_add_eq_zero_right
        (hgranted.trans hnone)), List.append_nil]
    rw [hc, hacc, hcom]
    exact ⟨hends, hall, fun hs => absurd hs hn⟩
  · rw [hmis] at hm
    obtain ⟨hs, front, u, mid, v, back, e, hu, hempty, hv, hclosed, hall⟩ := h.overlooked hm
    exact ⟨hc ▸ hs, front, u, mid, v, back ++ [⟨now, s, move, t, es⟩], by simp [e], hu, hempty, hv,
      hclosed, hmis.trans hall⟩

/-- **A step adds to the story what happens with it.** -/
theorem told_step (hk : Kept stage grace ts now s) (h : Told stage grace ts s)
    (he : s.Effect now move t es) : Told stage grace (ts ++ [⟨now, s, move, t, es⟩]) t := by
  by_cases hn : s.consumer.ending? = none
  · by_cases hend : t.consumer.ending? = none
    · exact told_of_going hk h he hn hend
    · exact told_of_ending hk h he hn hend
  · exact told_of_ended hk h he hn

end Step

section Runs

variable {stage : Stage} {grace : Duration} {capacity began now : Nat} {ts : List (Step α)}
  {s : Draining α}

/-- **A course keeps the invariants and tells how it ends.** -/
theorem kept_of_course (h : Course step began (start stage grace capacity) ts now s) :
    Kept stage grace ts now s ∧ Told stage grace ts s := by
  induction h with
  | start => exact ⟨kept_start stage grace capacity began, told_start stage grace capacity⟩
  | wait _ hle ih => exact ⟨ih.1.wait hle, ih.2⟩
  | step _ hs ih =>
    have he := effect_of_step hs
    exact ⟨kept_step ih.1 he, told_step ih.1 ih.2 he⟩

/-! ## 5. When a consumer has nothing to do -/

/-- **What a consumer waits for** that can make no move: for its handler, or for a sender; and it
has seen the shutdown and is not overdue. -/
structure Waits (now : Nat) (s : Draining α) : Prop where
  atWork : s.consumer.IsAtWork
  seen : s.cancelled = true → s.consumer.graceEnds ≠ none
  ahead : ∀ d, s.consumer.graceEnds = some d → now < d
  work : (∃ item, s.consumer.inHand? = some item) ∧ s.ready = false ∨
    s.consumer.inHand? = none ∧ s.input.items = [] ∧ s.input.senderAlive = true

/-- A consumer past its grace has something to do until it has ended. -/
theorem isAtWork_of_not_busy (hn : s.consumer.ending? = none) (hb : ¬s.Busy now) :
    s.consumer.IsAtWork := by
  cases hs : s.consumer.stand with
  | receiving => exact .inl hs
  | handling item => exact .inr ⟨item, hs⟩
  | checking =>
    refine absurd ⟨.check, ?_⟩ hb
    cases hi : s.input.senderAlive <;> simp [step, allows, Consumer.step, hs, hi]
  | leaving item => exact absurd ⟨.look, by simp [step, allows, Consumer.step, hs]⟩ hb
  | parting item upstreamOpen =>
    exact absurd ⟨.abandon, by simp [step, allows, Consumer.step, hs]⟩ hb
  | ended how =>
    rw [Consumer.ending?, hs] at hn
    cases hn

theorem waits_of_not_busy (hn : s.consumer.ending? = none) (hb : ¬s.Busy now) : Waits now s := by
  have hno : ∀ move, s.allows move = true →
      s.consumer.step now s.cancelled s.input move = none := by
    intro move ha
    cases hs : s.consumer.step now s.cancelled s.input move with
    | none => rfl
    | some r => exact absurd ⟨move, by simp [step, ha, hs]⟩ hb
  have hwork := isAtWork_of_not_busy hn hb
  have hseen : s.cancelled = true → s.consumer.graceEnds ≠ none := by
    intro hc hg
    have := hno .observe rfl
    simp [Consumer.step, hc, hg, hn] at this
  have hahead : s.consumer.isOverdue now = false := by
    refine eq_false_of_ne_true fun ho => ?_
    have hexpire := hno .expire rfl
    rcases hwork with hs | ⟨item, hs⟩ <;> simp [Consumer.step, ho, hs] at hexpire
  have hmay : s.consumer.mayWork now s.cancelled = true := by
    rw [Consumer.mayWork, hahead]
    cases hc : s.cancelled with
    | false => rfl
    | true => simp [Option.isSome_iff_ne_none.mpr (hseen hc)]
  refine ⟨hwork, hseen, fun d hd => ?_, ?_⟩
  · rw [Consumer.isOverdue, hd] at hahead
    simpa using hahead
  · rcases hwork with hs | ⟨item, hs⟩
    · have hreceive := hno .receive rfl
      have hfinish := hno .finish rfl
      simp only [Consumer.step, hs, hmay] at hreceive hfinish
      refine .inr ⟨Consumer.inHand?_of_receiving hs, ?_⟩
      unfold Channel.poll at hreceive hfinish
      cases hi : s.input.items <;> cases hl : s.input.senderAlive <;>
        simp [hi, hl] at hreceive hfinish ⊢
    · refine .inl ⟨⟨item, Consumer.inHand?_of_handling hs⟩, ?_⟩
      refine eq_false_of_ne_true fun hr => ?_
      have hcomplete := hno .complete hr
      simp [Consumer.step, hs, hmay] at hcomplete

theorem not_busy_of_waits (h : Waits now s) : ¬s.Busy now := by
  rintro ⟨move, hb⟩
  obtain ⟨⟨t, es⟩, hs⟩ := Option.isSome_iff_exists.mp hb
  have hnot : ¬s.consumer.isOverdue now = true := by
    intro ho
    obtain ⟨d, hd, hle⟩ := (Option.any_eq_true _ _).mp ho
    exact Nat.not_le_of_lt (h.ahead d hd) (of_decide_eq_true hle)
  have hwork : ∀ stand, s.consumer.stand = stand → stand = .receiving ∨
      ∃ item, stand = .handling item := by
    rintro _ rfl
    exact h.atWork
  cases effect_of_step hs with
  | own m c input ha he =>
    cases he with
    | observe hc hg hn => exact h.seen hc hg
    | receive item rest hst hw hi =>
      rcases h.work with ⟨⟨item, hitem⟩, -⟩ | ⟨-, hempty, -⟩
      · rw [Consumer.inHand?_of_receiving hst] at hitem
        cases hitem
      · rw [Channel.items_eq_of_poll hi] at hempty
        cases hempty
    | finish hst hw hi =>
      rcases h.work with ⟨⟨item, hitem⟩, -⟩ | ⟨-, -, halive⟩
      · rw [Consumer.inHand?_of_receiving hst] at hitem
        cases hitem
      · rw [((Channel.poll_eq_ended_iff _).mp hi).2] at halive
        cases halive
    | complete item hst hw =>
      rcases h.work with ⟨-, hready⟩ | ⟨hnone, -⟩
      · rw [show s.ready = true from ha] at hready
        cases hready
      · rw [Consumer.inHand?_of_handling hst] at hnone
        cases hnone
    | findEmpty ho | giveUp ho => exact hnot ho
    | findOpen hst | findClosed hst | look item hst | abandon item _ hst =>
      rcases hwork _ hst with e | ⟨item', e⟩ <;> cases e
    | crash crash hn => cases ha

/-- **The clock of a consumer that never waits when it has something to do**: it sees the shutdown
at once, and ends no later than when its grace is over. -/
structure Timely (grace : Duration) (ts : List (Step α)) (now : Nat) (s : Draining α) : Prop where
  unseen : s.consumer.ending? = none → s.cancelled = true → s.consumer.graceEnds = none →
    cancelledAt? ts = some now
  seen : ∀ d, s.consumer.graceEnds = some d → ∃ c, cancelledAt? ts = some c ∧ d = c + grace.nanos
  ahead : s.consumer.ending? = none → ∀ d, s.consumer.graceEnds = some d → now ≤ d

theorem timely_start : Timely grace [] now (start stage grace capacity : Draining α) where
  unseen _ h := by cases h
  seen _ h := by cases h
  ahead _ _ h := by cases h

theorem timely_step {t : Draining α} {move : Move α} {es : List Event}
    (hk : Kept stage grace ts now s) (h : Timely grace ts now s) (he : s.Effect now move t es) :
    Timely grace (ts ++ [⟨now, s, move, t, es⟩]) now t := by
  have hsignal : ∀ c, cancelledAt? ts = some c →
      cancelledAt? (ts ++ [⟨now, s, move, t, es⟩]) = some c := fun c hc => by
    rw [cancelledAt?_snoc, hc, Option.some_or]
  have hseen : ∀ d, s.consumer.graceEnds = some d →
      ∃ c, cancelledAt? (ts ++ [⟨now, s, move, t, es⟩]) = some c ∧ d = c + grace.nanos := by
    intro d hd
    obtain ⟨c, hc, e⟩ := h.seen d hd
    exact ⟨c, hsignal c hc, e⟩
  cases he with
  | own m c input ha he =>
    have hn := he.ending?_eq_none
    cases he with
    | observe hc hg hn' =>
      refine ⟨fun _ _ hg' => absurd hg' nofun, fun d hd => ?_, fun _ d hd => ?_⟩
      · cases hd
        exact ⟨now, hsignal now (h.unseen hn hc hg), by rw [hk.withGrace]⟩
      · cases hd
        exact Nat.le_add_right now _
    | receive | finish | complete | findEmpty | giveUp | findOpen | findClosed | look | abandon =>
      exact ⟨fun _ hc hg => hsignal now (h.unseen hn hc hg), hseen, fun _ => h.ahead hn⟩
    | crash => cases ha
  | handled | reserve | send | close =>
    exact ⟨fun hn hc hg => hsignal now (h.unseen hn hc hg), hseen, h.ahead⟩
  | cancel =>
    refine ⟨fun hn _ hg => ?_, hseen, h.ahead⟩
    cases hc : cancelledAt? ts with
    | none =>
      rw [cancelledAt?_snoc, hc]
      rfl
    | some c =>
      -- it had been signalled before, in the same instant
      have htold : s.cancelled = true := by rw [hk.clock.told, hc, Option.isSome_some]
      exact hsignal now (h.unseen hn htold hg)

theorem Timely.wait (h : Timely grace ts now s) {later : Nat} (hle : now ≤ later)
    (hidle : ∀ at_, now ≤ at_ → at_ < later → ¬s.Busy at_) : Timely grace ts later s := by
  rcases Nat.eq_or_lt_of_le hle with rfl | hlt
  · exact h
  · refine ⟨fun hn hc hg => ?_, h.seen, fun hn d hd => ?_⟩
    · exact absurd hg ((waits_of_not_busy hn (hidle now (Nat.le_refl now) hlt)).seen hc)
    · -- at the last instant before the later one the grace was not over
      have hlast := (waits_of_not_busy hn (hidle (later - 1) (by omega) (by omega))).ahead d hd
      omega

theorem timely_of_course
    (h : PromptCourse step (fun now s => s.Busy now) began (start stage grace capacity) ts now s) :
    Kept stage grace ts now s ∧ Timely grace ts now s := by
  induction h with
  | start => exact ⟨kept_start stage grace capacity began, timely_start⟩
  | wait _ hle hidle ih => exact ⟨ih.1.wait hle, ih.2.wait hle hidle⟩
  | step _ hs ih =>
    have he := effect_of_step hs
    exact ⟨kept_step ih.1 he, timely_step ih.1 ih.2 he⟩

/-! ## 6. The outcome -/

/-- **What every course says of how a consumer ends**, whatever the schedule. -/
structure Outcome (stage : Stage) (grace : Duration) (ts : List (Step α)) (now : Nat)
    (s : Draining α) : Prop where
  /-- Items are handled one at a time, in the order of the input. -/
  order : completed ts <+: begun ts ∧ begun ts <+: accepted ts ∧
    (begun ts).length ≤ (completed ts).length + 1
  /-- A consumer ends in one of two ways, -/
  ends : ∀ how, s.consumer.ending? = some how → how = .drained ∨ how = .abandoned
  /-- as drained exactly if all was done at some moment before it ended or gave up, or if it missed
  something, -/
  drained : s.consumer.ending? = some .drained ↔
    s.consumer.ending? ≠ none ∧ (WasDone ts ∨ missed ts ≠ [])
  /-- and it missed just what was accepted and not completed, between its two looks, -/
  overlooked : missed ts ≠ [] → ¬WasDone ts ∧ Overlooks ts ∧ accepted ts = completed ts ++ missed ts
  /-- and otherwise by giving up, after which nothing more is completed or reported. What is put
  into the input from then on, into room that was granted before, is not counted. -/
  abandoned : s.consumer.ending? = some .abandoned → ∃ front t back, ts = front ++ t :: back ∧
    GivesUp stage grace front t ∧ events ts = t.out ∧ completed ts = completed front ∧
    accepted ts = accepted front ++ accepted back ∧ (accepted back).length ≤ t.before.granted
  /-- Unless it gives up, it reports nothing. -/
  quiet : s.consumer.ending? ≠ some .abandoned → events ts = []
  /-- As long as it has not ended and has something to do, it can go on. -/
  waits : s.consumer.ending? = none → ¬s.Busy now → Waits now s

/-- **When a consumer ends that never waits when it has something to do**: once the shutdown was
signalled no later than when its grace is over, and no earlier if it gives up. -/
structure Punctual (grace : Duration) (ts : List (Step α)) (now : Nat) (s : Draining α) :
    Prop where
  ahead : ∀ c, cancelledAt? ts = some c → s.consumer.ending? = none →
    now ≤ c + grace.nanos ∧ (¬s.Busy now → now < c + grace.nanos)
  ends : ∀ front t back, ts = front ++ t :: back → t.before.consumer.ending? = none →
    t.after.consumer.ending? ≠ none →
    (∀ c, cancelledAt? front = some c → t.now ≤ c + grace.nanos) ∧
    (t.after.consumer.ending? = some .abandoned →
      ∃ c, cancelledAt? front = some c ∧ t.now = c + grace.nanos)

theorem outcome_of_told (hk : Kept stage grace ts now s) (h : Told stage grace ts s) :
    Outcome stage grace ts now s where
  order := ⟨hk.ledger.inOrder.1, hk.ledger.inOrder.2, hk.ledger.single⟩
  ends how hs := by
    cases how with
    | drained => exact .inl rfl
    | abandoned => exact .inr rfl
    | crashed crash => exact absurd hs (h.unbroken crash)
  drained := by
    refine ⟨fun hs => ⟨by simp [hs], (h.drained hs).2⟩, fun ⟨hn, hw⟩ => ?_⟩
    rcases hw with hw | hm
    · exact (h.resolved hw).1.resolve_right fun hu => hn hu.ending?
    · exact (h.overlooked hm).1
  overlooked hm := by
    obtain ⟨hs, hover⟩ := h.overlooked hm
    have hall := (hk.ledger.drained hs).1
    refine ⟨fun hw => hm ?_, hover, hall⟩
    rw [(h.resolved hw).2.1] at hall
    exact List.append_right_eq_self.mp hall.symm
  abandoned hs := by
    obtain ⟨front, t, back, rfl, hg, hev, hcom, hroom⟩ := h.abandoned hs
    refine ⟨front, t, back, rfl, hg, hev, hcom, ?_, Nat.le_of_add_right_le (Nat.le_of_eq hroom)⟩
    have hnothing : t.accepted? = none := by rw [Step.accepted?, hg.move]
    rw [accepted, List.filterMap_append, List.filterMap_cons, hnothing]
    rfl
  quiet hne := by
    cases hs : s.consumer.ending? with
    | none => exact h.goesOn hs
    | some how =>
      cases how with
      | drained => exact (h.drained hs).1
      | abandoned => exact absurd hs hne
      | crashed crash => exact absurd hs (h.unbroken crash)
  waits := waits_of_not_busy

/-- The grace of a consumer that has not ended is not over before its clock says so. -/
theorem Timely.before_deadline (hk : Kept stage grace ts now s) (h : Timely grace ts now s)
    (hn : s.consumer.ending? = none) {c : Nat} (hc : cancelledAt? ts = some c) :
    now ≤ c + grace.nanos := by
  cases hg : s.consumer.graceEnds with
  | none =>
    have htold : s.cancelled = true := by rw [hk.clock.told, hc, Option.isSome_some]
    have hnow := h.unseen hn htold hg
    rw [hc] at hnow
    cases hnow
    exact Nat.le_add_right _ _
  | some d =>
    obtain ⟨c', hc', rfl⟩ := h.seen d hg
    rw [hc] at hc'
    cases hc'
    exact h.ahead hn _ hg

theorem punctual_of_course
    (h : PromptCourse step (fun now s => s.Busy now) began (start stage grace capacity) ts now s)
    (ho : Course step began (start stage grace capacity) ts now s) :
    Punctual grace ts now s := by
  refine ⟨fun c hc hn => ?_, fun front t back e hn hend => ?_⟩
  · obtain ⟨hk, ht⟩ := timely_of_course h
    refine ⟨ht.before_deadline hk hn hc, fun hb => ?_⟩
    have hw := waits_of_not_busy hn hb
    have htold : s.cancelled = true := by rw [hk.clock.told, hc, Option.isSome_some]
    obtain ⟨d, hd⟩ := Option.ne_none_iff_exists'.mp (hw.seen htold)
    obtain ⟨c', hc', rfl⟩ := ht.seen d hd
    rw [hc] at hc'
    cases hc'
    exact hw.ahead _ hd
  · obtain ⟨hk, ht⟩ := timely_of_course (h.split e)
    have hstep := effect_of_step (ho.split e).2
    refine ⟨fun c hc => ht.before_deadline hk hn hc, fun habandoned => ?_⟩
    rcases hk.ending_step hstep hn hend with ⟨hs, -⟩ | ⟨-, -, hoverdue, -⟩
    · rw [habandoned] at hs
      cases hs
    · obtain ⟨c, hc, hle⟩ := hk.overdue hoverdue
      exact ⟨c, hc, Nat.le_antisymm (ht.before_deadline hk hn hc) hle⟩

/-- **How a consumer ends.** Whatever its input accepts, whenever that is closed, however long each
item is handled and whenever the shutdown is signalled, it ends as `Outcome` says; and if time
passes only while it has nothing to do, it ends when `Punctual` says. -/
theorem drain_outcome (h : Course step began (start stage grace capacity) ts now s) :
    Outcome stage grace ts now s ∧
      (PromptCourse step (fun now s => s.Busy now) began (start stage grace capacity) ts now s →
        Punctual grace ts now s) := by
  obtain ⟨hk, ht⟩ := kept_of_course h
  exact ⟨outcome_of_told hk ht, fun hp => punctual_of_course hp h⟩

end Runs

/-- A course on which a consumer handles the first of three items and gives up the others when its
grace of two nanoseconds is over. A fourth one comes too late to be counted, into room that was
granted before. -/
theorem drain_outcome_two_given_up : ∃ (ts : List (Step Nat)) (s : Draining Nat),
    PromptCourse step (fun now s => s.Busy now) 0 (start .storage ⟨2, by decide⟩ 4) ts 2 s ∧
      accepted ts = [1, 2, 3, 4] ∧ completed ts = [1] ∧
      events ts = [.stageAbandoned .storage ⟨2, by decide⟩ 2 true] ∧
      Outcome .storage ⟨2, by decide⟩ ts 2 s ∧ Punctual ⟨2, by decide⟩ ts 2 s := by
  have hsent : PromptCourse step (fun now s => s.Busy now) 0
      (start .storage ⟨2, by decide⟩ 4 : Draining Nat) _ 0
      ⟨⟨.storage, ⟨2, by decide⟩, some 2, .handling 2⟩, ⟨4, [3], true, true⟩, true, false, 0⟩ :=
    PromptCourse.start.drive [.reserve, .send 1, .reserve, .reserve, .send 2, .send 3,
      .own .receive, .handled, .own .complete, .own .receive, .cancel, .own .observe] rfl
  have hwaited := hsent.wait (Nat.zero_le 2) fun at_ _ hlt => by
    refine not_busy_of_waits ⟨.inr ⟨2, rfl⟩, nofun, fun d hd => ?_, .inl ⟨⟨2, rfl⟩, rfl⟩⟩
    cases hd
    exact hlt
  have h := hwaited.drive [.own .expire, .own .look, .reserve, .own .abandon, .send 4] rfl
  obtain ⟨ho, hp⟩ := drain_outcome h.course
  exact ⟨_, _, h, rfl, rfl, rfl, ho, hp h⟩

/-- **A consumer counts as drained although an item is left.** Its grace of two nanoseconds is over
and it finds its input empty; then an item is sent and its sender goes away; then the consumer finds
its input closed. The handler of the item was never begun, and no warning is given. -/
theorem drained_although_one_left : ∃ (ts : List (Step Nat)) (s : Draining Nat),
    PromptCourse step (fun now s => s.Busy now) 0 (start .storage ⟨2, by decide⟩ 4) ts 2 s ∧
      s.consumer.ending? = some .drained ∧ accepted ts = [7] ∧ begun ts = [] ∧ missed ts = [7] ∧
      events ts = [] ∧ ¬WasDone ts := by
  have hseen : PromptCourse step (fun now s => s.Busy now) 0
      (start .storage ⟨2, by decide⟩ 4 : Draining Nat) _ 0
      ⟨⟨.storage, ⟨2, by decide⟩, some 2, .receiving⟩, ⟨4, [], true, true⟩, true, false, 0⟩ :=
    PromptCourse.start.drive [.cancel, .own .observe] rfl
  have hwaited := hseen.wait (Nat.zero_le 2) fun at_ _ hlt => by
    refine not_busy_of_waits ⟨.inl rfl, nofun, fun d hd => ?_, .inr ⟨rfl, rfl, rfl⟩⟩
    cases hd
    exact hlt
  have h := hwaited.drive [.own .expire, .reserve, .send 7, .close, .own .check] rfl
  refine ⟨_, _, h, rfl, rfl, rfl, rfl, rfl, fun hw => ?_⟩
  obtain ⟨-, ht⟩ := kept_of_course h.course
  exact nomatch (ht.resolved hw).2.1

end Draining

end Vitals
