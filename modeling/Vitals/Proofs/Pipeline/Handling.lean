import Vitals.Proofs.Subscribers.Requests
import Vitals.Proofs.Pipeline.Flow
import Vitals.Proofs.Pipeline.Way

/-!
# How a stage handles the snapshot in its hand

A stage has others do the work: the storage stage has a snapshot saved, the streaming stage has the
registry broadcast it. What is under way for a stage goes on by itself, so that the stage and those
who work for it could come to disagree. This file fixes

* `Errand` and `Flow.errands`, what is under way for a stage;
* `Storing` and `Broadcasting`, the states in which a stage and its errands agree, and `Tended`,
  the flows in which both do.

Main statement: in every step of a tended flow a stage begins with a snapshot only if nothing is
under way for it, and then has just the errand of this snapshot done; and it has handled the
snapshot only when that is over (`tended_of_step`).
-/

namespace Vitals.Flow

/-! ## 1. Errands -/

/-- What is done for a stage. -/
inductive Errand where
  | save (record : List Char) (stamp : Moment)
  | ask (request : Registry.Request (Snapshot Float))
  deriving DecidableEq, Repr

/-- What is under way for a stage. -/
def errands (f : Flow) (r : Subscribers) : Stage → List Errand
  | .storage => f.jobs.map fun j => .save j.record j.stamp
  | .streaming => (r.requestsOf .stage).map .ask

/-- What handling a snapshot calls for. A snapshot without a record is not saved. -/
def errandsFor (s : Snapshot Float) : Stage → List Errand
  | .storage =>
    match s.record with
    | .ok record => [.save record s.timestamp]
    | .error _ => []
  | .streaming => [.ask (.broadcast s)]

/-- **The storage stage and the saves under way agree.** -/
inductive Storing : Consumer.Stand (Snapshot Float) → Saving → List SaveJob → Prop where
  | idle (saving : Saving) : Storing .receiving saving []
  | underWay (s : Snapshot Float) (record : List Char) (id : Nat) (hr : s.record = .ok record) :
      Storing (.handling s) (.underWay id) [⟨id, record, s.timestamp⟩]
  | settled (s : Snapshot Float) (how : SaveEnding) : Storing (.handling s) (.ended how) []
  | unwritable (s : Snapshot Float) (fault : Fault) (hr : s.record = .error fault) :
      Storing (.handling s) (.unwritable fault) []
  /-- A save goes on when the stage has stopped its work. -/
  | stopped (stand : Consumer.Stand (Snapshot Float)) (saving : Saving) (jobs : List SaveJob)
      (hr : stand ≠ .receiving) (hh : ∀ s, stand ≠ .handling s) : Storing stand saving jobs

/-- **The streaming stage and its requests to the registry agree.** -/
inductive Broadcasting : Consumer.Stand (Snapshot Float) → Bool →
    List (Registry.Request (Snapshot Float)) → Prop where
  | idle (delivered : Bool) : Broadcasting .receiving delivered []
  | underWay (s : Snapshot Float) : Broadcasting (.handling s) false [.broadcast s]
  | settled (s : Snapshot Float) : Broadcasting (.handling s) true []
  | stopped (stand : Consumer.Stand (Snapshot Float)) (delivered : Bool)
      (requests : List (Registry.Request (Snapshot Float))) (hr : stand ≠ .receiving)
      (hh : ∀ s, stand ≠ .handling s) : Broadcasting stand delivered requests

structure Tended (f : Flow) (r : Subscribers) : Prop where
  storing : Storing f.storage.stand f.saving f.jobs
  broadcasting : Broadcasting f.streaming.stand f.delivered (r.requestsOf .stage)

/-- A stage begins and ends with its errands. -/
structure Attends (stage : Stage) (before after : List Errand)
    (begun? handled? : Option (Snapshot Float)) : Prop where
  begins : ∀ s, begun? = some s → before = [] ∧ after = errandsFor s stage
  ends : ∀ s, handled? = some s → before = []

section

variable {stand : Consumer.Stand (Snapshot Float)} {saving : Saving} {jobs : List SaveJob}
  {requests : List (Registry.Request (Snapshot Float))} {delivered : Bool}

theorem Storing.of_not_isAtWork {c : Consumer (Snapshot Float)} (h : ¬c.IsAtWork) :
    Storing c.stand saving jobs :=
  .stopped _ _ _ (fun e => h (.inl e)) fun s e => h (.inr ⟨s, e⟩)

theorem Storing.jobs_of_receiving (h : Storing stand saving jobs) (hs : stand = .receiving) :
    jobs = [] := by
  subst hs
  cases h with
  | idle => rfl
  | stopped _ _ _ hr => exact absurd rfl hr

/-- A save that has ended, or could not begin, is not under way. -/
theorem Storing.jobs_of_handling {s : Snapshot Float} (h : Storing stand saving jobs)
    (hs : stand = .handling s) (hv : ∀ id, saving ≠ .underWay id) : jobs = [] := by
  subst hs
  cases h with
  | underWay _ id => exact absurd rfl (hv _)
  | settled | unwritable => rfl
  | stopped _ _ _ _ hh => exact absurd rfl (hh s)

/-- A save that ends is the one that the stage waits for. -/
theorem Storing.endSave {id : Nat} (how : SaveEnding) (h : Storing stand saving jobs)
    (hj : (jobs.any fun j => j.id == id) = true) :
    Storing stand (if saving = .underWay id then .ended how else saving)
      (jobs.filter fun j => j.id != id) := by
  cases h with
  | idle | settled | unwritable => cases hj
  | stopped stand saving jobs hr hh => exact .stopped stand _ _ hr hh
  | underWay s record id' hr =>
    rw [List.any_cons, List.any_nil, Bool.or_false, beq_iff_eq] at hj
    cases hj
    rw [if_pos rfl]
    simp only [List.filter_cons, bne_self_eq_false, Bool.false_eq_true, if_false, List.filter_nil]
    exact .settled s how

theorem Broadcasting.of_not_isAtWork {c : Consumer (Snapshot Float)} (h : ¬c.IsAtWork) :
    Broadcasting c.stand delivered requests :=
  .stopped _ _ _ (fun e => h (.inl e)) fun s e => h (.inr ⟨s, e⟩)

theorem Broadcasting.requests_of_receiving (h : Broadcasting stand delivered requests)
    (hs : stand = .receiving) : requests = [] := by
  subst hs
  cases h with
  | idle => rfl
  | stopped _ _ _ hr => exact absurd rfl hr

theorem Broadcasting.requests_of_delivered {s : Snapshot Float}
    (h : Broadcasting stand delivered requests) (hs : stand = .handling s)
    (hd : delivered = true) : requests = [] := by
  subst hs hd
  cases h with
  | settled => rfl
  | stopped _ _ _ _ hh => exact absurd rfl (hh s)

end

section

variable {stage : Stage} {before after : List Errand} {s : Snapshot Float}

theorem attends_of_none : Attends stage before after none none where
  begins _ h := by cases h
  ends _ h := by cases h

theorem attends_of_begun (hb : before = []) (ha : after = errandsFor s stage) :
    Attends stage before after (some s) none where
  begins s' h := by
    cases h
    exact ⟨hb, ha⟩
  ends _ h := by cases h

theorem attends_of_handled (hb : before = []) : Attends stage before after none (some s) where
  begins _ h := by cases h
  ends _ _ := hb

end

/-! ## 2. The storage stage -/

section

variable {now : Nat} {cancelled : Bool} {f g : Flow} {r r' : Subscribers}

/-- The save of a snapshot begins. -/
theorem storing_of_beginSave {s : Snapshot Float} (hs : f.storage.stand = .handling s)
    (hj : f.jobs = []) :
    Storing (f.beginSave s).storage.stand (f.beginSave s).saving (f.beginSave s).jobs ∧
      (f.beginSave s).errands r .storage = errandsFor s .storage ∧
      (f.beginSave s).streaming = f.streaming ∧ (f.beginSave s).delivered = f.delivered := by
  unfold beginSave errands errandsFor
  cases hr : s.record with
  | error fault =>
    simp only [hs, hj]
    exact ⟨.unwritable s fault hr, rfl, trivial, trivial⟩
  | ok record =>
    simp only [hs, hj]
    exact ⟨.underWay s record _ hr, rfl, trivial, trivial⟩

/-- The stage notices that there is nothing more to do. -/
theorem storing_of_complete {s : Snapshot Float} {after : List Errand}
    (hS : Storing f.storage.stand f.saving f.jobs) (hs : f.storage.stand = .handling s)
    (hv : ∀ id, f.saving ≠ .underWay id) :
    Storing .receiving .idle f.jobs ∧
      Attends .storage (f.errands r .storage) after none (f.storage.completed? .complete) := by
  have hj : f.jobs = [] := hS.jobs_of_handling hs hv
  have hhand : f.storage.completed? .complete = some s := by
    rw [Consumer.completed?, Consumer.inHand?, hs]
  rw [hhand]
  refine ⟨?_, attends_of_handled ?_⟩
  · rw [hj]
    exact .idle _
  · rw [errands, hj]
    rfl

theorem storing_of_stepStorage {m : Consumer.Move} {es : List Event}
    (h : f.stepStorage now cancelled m = some (g, es))
    (hS : Storing f.storage.stand f.saving f.jobs) :
    Storing g.storage.stand g.saving g.jobs ∧ g.streaming = f.streaming ∧
      g.delivered = f.delivered ∧
      Attends .storage (f.errands r .storage) (g.errands r .storage)
        (f.begun? .storage (.storage m)) (f.handled? .storage (.storage m)) := by
  obtain ⟨input, storage, input', events, hi, hc, hs⟩ := stored_of_step h
  rw [begun?_of_some rfl hi, handled?_of_some rfl]
  have he := Consumer.effect_of_step hc
  cases hs with
  | observed =>
    cases he with
    | observe hcan hg hend => exact ⟨hS, rfl, rfl, attends_of_none⟩
  | received s hand =>
    cases he with
    | receive s' _ hs hwk hp =>
      cases hand
      have hj : f.jobs = [] := hS.jobs_of_receiving hs
      obtain ⟨hS', herr, hst, hd⟩ := storing_of_beginSave (r := r) (s := s)
        (f := { f.setInput .storage input' with
          storage := { f.storage with stand := .handling s } }) rfl hj
      refine ⟨hS', hst, hd, ?_⟩
      simp only [Consumer.taken?, hp]
      exact attends_of_begun (by rw [errands, hj]; rfl) herr
  | saved how hv =>
    cases he with
    | complete s hs hwk =>
      have hv : f.saving = .ended how := hv
      obtain ⟨hS', hattends⟩ := storing_of_complete (r := r) hS hs (by simp [hv])
      exact ⟨hS', rfl, rfl, hattends⟩
  | unwritable fault hv =>
    cases he with
    | complete s hs hwk =>
      have hv : f.saving = .unwritable fault := hv
      obtain ⟨hS', hattends⟩ := storing_of_complete (r := r) hS hs (by simp [hv])
      exact ⟨hS', rfl, rfl, hattends⟩
  | finished | expired | checked | looked | abandoned | crashed =>
    exact ⟨.of_not_isAtWork (he.not_isAtWork rfl), rfl, rfl, attends_of_none⟩

/-! ## 3. The streaming stage -/

theorem broadcasting_of_stepStreaming {m : Consumer.Move} {es : List Event}
    (h : f.stepStreaming now cancelled r m = some (g, r', es))
    (hB : Broadcasting f.streaming.stand f.delivered (r.requestsOf .stage)) :
    Broadcasting g.streaming.stand g.delivered (r'.requestsOf .stage) ∧
      g.storage = f.storage ∧ g.saving = f.saving ∧ g.jobs = f.jobs ∧
      Attends .streaming (f.errands r .streaming) (g.errands r' .streaming)
        (f.begun? .streaming (.streaming m)) (f.handled? .streaming (.streaming m)) := by
  obtain ⟨input, streaming, input', events, hi, hc, hs⟩ := streamed_of_step h
  rw [begun?_of_some rfl hi, handled?_of_some rfl]
  have he := Consumer.effect_of_step hc
  cases hs with
  | observed =>
    cases he with
    | observe hcan hg hend => exact ⟨hB, rfl, rfl, rfl, attends_of_none⟩
  | received s _ hand hask =>
    cases he with
    | receive s' _ hs hwk hp =>
      cases hand
      have hnone : r.requestsOf .stage = [] := hB.requests_of_receiving hs
      have hone : r'.requestsOf .stage = [.broadcast s] := by
        rw [Registry.requestsOf_ask hask, hnone, if_pos rfl]
        rfl
      refine ⟨?_, rfl, rfl, rfl, ?_⟩
      · rw [hone]
        exact .underWay s
      · simp only [Consumer.taken?, hp]
        exact attends_of_begun (by rw [errands, hnone]; rfl) (by rw [errands, hone]; rfl)
  | delivered hd =>
    cases he with
    | complete s hs hwk =>
      have hnone : r.requestsOf .stage = [] := hB.requests_of_delivered hs hd
      have hhand : f.streaming.inHand? = some s := by rw [Consumer.inHand?, hs]
      refine ⟨?_, rfl, rfl, rfl, ?_⟩
      · rw [hnone]
        exact .idle false
      · rw [show (f.consumerOf .streaming).completed? .complete = some s from hhand]
        exact attends_of_handled (by rw [errands, hnone]; rfl)
  | finished | expired | checked | looked | abandoned | crashed =>
    exact ⟨.of_not_isAtWork (he.not_isAtWork rfl), rfl, rfl, rfl, attends_of_none⟩

theorem ne_ask_of_isForeign {m : Registry.Move Party (Snapshot Float)} (h : isForeign m = true)
    (q : Registry.Request (Snapshot Float)) : m ≠ .ask .stage q := by
  rintro rfl
  cases h

theorem ne_cancel_of_isForeign {m : Registry.Move Party (Snapshot Float)}
    (h : isForeign m = true) : m ≠ .cancel .stage := by
  rintro rfl
  cases h

/-- The registry goes on with the broadcast, or is done with it. -/
theorem broadcasting_of_subscribers {m : Registry.Move Party (Snapshot Float)}
    {os : List (Registry.Outcome Party)} (hm : isForeign m = true)
    (h : r.step now m = some (r', os))
    (hB : Broadcasting f.streaming.stand f.delivered (r.requestsOf .stage)) :
    Broadcasting f.streaming.stand (f.note os).1.delivered (r'.requestsOf .stage) := by
  rcases Registry.requestsOf_of_effect (Registry.effect_of_step h) (ne_ask_of_isForeign hm)
    (ne_cancel_of_isForeign hm) with
    ⟨hquiet, hr⟩ | ⟨request, answer, rfl, ha, hr⟩
  · rw [note_of_quiet hquiet, hr]
    exact hB
  · rw [hr] at hB
    generalize f.streaming.stand = stand at hB ⊢
    generalize f.delivered = delivered at hB
    generalize hq : request :: r'.requestsOf .stage = requests at hB
    cases hB with
    | idle => cases hq
    | underWay s =>
      obtain ⟨rfl, hnone⟩ := List.cons.inj hq
      cases ha
      rw [hnone]
      exact .settled s
    | settled => cases hq
    | stopped _ _ _ hr hh => exact .stopped stand _ _ hr hh

/-! ## 4. Steps -/

/-- **A tended flow stays tended**, and its stages begin and end with their errands. -/
theorem tended_of_step {move : Move} {out : List Outcome} (hT : f.Tended r)
    (h : f.step now cancelled r move = some (g, r', out)) :
    g.Tended r' ∧ ∀ stage, Attends stage (f.errands r stage) (g.errands r' stage)
      (f.begun? stage move) (f.handled? stage move) := by
  have hother : ∀ stage, move.of? stage = none → Attends stage (f.errands r stage)
      (g.errands r' stage) (f.begun? stage move) (f.handled? stage move) := by
    intro stage hm
    rw [begun?_of_none hm, handled?_of_none hm]
    exact attends_of_none
  cases effect_of_step h with
  | serveEnds | tick | bring | breakOff | join | aggregate | relay =>
    exact ⟨⟨hT.storing, hT.broadcasting⟩, fun stage => hother stage rfl⟩
  | storage m g es hs =>
    obtain ⟨hS, hst, hd, hattends⟩ := storing_of_stepStorage (r := r) hs hT.storing
    refine ⟨⟨hS, ?_⟩, fun stage => ?_⟩
    · rw [hst, hd]
      exact hT.broadcasting
    · cases stage with
      | storage => exact hattends
      | streaming => exact hother .streaming rfl
  | saveEnds id how hj =>
    exact ⟨⟨hT.storing.endSave how hj, hT.broadcasting⟩, fun stage => hother stage rfl⟩
  | streaming m g r' es hs =>
    obtain ⟨hB, hst, hv, hj, hattends⟩ := broadcasting_of_stepStreaming hs hT.broadcasting
    refine ⟨⟨?_, hB⟩, fun stage => ?_⟩
    · rw [hst, hv, hj]
      exact hT.storing
    · cases stage with
      | storage => exact hother .storage rfl
      | streaming => exact hattends
  | close how r' hc he hh ha =>
    have hstopped : ¬f.streaming.IsAtWork := fun hw => nomatch hw.ending?.symm.trans he
    exact ⟨⟨hT.storing, .of_not_isAtWork hstopped⟩, fun stage => hother stage rfl⟩
  | subscribers m r' os hm hs =>
    refine ⟨?_, fun stage => hother stage rfl⟩
    have hB := broadcasting_of_subscribers hm hs hT.broadcasting
    obtain ⟨delivered, closing, hnote⟩ := note_only f os
    rw [hnote] at hB ⊢
    exact ⟨hT.storing, hB⟩

end

end Vitals.Flow
