import Vitals.Proofs.Pipeline.Passage

/-!
# What a run learns of its stages

A stage that has ended stays as it ended, whatever happens in the flow. When the run has seen the
shutdown it learns of the stages one after another, and its report names those that have not
drained. This file fixes

* `Flow.Later`, the flows that a flow can become, as far as its stages have stopped their work or
  ended;
* `Exporter.Learnt`, what a report says of the stages that the run no longer waits for, and
  `Learning`, the invariant of a course that it holds.

Main statements: every step of the flow is `Later` (`Flow.later_of_step`), and what was learnt once
holds from then on (`learning_of_course`).
-/

namespace Vitals

/-! ## 1. Ends of stages -/

namespace Flow

theorem endingOf_eq (f : Flow) (stage : Stage) :
    f.endingOf stage = (f.consumerOf stage).ending? := by
  cases stage <;> rfl

/-- **What has ended in a flow stays as it ended.** -/
structure Later (f g : Flow) : Prop where
  ending : ∀ stage how, f.endingOf stage = some how → g.endingOf stage = some how
  /-- A stage that has stopped its work does not take it up again. -/
  working : ∀ stage, (g.consumerOf stage).IsAtWork → (f.consumerOf stage).IsAtWork
  closing : f.closing = .done → g.closing = .done

/-- What touches neither stage. -/
theorem later_of_stages {f g : Flow} (hst : g.storage = f.storage) (hsr : g.streaming = f.streaming)
    (hc : f.closing = .done → g.closing = .done) : f.Later g := by
  have hsame : ∀ stage, g.consumerOf stage = f.consumerOf stage := by
    intro stage
    cases stage with
    | storage => exact hst
    | streaming => exact hsr
  refine ⟨fun stage how he => ?_, fun stage hw => hsame stage ▸ hw, hc⟩
  rw [endingOf_eq] at he ⊢
  rw [hsame stage]
  exact he

/-- What is over has ended. -/
theorem exists_of_isOver {f : Flow} {stage : Stage} (h : f.isOver stage = true) :
    ∃ how, f.endingOf stage = some how := by
  cases stage with
  | storage => exact Option.isSome_iff_exists.mp h
  | streaming =>
    unfold isOver at h
    simp only at h
    split at h
    · exact ⟨_, by assumption⟩
    · exact ⟨_, by assumption⟩
    · cases h

theorem Later.isOver {f g : Flow} {stage : Stage} (h : f.Later g) (ho : f.isOver stage = true) :
    g.isOver stage = true := by
  obtain ⟨how, he⟩ := exists_of_isOver ho
  have he' := h.ending stage how he
  cases stage with
  | storage => exact Option.isSome_iff_exists.mpr ⟨how, he'⟩
  | streaming =>
    have he : f.streaming.ending? = some how := he
    have he' : g.streaming.ending? = some how := he'
    unfold Flow.isOver at ho ⊢
    simp only [he] at ho
    simp only [he']
    cases how with
    | crashed crash => rfl
    | drained | abandoned => exact beq_iff_eq.mpr (h.closing (beq_iff_eq.mp ho))

section

variable {now : Nat} {cancelled : Bool} {f g : Flow} {r r' : Subscribers} {stage : Stage}

/-- A stage at work ends, at most. -/
theorem later_of_works {move : Consumer.Move} (hW : Works now cancelled f stage move g)
    (hc : g.closing = f.closing) : f.Later g := by
  obtain ⟨⟨input, input', -, heff, -⟩, -, hothers⟩ := hW
  refine ⟨fun other how he => ?_, fun other hw => ?_, fun hd => hc.trans hd⟩
  · rw [endingOf_eq] at he ⊢
    by_cases hs : other = stage
    · rw [hs, heff.ending?_eq_none] at he
      cases he
    · rw [hothers other hs]
      exact he
  · by_cases hs : other = stage
    · subst hs
      exact heff.isAtWork hw
    · rw [← hothers other hs]
      exact hw

theorem closing_of_stepStorage {move : Consumer.Move} {es : List Event}
    (h : f.stepStorage now cancelled move = some (g, es)) : g.closing = f.closing := by
  obtain ⟨_, _, _, _, _, rfl⟩ := storage_only h
  rfl

theorem closing_of_stepStreaming {move : Consumer.Move} {es : List Event}
    (h : f.stepStreaming now cancelled r move = some (g, r', es)) : g.closing = f.closing := by
  obtain ⟨_, _, _, rfl⟩ := streaming_only h
  rfl

/-- Subscriptions that were closed stay closed. -/
theorem closing_note (f : Flow) (os : List (Registry.Outcome Party)) (h : f.closing = .done) :
    (f.note os).1.closing = .done := by
  induction os generalizing f with
  | nil => exact h
  | cons o os ih =>
    cases o with
    | event e => exact ih f h
    | done task answer =>
      cases task with
      | guest n => exact ih f h
      | stage =>
        refine ih (f.answered answer) ?_
        cases answer with
        | stopped => rfl
        | subscribed | removed | delivered | counted => exact h

/-- **Every step leaves what has ended as it ended.** -/
theorem later_of_step {move : Move} {out : List Outcome}
    (h : f.step now cancelled r move = some (g, r', out)) : f.Later g := by
  cases effect_of_step h with
  | serveEnds | tick | bring | breakOff | join | aggregate | relay | saveEnds =>
    exact later_of_stages rfl rfl id
  | storage m g es hs => exact later_of_works (works_of_stepStorage hs) (closing_of_stepStorage hs)
  | streaming m g r' es hs =>
    exact later_of_works (works_of_stepStreaming hs) (closing_of_stepStreaming hs)
  | close how r' hc he hh ha =>
    refine later_of_stages rfl rfl fun hd => ?_
    rw [hc] at hd
    cases hd
  | subscribers m r' os hm hs =>
    have hclosing := closing_note f os
    obtain ⟨delivered, closing, hnote⟩ := note_only f os
    rw [hnote] at hclosing ⊢
    exact later_of_stages rfl rfl hclosing

end

end Flow

/-! ## 2. What the run learns -/

namespace Exporter

/-- **What a report says when the run waits for the stages of `left` only**: the others are over,
and the report names those of them that have not drained. -/
def Learnt (x : Exporter) (left : List Stage) (report : Report) : Prop :=
  ∃ f done, x.flow = some f ∧ Stage.all = done ++ left ∧ (∀ stage ∈ done, f.isOver stage = true) ∧
    report.abandoned = done.filter fun stage => decide (f.endingOf stage ≠ some .drained)

/-- **What the run has learnt of its stages holds.** -/
structure Learning (ts : List Step) (x : Exporter) : Prop where
  /-- There is a flow when the run starts to scrape. -/
  started : ∀ call, x.progress = .scraping call → ∃ f, x.flow = some f
  awaiting : ∀ call left report, x.progress = .awaiting call left report → x.Learnt left report
  reported : ∀ call report, .returned call (.ok report) ∈ outcomes ts → x.Learnt [] report

section

variable {settings : Flow.Settings} {subscribers : Flow.Subscribers} {now start : Nat}
  {x y : Exporter} {move : Move} {out : List Outcome} {ts : List Step}

/-- A flow that has started goes on, and what has ended stays as it ended. -/
theorem later_of_effect {f : Flow} (hu : x.progress.isBound = false → x.flow = none)
    (he : Effect now x move y out) (hf : x.flow = some f) :
    ∃ g, y.flow = some g ∧ f.Later g := by
  cases onFlow_of_effect he with
  | starts call hp =>
    rw [hu (by rw [hp]; rfl)] at hf
    cases hf
  | moves m f' g os hm hf' hg h ho =>
    rw [hf] at hf'
    cases hf'
    exact ⟨g, hg, Flow.later_of_step h⟩
  | guest m os hm hi hx =>
    rw [hf] at hx
    cases hx
  | beside k hm hy hk hr ho =>
    obtain ⟨serving, scraping, scrapes, hkf⟩ := hk f
    refine ⟨k f, by rw [hy, hf, Option.map_some], ?_⟩
    rw [hkf]
    exact Flow.later_of_stages rfl rfl id

/-- What was learnt holds from then on. -/
theorem Learnt.later {left : List Stage} {report : Report} (h : x.Learnt left report)
    (hy : ∀ f, x.flow = some f → ∃ g, y.flow = some g ∧ f.Later g) : y.Learnt left report := by
  obtain ⟨f, done, hf, hall, hover, hreport⟩ := h
  obtain ⟨g, hg, hlater⟩ := hy f hf
  refine ⟨g, done, hg, hall, fun stage hs => hlater.isOver (hover stage hs), ?_⟩
  rw [hreport]
  refine List.filter_congr fun stage hs => ?_
  obtain ⟨how, he⟩ := Flow.exists_of_isOver (hover stage hs)
  rw [he, hlater.ending stage how he]

/-- The run learns of one more stage. -/
theorem Learnt.collect {stage : Stage} {left : List Stage} {report : Report} {f : Flow}
    {how : Consumer.Ending} (h : x.Learnt (stage :: left) report) (hf : x.flow = some f)
    (ho : f.isOver stage = true) (he : f.endingOf stage = some how) (hy : y.flow = x.flow) :
    y.Learnt left (reportOn report stage how) := by
  obtain ⟨f', done, hf', hall, hover, hreport⟩ := h
  rw [hf] at hf'
  cases hf'
  refine ⟨f, done ++ [stage], hy.trans hf, by rw [hall, List.append_cons], fun other hother => ?_, ?_⟩
  · rcases List.mem_append.mp hother with hother | hother
    · exact hover other hother
    · rw [List.mem_singleton.mp hother]
      exact ho
  · have hlast : [stage].filter (fun s => decide (f.endingOf s ≠ some .drained)) =
        if how = .drained then [] else [stage] := by
      rw [List.filter_cons, List.filter_nil, he]
      cases how <;> rfl
    rw [List.filter_append, hlast, ← hreport]
    cases how with
    | drained => exact (List.append_nil _).symm
    | abandoned | crashed => rfl

theorem learning_start (settings : Flow.Settings) (subscribers : Flow.Subscribers) :
    Learning [] (new settings subscribers) where
  started := nofun
  awaiting := nofun
  reported _ _ h := absurd h List.not_mem_nil

/-- **Every step keeps what the run has learnt.** -/
theorem learning_step (h : Learning ts x) (hu : x.progress.isBound = false → x.flow = none)
    (he : Effect now x move y out) : Learning (ts ++ [⟨now, x, move, y, out⟩]) y := by
  have hflow : ∀ f, x.flow = some f → ∃ g, y.flow = some g ∧ f.Later g :=
    fun f hf => later_of_effect hu he hf
  have hlater : ∀ {left report}, x.Learnt left report → y.Learnt left report :=
    fun hl => hl.later hflow
  have hgoes : ∀ {call : Nat}, x.progress = .scraping call → ∃ g, y.flow = some g := by
    intro call hp
    obtain ⟨f, hf⟩ := h.started call hp
    obtain ⟨g, hg, -⟩ := hflow f hf
    exact ⟨g, hg⟩
  -- a run that begins to wait has learnt nothing
  have hnothing : ∀ {call : Nat}, x.progress = .scraping call → y.Learnt Stage.all {} := by
    intro call hp
    obtain ⟨g, hg⟩ := hgoes hp
    exact ⟨g, [], hg, rfl, fun stage hs => absurd hs List.not_mem_nil, rfl⟩
  refine ⟨fun call hp => ?_, fun call left report hp => ?_, fun call report hret => ?_⟩
  · cases he with
    | begin | unbound | bindCrashed | seeShutdown | serveReturned | serveFailed | collect
    | conclude => cases hp
    | bound => exact ⟨_, rfl⟩
    | turnAway | stop | serveStopped | serveCrashed | flow | guest => exact hgoes hp
  · cases he with
    | begin | bound | unbound | bindCrashed | serveFailed | conclude => cases hp
    | turnAway | stop | flow | guest => exact hlater (h.awaiting call left report hp)
    | seeShutdown call' hp' hc =>
      cases hp
      exact hnothing hp'
    | serveReturned call' f hp' hf hs hc =>
      cases hp
      exact hnothing hp'
    | serveStopped call' f hp' hf hs hc => exact hlater (h.awaiting call left report hp)
    | serveCrashed call' f crash hp' hf hs => exact hlater (h.awaiting call left report hp)
    | collect call' stage left' report' f how hp' hf ho hend =>
      cases hp
      exact (h.awaiting _ _ _ hp').collect hf ho hend rfl
  · rw [outcomes_snoc, List.mem_append] at hret
    rcases hret with hret | hret
    · exact hlater (h.reported call report hret)
    · cases returns_of_effect he hret with
      | concluded _ hm hp hy => exact hlater (h.awaiting _ _ _ hp)

theorem learning_of_course
    (h : Course Exporter.step start (new settings subscribers) ts now x) : Learning ts x := by
  induction h with
  | start => exact learning_start settings subscribers
  | wait _ _ ih => exact ih
  | step h hs ih =>
    have hI : Follows .storage _ _ := follows_of_course h
    exact learning_step ih hI.unbound (effect_of_step hs)

end

end Exporter

end Vitals
