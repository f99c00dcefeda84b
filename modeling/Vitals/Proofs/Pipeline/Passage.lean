import Vitals.Proofs.Pipeline.Step
import Vitals.Proofs.Pipeline.Handling
import Vitals.Proofs.Pipeline.Exporter

/-!
# Snapshots reach the stages in order

This file follows the snapshots through a whole run of an exporter. It fixes

* the histories of a course: the snapshots that the aggregator placed in its channel (`placed`),
  those that a stage began to handle (`begun`), those that it handled to the end (`handled`), and
  those that were left in its channel when it counted as drained (`missed`);
* two invariants: `Follows`, the way to a stage passes its snapshots on, and a stage that the run
  does not hold to be abandoned has drained; and `Tended`, the stages agree with what is under way
  for them.

Main statement: a stage begins with the placed snapshots one after another in their order, ends
with each before it begins with the next, and has handled every one of them if a report does not
name it, but for those that it missed (`stages_handle_in_order`). A stage whose grace is over
misses what the fan-out sends between its two looks at its channel
(`unnamed_although_one_left`).
-/

namespace Vitals.Exporter

/-! ## 1. Histories -/

abbrev Step := Transition Exporter Move Outcome

namespace Step

/-- The move of the flow that a step is, with the flow before it. -/
def flowMove? (t : Step) : Option (Flow × Flow.Move) :=
  match t.move, t.before.flow with
  | .flow m, some f => some (f, m)
  | _, _ => none

/-- The snapshot that the aggregator places in its channel. -/
def placed? (t : Step) : Option (Snapshot Float) :=
  t.flowMove?.bind fun (f, m) => f.placed? m

/-- The snapshot that a stage begins to handle. -/
def begun? (stage : Stage) (t : Step) : Option (Snapshot Float) :=
  t.flowMove?.bind fun (f, m) => f.begun? stage m

/-- The snapshots that are left in the channel of a stage when it counts as drained. -/
def missed (stage : Stage) (t : Step) : List (Snapshot Float) :=
  t.flowMove?.elim [] fun (f, m) => f.missed stage m

/-- The snapshot that a stage has handled to the end. -/
def handled? (stage : Stage) (t : Step) : Option (Snapshot Float) :=
  t.flowMove?.bind fun (f, m) => f.handled? stage m

end Step

def placed (ts : List Step) : List (Snapshot Float) :=
  ts.filterMap Step.placed?

def begun (stage : Stage) (ts : List Step) : List (Snapshot Float) :=
  ts.filterMap (Step.begun? stage)

def handled (stage : Stage) (ts : List Step) : List (Snapshot Float) :=
  ts.filterMap (Step.handled? stage)

def missed (stage : Stage) (ts : List Step) : List (Snapshot Float) :=
  ts.flatMap (Step.missed stage)

/-- What was returned in the course of a run. -/
def outcomes (ts : List Step) : List Outcome :=
  ts.flatMap Transition.out

/-! ## 2. The invariant -/

/-- Whether there was a run that got past binding. -/
def Progress.isBound : Progress → Bool
  | .untouched | .binding _ => false
  | _ => true

/-- The way to a stage, once there is a flow. -/
def way (x : Exporter) (stage : Stage) : Option Flow.Way :=
  x.flow.bind fun f => f.way stage

/-- The stage has come to its end and counts as drained. -/
def Drained (x : Exporter) (stage : Stage) : Prop :=
  ∃ w, x.way stage = some w ∧ w.consumer.ending? = some .drained

/-- **What a course says of the way to a stage.** -/
structure Follows (stage : Stage) (ts : List Step) (x : Exporter) : Prop where
  unbound : x.progress.isBound = false → x.flow = none
  passes : (x.flow = none ∧ placed ts = [] ∧ begun stage ts = [] ∧ handled stage ts = [] ∧
      missed stage ts = []) ∨
    ∃ w, x.way stage = some w ∧
      w.Passes (placed ts) (begun stage ts) (handled stage ts) (missed stage ts)
  /-- A stage that the run no longer waits for has drained, if the report does not name it. -/
  learnt : ∀ call left report, x.progress = .awaiting call left report → stage ∉ left →
    stage ∉ report.abandoned → x.Drained stage
  reported : ∀ call report, .returned call (.ok report) ∈ outcomes ts →
    stage ∉ report.abandoned → x.Drained stage

section

variable {settings : Flow.Settings} {subscribers : Flow.Subscribers} {now : Nat} {x y : Exporter}
  {move : Move} {out : List Outcome} {ts : List Step} {stage : Stage}

theorem outcomes_snoc (ts : List Step) (t : Step) :
    outcomes (ts ++ [t]) = outcomes ts ++ t.out := by
  rw [outcomes, List.flatMap_append, List.flatMap_singleton]
  rfl

theorem missed_snoc (ts : List Step) (t : Step) :
    missed stage (ts ++ [t]) = missed stage ts ++ t.missed stage := by
  rw [missed, List.flatMap_append, List.flatMap_singleton]
  rfl

theorem way_of_flow {f : Flow} (hf : x.flow = some f) : x.way stage = f.way stage := by
  rw [way, hf]
  rfl

theorem way_of_none (hf : x.flow = none) : x.way stage = none := by
  rw [way, hf]
  rfl

/-- A stage of a flow that has not started yet has not drained. -/
theorem not_drained_of_none (hf : x.flow = none) : ¬x.Drained stage := by
  rintro ⟨w, hw, -⟩
  rw [way_of_none hf] at hw
  cases hw

theorem drained_iff {f : Flow} (hf : x.flow = some f) {w : Flow.Way}
    (hw : x.way stage = some w) : x.Drained stage ↔ f.endingOf stage = some .drained := by
  have hc : f.endingOf stage = w.consumer.ending? := by
    rw [way_of_flow hf] at hw
    rw [← (Flow.way_eq_some_iff.mp hw).2.2]
    cases stage <;> rfl
  rw [hc]
  constructor
  · rintro ⟨w', hw', he⟩
    rw [hw] at hw'
    cases hw'
    exact he
  · exact fun he => ⟨w, hw, he⟩

/-- What is seen of a move of the flow is seen of the step that it is; of a guest's move there is
nothing to be seen. -/
theorem bind_flowMove? {β : Type} (see : Flow → Flow.Move → Option β) {t : Step} {m : Flow.Move}
    {f : Flow} (hsee : ∀ m', see f (.subscribers m') = none) (hf : t.before.flow = some f)
    (hm : t.move = .flow m ∨ ∃ m', t.move = .guest m' ∧ m = .subscribers m') :
    (t.flowMove?.bind fun x => see x.1 x.2) = see f m := by
  rcases hm with hm | ⟨m', hm, rfl⟩
  · have hmove : t.flowMove? = some (f, m) := by rw [Step.flowMove?, hm, hf]
    rw [hmove]
    rfl
  · have hmove : t.flowMove? = none := by rw [Step.flowMove?, hm]
    rw [hmove, hsee]
    rfl

theorem flowMove?_of_ne {t : Step} (h : ∀ m, t.move ≠ .flow m) : t.flowMove? = none := by
  unfold Step.flowMove?
  split
  · rename_i m f hm hf
    exact absurd hm (h m)
  · rfl

/-- What a move of the flow adds to the histories. -/
theorem histories_of_flow {t : Step} {m : Flow.Move} {f : Flow} (stage : Stage)
    (hf : t.before.flow = some f)
    (hm : t.move = .flow m ∨ ∃ m', t.move = .guest m' ∧ m = .subscribers m') :
    t.placed? = f.placed? m ∧ t.begun? stage = f.begun? stage m ∧
      t.handled? stage = f.handled? stage m ∧ t.missed stage = f.missed stage m := by
  refine ⟨?_, ?_, ?_, ?_⟩
  · exact bind_flowMove? Flow.placed? (fun _ => rfl) hf hm
  · exact bind_flowMove? (fun f m => f.begun? stage m) (fun _ => Flow.begun?_of_none rfl) hf hm
  · exact bind_flowMove? (fun f m => f.handled? stage m) (fun _ => Flow.handled?_of_none rfl) hf hm
  · rcases hm with hm | ⟨m', hm, rfl⟩
    · rw [Step.missed, Step.flowMove?, hm, hf]
      rfl
    · rw [Step.missed, Step.flowMove?, hm, Flow.missed_of_none rfl]
      rfl

/-- A step that is no move of the flow adds nothing to the histories. -/
theorem histories_of_other {t : Step} (stage : Stage) (h : t.flowMove? = none) (ts : List Step) :
    placed (ts ++ [t]) = placed ts ∧ begun stage (ts ++ [t]) = begun stage ts ∧
      handled stage (ts ++ [t]) = handled stage ts ∧
      missed stage (ts ++ [t]) = missed stage ts := by
  refine ⟨?_, ?_, ?_, ?_⟩
  · rw [placed, filterMap_snoc, Step.placed?, h]
    exact List.append_nil _
  · rw [begun, filterMap_snoc, Step.begun?, h]
    exact List.append_nil _
  · rw [handled, filterMap_snoc, Step.handled?, h]
    exact List.append_nil _
  · rw [missed_snoc, Step.missed, h]
    exact List.append_nil _

/-! ## 3. Steps -/

theorem follows_start (settings : Flow.Settings) (subscribers : Flow.Subscribers) (stage : Stage) :
    Follows stage [] (new settings subscribers) where
  unbound _ := rfl
  passes := .inl ⟨rfl, rfl, rfl, rfl, rfl⟩
  learnt := nofun
  reported _ _ h := absurd h List.not_mem_nil

/-- A step beside the flow, that leaves the way to the stage as it is. -/
theorem Follows.beside (hI : Follows stage ts x)
    (hm : Step.flowMove? ⟨now, x, move, y, out⟩ = none)
    (hu : y.progress.isBound = false → y.flow = none) (hn : x.flow = none → y.flow = none)
    (hw : y.way stage = x.way stage)
    (hl : ∀ call left report, y.progress = .awaiting call left report → stage ∉ left →
      stage ∉ report.abandoned → x.Drained stage)
    (hr : ∀ call report, .returned call (.ok report) ∈ out → stage ∉ report.abandoned →
      x.Drained stage) :
    Follows stage (ts ++ [⟨now, x, move, y, out⟩]) y := by
  have hdrained : y.Drained stage ↔ x.Drained stage := by rw [Drained, Drained, hw]
  refine ⟨hu, ?_, fun call left report e h₁ h₂ => hdrained.mpr (hl call left report e h₁ h₂),
    fun call report h h' => hdrained.mpr ?_⟩
  · obtain ⟨hp, hb, hd, hmis⟩ := histories_of_other stage hm ts
    rw [hp, hb, hd, hmis, hw]
    exact hI.passes.imp_left fun ⟨hf, h⟩ => ⟨hn hf, h⟩
  · rw [outcomes_snoc] at h
    rcases List.mem_append.mp h with h | h
    · exact hI.reported call report h h'
    · exact hr call report h h'

/-- The flow starts, with nothing on the way. -/
theorem Follows.bound {call : Nat} (hI : Follows stage ts x) (hp : x.progress = .binding call)
    (hy : y.flow = some (Flow.start x.settings now)) (hb : y.progress = .scraping call) :
    Follows stage (ts ++ [⟨now, x, .bind (.ok ()), y, []⟩]) y := by
  have hnone : x.flow = none := hI.unbound (by rw [hp]; rfl)
  obtain ⟨-, hplaced, hbegun, hhandled, hmissed⟩ : x.flow = none ∧ placed ts = [] ∧
      begun stage ts = [] ∧ handled stage ts = [] ∧ missed stage ts = [] := by
    rcases hI.passes with h | ⟨w, hw, -⟩
    · exact h
    · rw [way_of_none hnone] at hw
      cases hw
  refine ⟨fun h => ?_, .inr ?_, fun _ _ _ e => ?_, fun call report h h' => ?_⟩
  · rw [hb] at h
    cases h
  · obtain ⟨h₁, h₂, h₃, h₄⟩ := histories_of_other stage
      (rfl : Step.flowMove? ⟨now, x, .bind (.ok ()), y, []⟩ = none) ts
    rw [h₁, h₂, h₃, h₄, hplaced, hbegun, hhandled, hmissed, way_of_flow hy]
    cases stage with
    | storage =>
      refine ⟨_, rfl, FanOut.Lane.carries_fresh _ _ _, ⟨nofun, nofun⟩, ⟨fun _ => rfl, fun _ => rfl⟩,
        fun _ => rfl, List.prefix_refl _, fun _ => rfl, nofun⟩
    | streaming =>
      refine ⟨_, rfl, FanOut.Lane.carries_fresh _ _ _, ⟨nofun, nofun⟩, ⟨fun _ => rfl, fun _ => rfl⟩,
        fun _ => rfl, List.prefix_refl _, fun _ => rfl, nofun⟩
  · rw [hb] at e
    cases e
  · rw [outcomes_snoc, List.append_nil] at h
    exact absurd (hI.reported call report h h') (not_drained_of_none hnone)

/-- The run notices that serving has ended, and goes on. -/
theorem Follows.notices {call : Nat} {f : Flow} (hI : Follows stage ts x)
    (hp : x.progress = .scraping call) (hf : x.flow = some f)
    (hr : ∀ call report, .returned call (.ok report) ∈ out → stage ∉ report.abandoned →
      x.Drained stage) :
    Follows stage (ts ++ [⟨now, x, .seeServing, x.noticed f, out⟩]) (x.noticed f) := by
  refine hI.beside rfl (fun hb => ?_) (fun hn => ?_) ?_ hI.learnt hr
  · have hb : x.progress.isBound = false := hb
    rw [hp] at hb
    cases hb
  · rw [hf] at hn
    cases hn
  · rw [way_of_flow hf]
    rfl

/-- A move of the flow takes the way to the stage along. -/
theorem Follows.flow {m : Flow.Move} {f g : Flow} {r : Flow.Subscribers} {os : List Flow.Outcome}
    (hI : Follows stage ts x) (hm : move = .flow m ∨ ∃ m', move = .guest m' ∧ m = .subscribers m')
    (hf : x.flow = some f) (h : f.step now x.cancelled x.subscribers m = some (g, r, os))
    (hy : y.flow = some g) (hp : y.progress = x.progress) :
    Follows stage (ts ++ [⟨now, x, move, y, os.map Outcome.ofFlow⟩]) y := by
  obtain ⟨w, hw, hpasses⟩ : ∃ w, x.way stage = some w ∧
      w.Passes (placed ts) (begun stage ts) (handled stage ts) (missed stage ts) := by
    rcases hI.passes with ⟨hnone, -⟩ | h
    · rw [hf] at hnone
      cases hnone
    · exact h
  obtain ⟨w', hw', he⟩ := Flow.way_of_step h ((way_of_flow hf).symm.trans hw)
  have hdrained : x.Drained stage → y.Drained stage := by
    rintro ⟨v, hv, hend⟩
    rw [hw] at hv
    cases hv
    exact ⟨w', (way_of_flow hy).trans hw', he.ending?_of_ended hend⟩
  refine ⟨fun hb => ?_, .inr ⟨w', (way_of_flow hy).trans hw', ?_⟩,
    fun call left report e h₁ h₂ => ?_, fun call report h h' => hdrained ?_⟩
  · rw [hp] at hb
    rw [hI.unbound hb] at hf
    cases hf
  · obtain ⟨h₁, h₂, h₃, h₄⟩ := histories_of_flow (t := ⟨now, x, move, y, os.map Outcome.ofFlow⟩)
      stage hf hm
    rw [placed, begun, handled, filterMap_snoc, filterMap_snoc, filterMap_snoc, missed_snoc, h₁, h₂,
      h₃, h₄]
    exact Flow.Way.passes_of_effect hpasses he
  · rw [hp] at e
    exact hdrained (hI.learnt call left report e h₁ h₂)
  · rw [outcomes_snoc] at h
    rcases List.mem_append.mp h with h | h
    · exact hI.reported call report h h'
    · exact absurd h (returned_not_mem_ofFlow os call _)

/-- The run learns how a stage ended. -/
theorem Follows.learns {call : Nat} {left : List Stage} {report : Report} {other : Stage} {f : Flow}
    {how : Consumer.Ending} (hI : Follows stage ts x)
    (hp : x.progress = .awaiting call (other :: left) report) (hf : x.flow = some f)
    (he : f.endingOf other = some how) (h : stage ∉ left)
    (h' : stage ∉ (reportOn report other how).abandoned) : x.Drained stage := by
  by_cases hs : stage = other
  · subst hs
    have hhow : how = .drained := by
      cases how with
      | drained => rfl
      | abandoned => exact absurd (List.mem_append_right _ List.mem_cons_self) h'
      | crashed => exact absurd (List.mem_append_right _ List.mem_cons_self) h'
    rcases hI.passes with ⟨hnone, -⟩ | ⟨w, hw, -⟩
    · rw [hf] at hnone
      cases hnone
    · rw [drained_iff hf hw, he, hhow]
  · refine hI.learnt call _ report hp (fun hmem => ?_) fun hmem => h' ?_
    · rcases List.mem_cons.mp hmem with e | hmem
      · exact hs e
      · exact h hmem
    · cases how with
      | drained => exact hmem
      | abandoned => exact List.mem_append_left _ hmem
      | crashed => exact List.mem_append_left _ hmem

/-- **Every step keeps the invariant.** -/
theorem follows_step (hI : Follows stage ts x) (h : Effect now x move y out) :
    Follows stage (ts ++ [⟨now, x, move, y, out⟩]) y := by
  -- an exporter that waits for both stages holds nothing of either yet
  have hall : ∀ {call call' : Nat} {left : List Stage} {report report' : Report},
      Progress.awaiting call Stage.all report = .awaiting call' left report' → stage ∈ left := by
    intro call call' left report report' e
    cases e
    cases stage <;> decide
  -- a report is returned when the run has learnt of all stages
  have hr : ∀ call report, .returned call (.ok report) ∈ out → stage ∉ report.abandoned →
      x.Drained stage := by
    intro call report hret hstage
    cases returns_of_effect h hret with
    | concluded _ hm hp => exact hI.learnt call [] report hp List.not_mem_nil hstage
  cases h with
  | begin call hp =>
    have hnone : x.flow = none := hI.unbound (by rw [hp]; rfl)
    exact hI.beside rfl (fun _ => hnone) id rfl (fun _ _ _ e => by cases e) hr
  | turnAway call hp => exact hI.beside rfl hI.unbound id rfl hI.learnt hr
  | stop => exact hI.beside rfl hI.unbound id rfl hI.learnt hr
  | bound call hp => exact hI.bound hp rfl rfl
  | unbound | bindCrashed | conclude =>
    exact hI.beside rfl (fun hb => by cases hb) id rfl (fun _ _ _ e => by cases e) hr
  | seeShutdown call hp hc =>
    refine hI.beside rfl (fun hb => ?_) (fun hn => ?_) ?_ (fun _ _ _ e hl => absurd (hall e) hl) hr
    · cases hb
    · show x.flow.map Flow.endScraping = none
      rw [hn]
      rfl
    · show (x.flow.map Flow.endScraping).bind _ = x.flow.bind _
      cases x.flow <;> rfl
  | serveReturned call f hp hf hs hc =>
    refine hI.beside rfl (fun hb => ?_) (fun hn => ?_) ?_ (fun _ _ _ e hl => absurd (hall e) hl) hr
    · cases hb
    · rw [hf] at hn
      cases hn
    · rw [way_of_flow hf]
      rfl
  | serveStopped call f hp hf hs hc => exact hI.notices hp hf hr
  | serveCrashed call f crash hp hf hs => exact hI.notices hp hf hr
  | serveFailed call f fault hp hf hs =>
    refine hI.beside rfl (fun hb => ?_) (fun hn => ?_) ?_ (fun _ _ _ e => ?_) hr
    · cases hb
    · rw [hf] at hn
      cases hn
    · rw [way_of_flow hf]
      rfl
    · cases e
  | collect call other left report f how hp hf ho he =>
    refine hI.beside rfl (fun hb => ?_) id rfl (fun call' left' report' e hl hs => ?_) hr
    · cases hb
    · cases e
      exact hI.learns hp hf he hl hs
  | flow _ m f g r os hm hf h => exact hI.flow hm hf h rfl rfl
  | guest m r os _ hf => exact hI.beside rfl (fun _ => hf) id rfl hI.learnt hr

/-- **Every course keeps the invariant.** -/
theorem follows_of_course {start : Nat}
    (h : Course Exporter.step start (new settings subscribers) ts now x) : Follows stage ts x := by
  induction h with
  | start => exact follows_start settings subscribers stage
  | step _ hs ih => exact follows_step ih (effect_of_step hs)
  | wait _ _ ih => exact ih

end

/-! ## 4. Errands -/

/-- What is under way for a stage. -/
def errands (x : Exporter) (stage : Stage) : List Flow.Errand :=
  match x.flow with
  | some f => f.errands x.subscribers stage
  | none => []

/-- **The stages and what is under way for them agree.** -/
structure Tended (x : Exporter) : Prop where
  flow : ∀ f, x.flow = some f → f.Tended x.subscribers
  /-- Nothing is under way before there is a flow. -/
  noFlow : x.flow = none → x.subscribers.requestsOf .stage = []

section

variable {settings : Flow.Settings} {buffer : Nat} {policy : DeliveryPolicy} {now : Nat}
  {x y : Exporter} {move : Move} {out : List Outcome} {ts : List Step} {stage : Stage}

theorem tended_start (settings : Flow.Settings) (buffer : Nat) (policy : DeliveryPolicy) :
    (new settings (Registry.new buffer policy)).Tended where
  flow _ h := by cases h
  noFlow _ := rfl

theorem tended_step (hu : x.progress.isBound = false → x.flow = none) (hT : x.Tended)
    (h : Effect now x move y out) : y.Tended := by
  cases onFlow_of_effect h with
  | starts call hp hm hf hr ho =>
    have hnone := hT.noFlow (hu (by rw [hp]; rfl))
    refine ⟨fun f hf' => ?_, fun hn => ?_⟩
    · rw [hf] at hf'
      cases hf'
      rw [hr]
      refine ⟨.idle _, ?_⟩
      show Flow.Broadcasting _ _ (x.subscribers.requestsOf .stage)
      rw [hnone]
      exact .idle _
    · rw [hf] at hn
      cases hn
  | moves m f g os hm hf hg h ho =>
    refine ⟨fun f' hf' => ?_, fun hn => ?_⟩
    · rw [hg] at hf'
      cases hf'
      exact (Flow.tended_of_step (hT.flow f hf) h).1
    · rw [hg] at hn
      cases hn
  | guest m os hm hi hx hy h he =>
    have hnone : x.subscribers.requestsOf .stage = [] := hT.noFlow hx
    refine ⟨fun f hf => ?_, fun _ => ?_⟩
    · rw [hy] at hf
      cases hf
    · rcases Registry.requestsOf_of_effect (Registry.effect_of_step h)
        (Flow.ne_ask_of_isForeign hi) (Flow.ne_cancel_of_isForeign hi) with
        ⟨-, hr⟩ | ⟨request, answer, -, -, hr⟩
      · exact hr.trans hnone
      · rw [hnone] at hr
        cases hr
  | beside k hm hf hk hr he =>
    refine ⟨fun g hg => ?_, fun hn => ?_⟩
    · rw [hf, Option.map_eq_some_iff] at hg
      obtain ⟨f, hx, rfl⟩ := hg
      obtain ⟨serving, scraping, scrapes, hkf⟩ := hk f
      have hTf := hT.flow f hx
      rw [hkf, hr]
      exact ⟨hTf.storing, hTf.broadcasting⟩
    · rw [hf, Option.map_eq_none_iff] at hn
      rw [hr]
      exact hT.noFlow hn

/-- **On every course the stages and what is under way for them agree.** -/
theorem tended_of_course {start : Nat}
    (h : Course Exporter.step start (new settings (Registry.new buffer policy)) ts now x) :
    x.Tended := by
  induction h with
  | start => exact tended_start settings buffer policy
  | step h hs ih =>
    have hI : Follows .storage _ _ := follows_of_course h
    exact tended_step hI.unbound ih (effect_of_step hs)
  | wait _ _ ih => exact ih

end

/-! ## 5. Order -/

section

variable {ts : List Step} {x : Exporter} {t : Step} {stage : Stage}

/-- A stage that drained has handled everything that was placed, but for what it missed. -/
theorem Follows.placed_eq (hI : Follows stage ts x) (h : x.Drained stage) :
    placed ts = handled stage ts ++ missed stage ts := by
  obtain ⟨w, hw, he⟩ := h
  rcases hI.passes with ⟨hnone, -⟩ | ⟨w', hw', hp⟩
  · rw [way_of_none hnone] at hw
    cases hw
  · rw [hw] at hw'
    cases hw'
    exact (hp.drained he).1

theorem Follows.order (hI : Follows stage ts x) :
    handled stage ts <+: begun stage ts ∧ begun stage ts <+: placed ts := by
  rcases hI.passes with ⟨-, hp, hb, hd, -⟩ | ⟨w, hw, hp⟩
  · rw [hp, hb, hd]
    exact ⟨List.prefix_refl _, List.prefix_refl _⟩
  · exact ⟨hp.inOrder, hp.carries.inOrder⟩

/-- A move of the flow is a step of the flow. -/
theorem step_of_flowMove? {f : Flow} {m : Flow.Move} (hm : t.flowMove? = some (f, m))
    (hs : Exporter.step t.now t.before t.move = some (t.after, t.out)) :
    t.before.flow = some f ∧ ∃ g r os,
      f.step t.now t.before.cancelled t.before.subscribers m = some (g, r, os) ∧
        t.after.flow = some g ∧ t.after.subscribers = r := by
  obtain ⟨hmove, hf⟩ : t.move = .flow m ∧ t.before.flow = some f := by
    unfold Step.flowMove? at hm
    split at hm
    · rename_i e₁ e₂
      cases hm
      exact ⟨e₁, e₂⟩
    · cases hm
  rw [hmove] at hs
  simp only [step, stepFlow, hf, Option.bind_eq_bind, Option.bind_some, Option.bind_eq_some_iff,
    Option.pure_def] at hs
  obtain ⟨⟨g, r, os⟩, hstep, e⟩ := hs
  have hafter := (Prod.mk.inj (Option.some.inj e)).1
  exact ⟨hf, g, r, os, hstep, by rw [← hafter], by rw [← hafter]⟩

/-- When a stage begins with a snapshot, it has ended with all before it. -/
theorem Follows.handled_eq_begun {s : Snapshot Float} (hI : Follows stage ts t.before)
    (hs : Exporter.step t.now t.before t.move = some (t.after, t.out))
    (hb : t.begun? stage = some s) : handled stage ts = begun stage ts := by
  obtain ⟨⟨f, m⟩, hm, hbegun⟩ := Option.bind_eq_some_iff.mp hb
  obtain ⟨hf, g, r, os, hstep, -⟩ := step_of_flowMove? hm hs
  rcases hI.passes with ⟨hnone, -⟩ | ⟨w, hw, hp⟩
  · rw [hf] at hnone
    cases hnone
  · obtain ⟨w', -, he⟩ := Flow.way_of_step hstep ((way_of_flow hf).symm.trans hw)
    rw [show f.begun? stage m = some s from hbegun] at he
    obtain ⟨hend, hhand⟩ := he.held?_of_begun
    rw [hp.inHand hend, hhand]
    exact (List.append_nil _).symm

theorem errands_of_flow {f : Flow} (hf : x.flow = some f) :
    x.errands stage = f.errands x.subscribers stage := by
  rw [errands, hf]

/-- A stage begins and ends with its errands. -/
theorem Tended.attends (hT : t.before.Tended)
    (hs : Exporter.step t.now t.before t.move = some (t.after, t.out)) :
    Flow.Attends stage (t.before.errands stage) (t.after.errands stage) (t.begun? stage)
      (t.handled? stage) := by
  cases hm : t.flowMove? with
  | none =>
    rw [Step.begun?, Step.handled?, hm]
    exact Flow.attends_of_none
  | some fm =>
    obtain ⟨f, m⟩ := fm
    obtain ⟨hf, g, r, os, hstep, hg, hr⟩ := step_of_flowMove? hm hs
    rw [errands_of_flow hf, errands_of_flow hg, hr, Step.begun?, Step.handled?, hm]
    exact (Flow.tended_of_step (hT.flow f hf) hstep).2 stage

end

/-- **Snapshots reach a stage in order, one at a time, and what a report does not tell of is what the
stage missed.** On every course from a new exporter, whatever scrapes, saves, subscribers and the
transport do, in whatever order the parts make their moves, and whenever the shutdown comes:

* the snapshots that a stage began to handle are the first of those that the aggregator placed in
  its channel, in the same order;
* when it begins with one, it has handled all those that it began with before, nothing is under way
  for it, and then just the save or the broadcast of this snapshot is;
* when it has handled one, nothing is under way for it any more;
* once a run returned a report that does not name the stage, what was placed is what the stage
  handled and what it missed, so that it has handled every snapshot exactly if it missed none. -/
theorem stages_handle_in_order {settings : Flow.Settings} {buffer : Nat} {policy : DeliveryPolicy}
    {start now : Nat} {ts : List Step} {x : Exporter}
    (h : Course Exporter.step start (new settings (Registry.new buffer policy)) ts now x)
    (stage : Stage) :
    handled stage ts <+: begun stage ts ∧ begun stage ts <+: placed ts ∧
      (∀ front t back, ts = front ++ t :: back →
        (∀ s, t.begun? stage = some s → handled stage front = begun stage front ∧
          t.before.errands stage = [] ∧ t.after.errands stage = Flow.errandsFor s stage) ∧
        ∀ s, t.handled? stage = some s → t.before.errands stage = []) ∧
      ∀ call report, .returned call (.ok report) ∈ outcomes ts → stage ∉ report.abandoned →
        placed ts = handled stage ts ++ missed stage ts ∧
          (handled stage ts = placed ts ↔ missed stage ts = []) := by
  have hI : Follows stage ts x := follows_of_course h
  refine ⟨hI.order.1, hI.order.2, fun front t back e => ?_, fun call report hret hstage => ?_⟩
  · obtain ⟨hfront, hstep⟩ := h.split e
    have hattends : Flow.Attends stage _ _ _ _ := (tended_of_course hfront).attends hstep
    exact ⟨fun s hb => ⟨(follows_of_course hfront).handled_eq_begun hstep hb,
      hattends.begins s hb⟩, hattends.ends⟩
  · have hall := hI.placed_eq (hI.reported call report hret hstage)
    refine ⟨hall, ?_⟩
    rw [hall]
    exact List.self_eq_append_right

/-- Windows of a hundred nanoseconds and little room, for the course below. -/
def quickSettings : Flow.Settings where
  scrapeInterval := ⟨50, by decide⟩
  warmup := ⟨100, by decide⟩
  steady := ⟨100, by decide⟩
  grace := ⟨1000, by decide⟩
  branchBuffer := 1

/-- Two snapshots are saved, the second one after the shutdown; the streaming stage breaks off. -/
def quickRun : List (Nat × Move) :=
  [(0, .run 0), (0, .bind (.ok ())),
    (50, .flow .tick), (60, .flow (.scrapeEnds 0 (.brought ⟨⟨⟨0⟩, {}⟩, []⟩))),
    (60, .flow (.join 0)), (100, .flow .tick),
    (100, .flow (.aggregate (.fire ⟨100⟩))), (100, .flow (.aggregate .send)),
    (100, .flow (.relay .read)), (100, .flow (.relay (.offer 1))),
    (100, .flow (.relay (.offer 0))), (100, .flow (.relay .settle)),
    (101, .flow (.storage .receive)), (101, .flow (.streaming .receive)),
    (102, .flow (.streaming (.crash ⟨7, "no subscribers"⟩))),
    (160, .flow (.scrapeEnds 1 (.brought ⟨⟨⟨100⟩, {}⟩, []⟩))),
    (200, .flow (.aggregate (.fire ⟨200⟩))), (200, .flow (.aggregate .send)), (210, .stop),
    (210, .seeShutdown), (210, .flow (.aggregate .halt)), (210, .flow (.storage .observe)),
    (211, .flow (.relay .read)), (211, .flow (.relay (.offer 1))),
    (211, .flow (.relay (.offer 0))), (211, .flow (.relay .settle)),
    (211, .flow (.relay .read)),
    (300, .flow (.saveEnds 0 .saved)), (300, .flow (.storage .complete)),
    (301, .flow (.storage .receive)),
    (302, .flow (.saveEnds 1 (.failed (.storage "/data" "no space")))),
    (302, .flow (.storage .complete)), (302, .flow (.storage .finish)), (303, .collect),
    (303, .collect), (303, .conclude)]

/-- Whether a run returned a report that names just the given stages. -/
def Outcome.reports (stages : List Stage) : Outcome → Bool
  | .returned _ (.ok report) => report.abandoned == stages
  | _ => false

theorem exists_of_reports {stages : List Stage} {os : List Outcome}
    (h : os.any (Outcome.reports stages) = true) :
    ∃ call report, .returned call (.ok report) ∈ os ∧ report.abandoned = stages := by
  obtain ⟨o, hmem, ho⟩ := List.any_eq_true.mp h
  unfold Outcome.reports at ho
  split at ho
  · exact ⟨_, _, hmem, eq_of_beq ho⟩
  · cases ho

/-- On that course the storage stage, which is not named, has handled both snapshots. -/
theorem stages_handle_in_order_one_broken_off :
    ∃ (ts : List Step) (now : Nat) (x : Exporter),
      Course Exporter.step 0 (new quickSettings (Registry.new 1 .block)) ts now x ∧
      (∃ call report, .returned call (.ok report) ∈ outcomes ts ∧
        report.abandoned = [.streaming]) ∧
      (placed ts).length = 2 ∧ missed .storage ts = [] ∧ handled .storage ts = placed ts ∧
      begun .streaming ts <+: placed ts ∧ (begun .streaming ts).length = 1 := by
  have hrun : (drive Exporter.step 0 (new quickSettings (Registry.new 1 .block)) quickRun).any
      (fun (ts, _, _) => (outcomes ts).any (Outcome.reports [.streaming]) &&
        (placed ts).length == 2 && (missed .storage ts).isEmpty &&
        (begun .streaming ts).length == 1) = true := by
    decide +kernel
  obtain ⟨⟨ts, now, x⟩, hd, h⟩ := (Option.any_eq_true _ _).mp hrun
  simp only [Bool.and_eq_true, beq_iff_eq, List.isEmpty_iff] at h
  obtain ⟨⟨⟨hreports, hplaced⟩, hmissed⟩, hbegun⟩ := h
  have hcourse := course_of_drive quickRun hd
  obtain ⟨call, report, hret, hreport⟩ := exists_of_reports hreports
  refine ⟨ts, now, x, hcourse, ⟨call, report, hret, hreport⟩, hplaced, hmissed, ?_, ?_, hbegun⟩
  · refine ((stages_handle_in_order hcourse .storage).2.2.2 call report hret ?_).2.mpr hmissed
    rw [hreport]
    decide
  · exact (stages_handle_in_order hcourse .streaming).2.1

/-- The storage stage stands still with the first snapshot in its hand and the second one in its
channel, so that the fan-out stands still with the third one, and the fourth waits in front of it.
The streaming stage has handled three. The grace of both stages ends at the same instant. The
streaming stage finds its channel empty; the storage stage gives up, so that the fan-out goes on,
sends the fourth snapshot to the streaming stage and comes to its end; then the streaming stage
finds its channel closed. -/
def overtakenRun : List (Nat × Move) :=
  let placed (n : Nat) : List (Nat × Move) :=
    [(100 * n + 50, .flow .tick),
      (100 * n + 60, .flow (.scrapeEnds n (.brought ⟨⟨⟨0⟩, {}⟩, []⟩))),
      (100 * n + 100, .flow (.aggregate (.fire ⟨100⟩))), (100 * n + 100, .flow (.aggregate .send))]
  let streamed (n : Nat) : List (Nat × Move) :=
    [(100 * n + 101, .flow (.relay .read)), (100 * n + 101, .flow (.relay (.offer 1))),
      (100 * n + 101, .flow (.streaming .receive)), (100 * n + 101, .flow (.subscribers .grant)),
      (100 * n + 101, .flow (.subscribers .finish)),
      (100 * n + 101, .flow (.streaming .complete))]
  let stored (n : Nat) : List (Nat × Move) :=
    [(100 * n + 102, .flow (.relay (.offer 0))), (100 * n + 102, .flow (.relay .settle))]
  [(0, .run 0), (0, .bind (.ok ()))] ++ placed 0 ++ streamed 0 ++ stored 0 ++
    [(102, .flow (.storage .receive))] ++ placed 1 ++ streamed 1 ++ stored 1 ++
    placed 2 ++ streamed 2 ++ placed 3 ++
    [(410, .stop), (410, .seeShutdown), (410, .flow (.aggregate .halt)),
      (410, .flow (.storage .observe)), (410, .flow (.streaming .observe)),
      (1410, .flow (.storage .expire)), (1410, .flow (.streaming .expire)),
      (1410, .flow (.storage .look)), (1410, .flow (.storage .abandon)),
      (1410, .flow (.relay (.offer 0))), (1410, .flow (.relay .settle)),
      (1410, .flow (.relay .read)), (1410, .flow (.relay (.offer 1))),
      (1410, .flow (.relay .settle)), (1410, .flow (.relay .read)),
      (1410, .flow (.streaming .check)), (1410, .flow .close),
      (1410, .flow (.subscribers .grant)), (1411, .collect), (1411, .collect), (1411, .conclude)]

/-- **A stage that a report does not name has not handled every snapshot.** On that course the
report names the storage stage only, and the fourth snapshot is left in the channel of the streaming
stage. -/
theorem unnamed_although_one_left :
    ∃ (ts : List Step) (now : Nat) (x : Exporter),
      Course Exporter.step 0 (new quickSettings (Registry.new 1 .block)) ts now x ∧
      (∃ call report, .returned call (.ok report) ∈ outcomes ts ∧
        report.abandoned = [.storage]) ∧
      (placed ts).length = 4 ∧ (handled .streaming ts).length = 3 ∧
      (missed .streaming ts).length = 1 := by
  have hrun : (drive Exporter.step 0 (new quickSettings (Registry.new 1 .block)) overtakenRun).any
      (fun (ts, _, _) => (outcomes ts).any (Outcome.reports [.storage]) &&
        (placed ts).length == 4 && (handled .streaming ts).length == 3 &&
        (missed .streaming ts).length == 1) = true := by
    decide +kernel
  obtain ⟨⟨ts, now, x⟩, hd, h⟩ := (Option.any_eq_true _ _).mp hrun
  simp only [Bool.and_eq_true, beq_iff_eq] at h
  obtain ⟨⟨⟨hreports, hplaced⟩, hhandled⟩, hmissed⟩ := h
  obtain ⟨call, report, hret, hreport⟩ := exists_of_reports hreports
  exact ⟨ts, now, x, course_of_drive overtakenRun hd, ⟨call, report, hret, hreport⟩, hplaced,
    hhandled, hmissed⟩

end Vitals.Exporter
