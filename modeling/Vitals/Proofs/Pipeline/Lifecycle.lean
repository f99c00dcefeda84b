import Vitals.Proofs.Pipeline.Warnings

/-!
# The life of an exporter

Anyone may run an exporter and signal its shutdown, at any time and as often as they like. The run
that comes first gets the transport and takes the exporter through its states; all others are
turned away. This file fixes

* the histories of a course: the states that the exporter was in (`lifecycles`), and the run that
  came first (`winner?`);
* `Leading`, the invariant of a course that compares them with how far that run has come;
* `Step.Orderly` and `Orderly`, what a step and a course may look like.

Main statement: every course from a new exporter is orderly (`life_is_orderly`).
-/

namespace Vitals

/-- The place of a state in the order of a life. -/
def Lifecycle.rank : Lifecycle → Nat
  | .idle => 0
  | .running => 1
  | .draining => 2
  | .stopped => 3

namespace Exporter

/-! ## 1. Histories -/

/-- The state of an exporter whose run has come this far. -/
def Progress.lifecycle : Progress → Lifecycle
  | .untouched | .binding _ => .idle
  | .scraping _ => .running
  | .awaiting _ _ _ => .draining
  | .returned => .stopped

namespace Step

/-- The run that is called with a step. -/
def ran? (t : Step) : Option Nat :=
  match t.move with
  | .run call => some call
  | _ => none

/-- Whether a run gets the transport. -/
def takesTransport (t : Step) : Bool :=
  decide (t.before.progress = .untouched) && decide (t.after.progress ≠ .untouched)

/-- The fault of the transport that the run learns of. -/
def fault? (t : Step) : Option Fault :=
  match t.move, t.before.flow with
  | .bind (.error fault), _ => some fault
  | .seeServing, some f =>
    match f.serving with
    | .ended (.failed fault) => some fault
    | _ => none
  | _, _ => none

/-- The run that has the transport returns, or breaks off. -/
def Ends (t : Step) : Prop :=
  (t.ran? = none ∧ ∃ call result, .returned call result ∈ t.out) ∨ t.move = .bindCrash

end Step

/-- The states that the exporter was in, the first one first. -/
def lifecycles (ts : List Step) : List Lifecycle :=
  .idle :: ts.map fun t => t.after.lifecycle

/-- The run that came first. -/
def winner? (ts : List Step) : Option Nat :=
  ts.findSome? Step.ran?

/-- The shutdown was signalled. -/
def Signalled (ts : List Step) : Prop :=
  ∃ t ∈ ts, t.move = .stop

/-- **What a step may look like after those of `front`.** -/
structure Step.Orderly (front : List Step) (t : Step) : Prop where
  /-- The run that came first returns a report after the shutdown was signalled, or the fault of
  the transport that it learns of; any other run returns at once. -/
  returns : ∀ call result, t.ran? = none → .returned call result ∈ t.out →
    winner? front = some call ∧ match result with
      | .ok _ => Signalled front
      | .error fault => t.fault? = some fault
  /-- It returns the fault as soon as it learns of it. -/
  faults : ∀ fault, t.fault? = some fault →
    ∃ call, winner? front = some call ∧ .returned call (.error fault) ∈ t.out
  /-- It goes on with its scrapes until then, however else serving ends. -/
  goesOn : ∀ call, t.before.progress = .scraping call → ¬Signalled front → t.fault? = none →
    t.after.progress = .scraping call

/-- **What a course may look like**, up to the exporter that it leads to. -/
structure Orderly (ts : List Step) (now : Nat) (x : Exporter) : Prop where
  /-- The states come in their order. -/
  forward : (lifecycles ts).Pairwise fun s s' => s.rank ≤ s'.rank
  /-- One run gets the transport, at most. -/
  once : ts.countP Step.takesTransport ≤ 1
  /-- The run that comes first gets it. -/
  first : winner? ts = none → ∀ call,
    x.step now (.run call) = some ({ x with progress := .binding call }, [])
  /-- Every other run is turned away and changes nothing. -/
  others : winner? ts ≠ none → ∀ call,
    x.step now (.run call) = some (x, [.returned call (.error .alreadyStarted)])
  steps : ∀ front t back, ts = front ++ t :: back → t.Orderly front
  /-- A run can learn of a fault for as long as it binds, and of one in serving for as long as it
  scrapes. -/
  learns : (∀ call fault, x.progress = .binding call → (x.step now (.bind (.error fault))).isSome) ∧
    ∀ call f fault, x.progress = .scraping call → x.flow = some f →
      f.serving = .ended (.failed fault) → (x.step now .seeServing).isSome
  /-- The exporter has stopped when its run is over. -/
  stopped : (∃ t ∈ ts, t.Ends) → x.lifecycle = .stopped
  /-- A stage warns once, at most. -/
  warned : ∀ stage, (warnings stage ts).length ≤ 1
  /-- The report names the stages that have warned or broken off. -/
  named : ∀ call report, .returned call (.ok report) ∈ outcomes ts → report.abandoned =
    Stage.all.filter fun stage => decide (warnings stage ts ≠ [] ∨ crashes stage ts ≠ [])

section

variable {settings : Flow.Settings} {subscribers : Flow.Subscribers} {now start : Nat}
  {x y : Exporter} {move : Move} {out : List Outcome} {ts : List Step}

theorem winner?_snoc (ts : List Step) (t : Step) :
    winner? (ts ++ [t]) = (winner? ts).or t.ran? := by
  rw [winner?, List.findSome?_append]
  cases h : t.ran? <;> simp [winner?, h]

theorem Signalled.snoc {t : Step} (h : Signalled ts) : Signalled (ts ++ [t]) := by
  obtain ⟨u, hu, hm⟩ := h
  exact ⟨u, List.mem_append_left _ hu, hm⟩

/-! ## 2. The run that has the transport -/

/-- **Which run came first, and how far it has come.** -/
inductive Led : Option Nat → Progress → Prop where
  | untouched : Led none .untouched
  | binding (call : Nat) : Led (some call) (.binding call)
  | scraping (call : Nat) : Led (some call) (.scraping call)
  | awaiting (call : Nat) (left : List Stage) (report : Report) :
      Led (some call) (.awaiting call left report)
  | returned (call : Nat) : Led (some call) .returned

/-- The run is to see the shutdown, or has seen it. -/
def Called (x : Exporter) : Prop :=
  x.progress.lifecycle = .draining ∨ (x.cancelled = true ∧ x.progress ≠ .returned)

/-- **What a course says of the run that has the transport.** -/
structure Leading (ts : List Step) (x : Exporter) : Prop where
  lifecycle : x.lifecycle = x.progress.lifecycle
  led : Led (winner? ts) x.progress
  called : x.Called → Signalled ts
  ended : (∃ t ∈ ts, t.Ends) → x.progress = .returned
  once : ts.countP Step.takesTransport = if x.progress = .untouched then 0 else 1

theorem lifecycle_of_effect (h : x.lifecycle = x.progress.lifecycle) (he : Effect now x move y out) :
    y.lifecycle = y.progress.lifecycle := by
  cases he with
  | turnAway | stop | serveStopped | serveCrashed | flow | guest => exact h
  | begin call hp => rw [h, hp]; rfl
  | collect call stage left report f how hp =>
    show x.lifecycle = _
    rw [h, hp]
    rfl
  | bound | unbound | bindCrashed | seeShutdown | serveReturned | serveFailed | conclude => rfl

/-- **No step goes back.** -/
theorem rank_le_of_effect (he : Effect now x move y out) :
    x.progress.lifecycle.rank ≤ y.progress.lifecycle.rank := by
  cases he with
  | turnAway | stop | serveStopped | serveCrashed | flow | guest => exact Nat.le_refl _
  | begin call hp | bound call hp | unbound call _ hp | bindCrashed call hp
  | seeShutdown call hp | serveReturned call _ hp | serveFailed call _ _ hp
  | collect call _ _ _ _ _ hp | conclude call _ _ hp =>
    rw [hp]
    exact Nat.le_of_ble_eq_true rfl

/-- The run that comes first stays the first, and goes on. -/
theorem led_step (h : Led (winner? ts) x.progress) (he : Effect now x move y out) :
    Led (winner? (ts ++ [⟨now, x, move, y, out⟩])) y.progress := by
  rw [winner?_snoc]
  generalize winner? ts = w at h
  cases he with
  | begin call hp =>
    rw [hp] at h
    cases h
    exact .binding call
  | turnAway call hp =>
    generalize x.progress = p at h hp
    cases h with
    | untouched => exact absurd rfl hp
    | binding | scraping | awaiting | returned => constructor
  | stop | serveStopped | serveCrashed | guest =>
    show Led (w.or none) x.progress
    rw [Option.or_none]
    exact h
  | flow _ m f g r os hm =>
    have hran : Step.ran? ⟨now, x, move, { x with flow := some g, subscribers := r },
        os.map Outcome.ofFlow⟩ = none := by
      rcases hm with rfl | ⟨m', rfl, -⟩ <;> rfl
    rw [hran, Option.or_none]
    exact h
  | bound call hp | unbound call _ hp | bindCrashed call hp | seeShutdown call hp
  | serveReturned call _ hp | serveFailed call _ _ hp | collect call _ _ _ _ _ hp
  | conclude call _ _ hp =>
    rw [hp] at h
    cases h
    constructor

/-- Only a signal calls for the shutdown. -/
theorem called_of_effect (he : Effect now x move y out) (hy : y.Called) :
    x.Called ∨ move = .stop := by
  cases he with
  | stop => exact .inr rfl
  | turnAway | serveStopped | serveCrashed | flow | guest => exact .inl hy
  | begin call hp =>
    rcases hy with hd | ⟨hc, -⟩
    · cases hd
    · exact .inl (.inr ⟨hc, by simp [hp]⟩)
  | bound call hp =>
    rcases hy with hd | ⟨hc, -⟩
    · cases hd
    · exact .inl (.inr ⟨hc, by simp [hp]⟩)
  | seeShutdown call hp hc => exact .inl (.inr ⟨hc, by simp [hp]⟩)
  | serveReturned call f hp hf hs hc => exact .inl (.inr ⟨hc, by simp [hp]⟩)
  | collect call stage left report f how hp => exact .inl (.inl (by rw [hp]; rfl))
  | unbound | bindCrashed | serveFailed | conclude =>
    rcases hy with hd | ⟨-, hr⟩
    · cases hd
    · exact absurd rfl hr

/-- A run that is over stays so. -/
theorem returned_of_effect (he : Effect now x move y out) (h : x.progress = .returned) :
    y.progress = .returned := by
  cases he with
  | turnAway | stop | serveStopped | serveCrashed | flow | guest => exact h
  | unbound | bindCrashed | serveFailed | conclude => rfl
  | begin call hp | bound call hp | seeShutdown call hp | serveReturned call _ hp
  | collect call _ _ _ _ _ hp =>
    rw [hp] at h
    cases h

/-- A step that the run with the transport ends with. -/
theorem returned_of_ends (he : Effect now x move y out)
    (h : Step.Ends ⟨now, x, move, y, out⟩) : y.progress = .returned := by
  rcases h with ⟨hran, call, result, hret⟩ | hm
  · cases returns_of_effect he hret with
    | late hm =>
      subst hm
      cases hran
    | unbound _ _ _ hy | serveFailed _ _ _ _ _ _ hy | concluded _ _ _ hy => exact hy
  · have hm : move = .bindCrash := hm
    subst hm
    cases he with
    | bindCrashed => rfl
    | flow _ m f g r os hmove => rcases hmove with e | ⟨m', e, -⟩ <;> cases e

theorem untouched_of_effect (he : Effect now x move y out) (h : y.progress = .untouched) :
    x.progress = .untouched := by
  cases he with
  | turnAway | stop | serveStopped | serveCrashed | flow | guest => exact h
  | begin | bound | unbound | bindCrashed | seeShutdown | serveReturned | serveFailed | collect
  | conclude => cases h

theorem leading_start (settings : Flow.Settings) (subscribers : Flow.Subscribers) :
    Leading [] (new settings subscribers) where
  lifecycle := rfl
  led := .untouched
  called h := by
    rcases h with h | ⟨h, -⟩ <;> cases h
  ended h := by
    obtain ⟨t, ht, -⟩ := h
    cases ht
  once := rfl

/-- **Every step keeps the invariant.** -/
theorem leading_step (h : Leading ts x) (he : Effect now x move y out) :
    Leading (ts ++ [⟨now, x, move, y, out⟩]) y := by
  refine ⟨lifecycle_of_effect h.lifecycle he, led_step h.led he, fun hy => ?_, fun hend => ?_, ?_⟩
  · rcases called_of_effect he hy with hx | hm
    · exact (h.called hx).snoc
    · exact ⟨_, List.mem_concat_self .., hm⟩
  · obtain ⟨t, ht, hends⟩ := hend
    rcases List.mem_append.mp ht with ht | ht
    · exact returned_of_effect he (h.ended ⟨t, ht, hends⟩)
    · cases List.mem_singleton.mp ht
      exact returned_of_ends he hends
  · rw [List.countP_append, List.countP_singleton, h.once]
    by_cases hx : x.progress = .untouched <;> by_cases hy : y.progress = .untouched
    · simp [Step.takesTransport, hx, hy]
    · simp [Step.takesTransport, hx, hy]
    · exact absurd (untouched_of_effect he hy) hx
    · simp [Step.takesTransport, hx, hy]

theorem leading_of_course (h : Course Exporter.step start (new settings subscribers) ts now x) :
    Leading ts x := by
  induction h with
  | start => exact leading_start settings subscribers
  | wait _ _ ih => exact ih
  | step _ hs ih => exact leading_step ih (effect_of_step hs)

theorem Led.winner {w : Option Nat} {p : Progress} {call : Nat} (h : Led w p)
    (hp : p = .binding call ∨ p = .scraping call ∨
      ∃ left report, p = .awaiting call left report) : w = some call := by
  rcases hp with rfl | rfl | ⟨left, report, rfl⟩ <;> cases h <;> rfl

theorem Led.untouched_iff {w : Option Nat} {p : Progress} (h : Led w p) :
    p = .untouched ↔ w = none := by
  cases h <;> simp

/-! ## 3. Steps and courses -/

/-- The states of a course come in their order. -/
theorem forward_of_course (h : Course Exporter.step start (new settings subscribers) ts now x) :
    (lifecycles ts).Pairwise (fun s s' => s.rank ≤ s'.rank) ∧
      ∀ s ∈ lifecycles ts, s.rank ≤ x.lifecycle.rank := by
  induction h with
  | start =>
    refine ⟨List.pairwise_singleton .., fun s hs => ?_⟩
    cases List.mem_singleton.mp hs
    exact Nat.le_refl _
  | wait _ _ ih => exact ih
  | step h hs ih =>
    rename_i ts now x y move out
    have hsnoc : lifecycles (ts ++ [⟨now, x, move, y, out⟩]) = lifecycles ts ++ [y.lifecycle] := by
      rw [lifecycles, List.map_append]
      rfl
    have hrank : x.lifecycle.rank ≤ y.lifecycle.rank := by
      have hL := leading_of_course h
      rw [hL.lifecycle, lifecycle_of_effect hL.lifecycle (effect_of_step hs)]
      exact rank_le_of_effect (effect_of_step hs)
    have hle : ∀ s ∈ lifecycles ts, s.rank ≤ y.lifecycle.rank :=
      fun s hs => Nat.le_trans (ih.2 s hs) hrank
    rw [hsnoc]
    refine ⟨List.pairwise_append.mpr ⟨ih.1, List.pairwise_singleton .., fun s hs s' hs' => ?_⟩,
      fun s hs => ?_⟩
    · rw [List.mem_singleton.mp hs']
      exact hle s hs
    · rcases List.mem_append.mp hs with hs | hs
      · exact hle s hs
      · exact Nat.le_of_eq (congrArg _ (List.mem_singleton.mp hs))

/-- The fault that the run learns of when it sees that serving has ended. -/
theorem fault?_of_serving {t : Step} {f : Flow} {how : Flow.ServeEnding} (hm : t.move = .seeServing)
    (hf : t.before.flow = some f) (hs : f.serving = .ended how) :
    t.fault? = match how with | .failed fault => some fault | _ => none := by
  rw [Step.fault?, hm, hf]
  cases how <;> simp [hs]

theorem fault?_of_flow {t : Step} {m : Flow.Move}
    (hm : t.move = .flow m ∨ ∃ m', t.move = .guest m' ∧ m = .subscribers m') : t.fault? = none := by
  rcases hm with hm | ⟨m', hm, -⟩ <;>
  · rw [Step.fault?, hm]

/-- **Every step is orderly.** -/
theorem orderly_of_effect (hL : Leading ts x) (he : Effect now x move y out) :
    Step.Orderly ts ⟨now, x, move, y, out⟩ := by
  refine ⟨fun call result hran hret => ?_, fun fault hfault => ?_, fun call hp hsig hfault => ?_⟩
  · cases returns_of_effect he hret with
    | late hm =>
      subst hm
      cases hran
    | unbound fault hm hp =>
      subst hm
      exact ⟨hL.led.winner (.inl hp), rfl⟩
    | serveFailed f fault hm hp hf hs =>
      exact ⟨hL.led.winner (.inr (.inl hp)), fault?_of_serving hm hf hs⟩
    | concluded report hm hp =>
      exact ⟨hL.led.winner (.inr (.inr ⟨_, _, hp⟩)), hL.called (.inl (by rw [hp]; rfl))⟩
  · cases he with
    | begin | turnAway | stop | bound | bindCrashed | seeShutdown | collect | conclude
    | guest => cases hfault
    | unbound call fault' hp =>
      cases hfault
      exact ⟨call, hL.led.winner (.inl hp), List.mem_cons_self⟩
    | serveReturned call f hp hf hs =>
      rw [fault?_of_serving rfl hf hs] at hfault
      cases hfault
    | serveStopped call f hp hf hs =>
      rw [fault?_of_serving rfl hf hs] at hfault
      cases hfault
    | serveCrashed call f crash hp hf hs =>
      rw [fault?_of_serving rfl hf hs] at hfault
      cases hfault
    | serveFailed call f fault' hp hf hs =>
      rw [fault?_of_serving rfl hf hs] at hfault
      cases hfault
      exact ⟨call, hL.led.winner (.inr (.inl hp)), by simp⟩
    | flow _ m f g r os hm =>
      rw [fault?_of_flow hm] at hfault
      cases hfault
  · have hp : x.progress = .scraping call := hp
    -- the shutdown is not seen before it was signalled
    have hgoing : x.cancelled ≠ true := fun hc =>
      hsig (hL.called (.inr ⟨hc, by simp [hp]⟩))
    cases he with
    | turnAway | stop | serveStopped | serveCrashed | flow | guest => exact hp
    | seeShutdown _ _ hc => exact absurd hc hgoing
    | serveReturned _ _ _ _ _ hc => exact absurd hc hgoing
    | serveFailed call' f fault hp' hf hs =>
      rw [fault?_of_serving rfl hf hs] at hfault
      cases hfault
    | begin _ hp' | bound _ hp' | unbound _ _ hp' | bindCrashed _ hp'
    | collect _ _ _ _ _ _ hp' | conclude _ _ _ hp' =>
      rw [hp] at hp'
      cases hp'

/-- **A report names the stages that have warned or broken off.** -/
theorem named_of_course (h : Course Exporter.step start (new settings subscribers) ts now x)
    {call : Nat} {report : Report} (hret : .returned call (.ok report) ∈ outcomes ts) :
    report.abandoned = Stage.all.filter fun stage =>
      decide (warnings stage ts ≠ [] ∨ crashes stage ts ≠ []) := by
  obtain ⟨f, done, hf, hall, hover, hreport⟩ := (learning_of_course h).reported call report hret
  rw [List.append_nil] at hall
  rw [hreport, hall]
  refine List.filter_congr fun stage hs => decide_eq_decide.mpr ?_
  obtain ⟨how, he⟩ := Flow.exists_of_isOver (hover stage hs)
  have hend : x.endingOf stage = some how := by rw [endingOf, hf, Option.bind_some, he]
  rw [(heard_of_course h stage).iff_ne_drained hend, he, ne_eq, Option.some_inj]

/-- **The life of an exporter is orderly.** On every course from a new exporter, however many runs
are called and however often and whenever the shutdown is signalled, however binding and serving
end, and whatever the stages, scrapes and subscribers do. -/
theorem life_is_orderly (h : Course Exporter.step start (new settings subscribers) ts now x) :
    Orderly ts now x where
  forward := (forward_of_course h).1
  once := by
    rw [(leading_of_course h).once]
    split <;> decide
  first hw call := by
    have hp := (leading_of_course h).led.untouched_iff.mpr hw
    simp only [step, run, hp]
  others hw call := by
    have hp : x.progress ≠ .untouched := fun e => hw ((leading_of_course h).led.untouched_iff.mp e)
    show some (x.run call) = _
    unfold run
    split
    · rename_i e
      exact absurd e hp
    · rfl
  steps front t back e := by
    obtain ⟨hfront, hs⟩ := h.split e
    exact orderly_of_effect (leading_of_course hfront) (effect_of_step hs)
  learns := by
    refine ⟨fun call fault hp => ?_, fun call f fault hp hf hs => ?_⟩
    · simp [step, bind, hp]
    · simp [step, seeServing, hp, hf, hs]
  stopped hend := by
    have hL := leading_of_course h
    rw [hL.lifecycle, hL.ended hend]
    rfl
  warned stage := by
    rw [(heard_of_course h stage).warned]
    split <;> decide
  named call report hret := named_of_course h hret

end

/-- The streaming stage breaks off, serving ends before the shutdown, and the storage stage is
abandoned; a second run comes while the first one binds, and a third one after it. -/
def crowdedRun : List (Nat × Move) :=
  [(0, .run 0), (0, .run 1), (0, .bind (.ok ())),
    (10, .flow (.streaming (.crash ⟨7, "no subscribers"⟩))), (20, .flow (.serveEnds .returned)),
    (20, .seeServing), (30, .stop), (30, .seeShutdown), (30, .flow (.aggregate .halt)),
    (30, .flow (.storage .observe)), (1030, .flow (.storage .expire)),
    (1030, .flow (.storage .check)), (1030, .flow (.storage .look)),
    (1030, .flow (.storage .abandon)), (1030, .flow (.relay .read)), (1031, .collect),
    (1031, .collect), (1032, .conclude), (1033, .run 2)]

/-- On that course the exporter goes through all states, and the report names both stages. -/
theorem life_is_orderly_crowded :
    ∃ (ts : List Step) (now : Nat) (x : Exporter),
      Course Exporter.step 0 (new quickSettings (Registry.new 1 .block)) ts now x ∧
      winner? ts = some 0 ∧
      (lifecycles ts).eraseDups = [.idle, .running, .draining, .stopped] ∧
      (warnings .storage ts).length = 1 ∧ (crashes .streaming ts).length = 1 ∧
      (∃ call report, .returned call (.ok report) ∈ outcomes ts ∧
        report.abandoned = [.storage, .streaming]) ∧ Orderly ts now x := by
  have hrun : (drive Exporter.step 0 (new quickSettings (Registry.new 1 .block)) crowdedRun).any
      (fun (ts, _, _) => (outcomes ts).any (Outcome.reports [.storage, .streaming]) &&
        winner? ts == some 0 &&
        (lifecycles ts).eraseDups == [.idle, .running, .draining, .stopped] &&
        (warnings .storage ts).length == 1 && (crashes .streaming ts).length == 1) = true := by
    decide +kernel
  obtain ⟨⟨ts, now, x⟩, hd, h⟩ := (Option.any_eq_true _ _).mp hrun
  simp only [Bool.and_eq_true, beq_iff_eq] at h
  obtain ⟨⟨⟨⟨hreports, hwinner⟩, hstates⟩, hwarned⟩, hcrashed⟩ := h
  have hcourse := course_of_drive crowdedRun hd
  exact ⟨ts, now, x, hcourse, hwinner, hstates, hwarned, hcrashed, exists_of_reports hreports,
    life_is_orderly hcourse⟩

end Exporter

end Vitals
