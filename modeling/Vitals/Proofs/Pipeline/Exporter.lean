import Vitals.Pipeline.Exporter
import Vitals.Proofs.Course
import Vitals.Proofs.Pipeline.Flow

/-!
# What a step of the exporter can do

This file says once everything that a step of an exporter can do (`Exporter.Effect`,
`effect_of_step`): how a run begins, gets past binding, waits for the stages and returns, and what
goes on in the flow meanwhile. All that is proved about exporters goes through it. Two coarser views
of a step stand beside it: what it does to the flow and to the registry (`OnFlow`), and how a run
returns with it (`Returns`).
-/

namespace Vitals.Exporter

/-! ## 1. Steps -/

/-- The report after one more stage has ended. -/
def reportOn (report : Report) (stage : Stage) : Consumer.Ending → Report
  | .drained => report
  | _ => ⟨report.abandoned ++ [stage]⟩

/-- What is said of a stage when its end is learnt. -/
def eventsOn (stage : Stage) : Consumer.Ending → List Outcome
  | .crashed crash => [.event (.stageCrashed stage crash)]
  | _ => []

/-- The exporter after the end of serving was noticed. -/
def noticed (x : Exporter) (f : Flow) : Exporter :=
  { x with flow := some { f with serving := .noticed } }

/-- **Everything that a step can do.** -/
inductive Effect (now : Nat) (x : Exporter) : Move → Exporter → List Outcome → Prop where
  | begin (call : Nat) (hp : x.progress = .untouched) :
      Effect now x (.run call) { x with progress := .binding call } []
  | turnAway (call : Nat) (hp : x.progress ≠ .untouched) :
      Effect now x (.run call) x [.returned call (.error .alreadyStarted)]
  | stop : Effect now x .stop { x with cancelled := true } []
  | bound (call : Nat) (hp : x.progress = .binding call) :
      Effect now x (.bind (.ok ())) { x with
        progress := .scraping call
        lifecycle := .running
        flow := some (Flow.start x.settings now) } []
  | unbound (call : Nat) (fault : Fault) (hp : x.progress = .binding call) :
      Effect now x (.bind (.error fault)) (x.return_ call (.error fault)).1
        [.returned call (.error fault)]
  | bindCrashed (call : Nat) (hp : x.progress = .binding call) :
      Effect now x .bindCrash { x with progress := .returned, lifecycle := .stopped } []
  | seeShutdown (call : Nat) (hp : x.progress = .scraping call) (hc : x.cancelled = true) :
      Effect now x .seeShutdown (x.beginDraining call) []
  | serveReturned (call : Nat) (f : Flow) (hp : x.progress = .scraping call) (hf : x.flow = some f)
      (hs : f.serving = .ended .returned) (hc : x.cancelled = true) :
      Effect now x .seeServing ((x.noticed f).beginDraining call) []
  | serveStopped (call : Nat) (f : Flow) (hp : x.progress = .scraping call) (hf : x.flow = some f)
      (hs : f.serving = .ended .returned) (hc : x.cancelled = false) :
      Effect now x .seeServing (x.noticed f) [.event .transportEnded]
  | serveCrashed (call : Nat) (f : Flow) (crash : Crash) (hp : x.progress = .scraping call)
      (hf : x.flow = some f) (hs : f.serving = .ended (.crashed crash)) :
      Effect now x .seeServing (x.noticed f) [.event (.transportCrashed crash)]
  | serveFailed (call : Nat) (f : Flow) (fault : Fault) (hp : x.progress = .scraping call)
      (hf : x.flow = some f) (hs : f.serving = .ended (.failed fault)) :
      Effect now x .seeServing { x with
        cancelled := true
        progress := .returned
        lifecycle := .stopped
        flow := some ({ f with serving := .noticed }.endScraping) }
        [.event (.transportFailed fault), .returned call (.error fault)]
  | collect (call : Nat) (stage : Stage) (left : List Stage) (report : Report) (f : Flow)
      (how : Consumer.Ending) (hp : x.progress = .awaiting call (stage :: left) report)
      (hf : x.flow = some f) (ho : f.isOver stage = true) (he : f.endingOf stage = some how) :
      Effect now x .collect { x with progress := .awaiting call left (reportOn report stage how) }
        (eventsOn stage how)
  | conclude (call : Nat) (report : Report) (f : Flow)
      (hp : x.progress = .awaiting call [] report) (hf : x.flow = some f)
      (ha : f.aggregator.isStopped = true) (ho : f.fanOut.isFinished = true) :
      Effect now x .conclude (x.return_ call (.ok report)).1 [.returned call (.ok report)]
  | flow (move : Move) (m : Flow.Move) (f g : Flow) (r : Flow.Subscribers) (out : List Flow.Outcome)
      (hm : move = .flow m ∨ ∃ m', move = .guest m' ∧ m = .subscribers m')
      (hf : x.flow = some f) (h : f.step now x.cancelled x.subscribers m = some (g, r, out)) :
      Effect now x move { x with flow := some g, subscribers := r } (out.map Outcome.ofFlow)
  /-- Before there is a flow. -/
  | guest (m : Registry.Move Party (Snapshot Float)) (r : Flow.Subscribers)
      (os : List (Registry.Outcome Party)) (out : List Outcome) (hf : x.flow = none)
      (hm : Flow.isForeign m = true) (h : x.subscribers.step now m = some (r, os))
      (ho : ∀ o ∈ out, ∀ call result, o ≠ .returned call result)
      (he : ∀ e, .event e ∈ out → .event e ∈ os) :
      Effect now x (.guest m) { x with subscribers := r } out

section

variable {now : Nat} {x y : Exporter} {move : Move} {out : List Outcome}

theorem effect_of_stepFlow {m : Flow.Move}
    (hm : move = .flow m ∨ ∃ m', move = .guest m' ∧ m = .subscribers m')
    (h : x.stepFlow now m = some (y, out)) : Effect now x move y out := by
  simp only [stepFlow, Option.bind_eq_bind, Option.bind_eq_some_iff, Option.pure_def] at h
  obtain ⟨f, hf, ⟨g, r, out'⟩, hs, e⟩ := h
  cases e
  exact .flow move m f g r out' hm hf hs

theorem effect_of_seeServing (h : x.seeServing = some (y, out)) :
    Effect now x .seeServing y out := by
  unfold seeServing at h
  split at h
  · rename_i call f hp hf
    simp only at h
    split at h
    · rename_i hs
      split at h
      · rename_i hc
        cases h
        exact .serveReturned call f hp hf hs hc
      · rename_i hc
        cases h
        exact .serveStopped call f hp hf hs (Bool.eq_false_iff.mpr hc)
    · rename_i crash hs
      cases h
      exact .serveCrashed call f crash hp hf hs
    · rename_i fault hs
      cases h
      exact .serveFailed call f fault hp hf hs
    · cases h
  · cases h

theorem effect_of_collect (h : x.collect = some (y, out)) : Effect now x .collect y out := by
  unfold collect at h
  split at h
  · rename_i call stage left report f hp hf
    split at h
    · rename_i ho
      simp only at h
      split at h
      · rename_i he
        cases h
        exact .collect call stage left report f .drained hp hf ho he
      · rename_i he
        cases h
        exact .collect call stage left report f .abandoned hp hf ho he
      · rename_i crash he
        cases h
        exact .collect call stage left report f (.crashed crash) hp hf ho he
      · cases h
    · cases h
  · cases h

theorem effect_of_run {call : Nat} (h : x.run call = (y, out)) :
    Effect now x (.run call) y out := by
  unfold run at h
  split at h
  · rename_i hp
    cases h
    exact .begin call hp
  · rename_i hp
    cases h
    exact .turnAway call hp

theorem effect_of_bind {result : Except Fault Unit} (h : x.bind now result = some (y, out)) :
    Effect now x (.bind result) y out := by
  unfold bind at h
  split at h
  · rename_i call hp
    cases h
    exact .bound call hp
  · rename_i call fault hp
    cases h
    exact .unbound call fault hp
  · cases h

theorem effect_of_bindCrash (h : x.bindCrash = some y) : Effect now x .bindCrash y [] := by
  unfold bindCrash at h
  split at h
  · rename_i call hp
    cases h
    exact .bindCrashed call hp
  · cases h

theorem effect_of_seeShutdown (h : x.seeShutdown = some y) :
    Effect now x .seeShutdown y [] := by
  unfold seeShutdown at h
  split at h
  · rename_i call hp hc
    cases h
    exact .seeShutdown call hp hc
  · cases h

theorem effect_of_conclude (h : x.conclude = some (y, out)) : Effect now x .conclude y out := by
  unfold conclude at h
  split at h
  · rename_i call report f hp hf
    split at h
    · rename_i hc
      cases h
      rw [Bool.and_eq_true] at hc
      exact .conclude call report f hp hf hc.1 hc.2
    · cases h
  · cases h

theorem effect_of_stepGuest {m : Registry.Move Party (Snapshot Float)}
    (h : x.stepGuest now m = some (y, out)) : Effect now x (.guest m) y out := by
  unfold stepGuest at h
  split at h
  · exact effect_of_stepFlow (.inr ⟨m, rfl, rfl⟩) h
  · rename_i hf
    split at h
    · rename_i hm
      simp only [Option.bind_eq_bind, Option.bind_eq_some_iff, Option.pure_def] at h
      obtain ⟨⟨r, os⟩, hs, e⟩ := h
      cases e
      refine .guest m r os _ hf hm hs (fun o ho call result e => ?_) fun e he => ?_
      · obtain ⟨o', -, ho'⟩ := List.mem_filterMap.mp ho
        rw [e] at ho'
        split at ho' <;> cases ho'
      · obtain ⟨o', hmem, ho'⟩ := List.mem_filterMap.mp he
        split at ho' <;> cases ho'
        exact hmem
    · cases h

/-- **A step does nothing else.** -/
theorem effect_of_step (h : x.step now move = some (y, out)) : Effect now x move y out := by
  cases move with
  | run call => exact effect_of_run (Option.some.inj h)
  | stop =>
    cases h
    exact .stop
  | bind result => exact effect_of_bind h
  | bindCrash =>
    obtain ⟨x', hs, e⟩ := Option.map_eq_some_iff.mp h
    cases e
    exact effect_of_bindCrash hs
  | seeShutdown =>
    obtain ⟨x', hs, e⟩ := Option.map_eq_some_iff.mp h
    cases e
    exact effect_of_seeShutdown hs
  | seeServing => exact effect_of_seeServing h
  | collect => exact effect_of_collect h
  | conclude => exact effect_of_conclude h
  | flow m => exact effect_of_stepFlow (.inl rfl) h
  | guest m => exact effect_of_stepGuest h

/-- No step changes the settings. -/
theorem settings_of_effect (h : Effect now x move y out) : y.settings = x.settings := by
  cases h <;> rfl

end

/-! ## 2. The flow and the registry -/

/-- **What a step does to the flow and to the registry.** -/
inductive OnFlow (now : Nat) (x : Exporter) (move : Move) (y : Exporter) (out : List Outcome) :
    Prop where
  | starts (call : Nat) (hp : x.progress = .binding call) (hm : move = .bind (.ok ()))
      (hf : y.flow = some (Flow.start x.settings now)) (hr : y.subscribers = x.subscribers)
      (ho : out = [])
  | moves (m : Flow.Move) (f g : Flow) (os : List Flow.Outcome)
      (hm : move = .flow m ∨ ∃ m', move = .guest m' ∧ m = .subscribers m')
      (hf : x.flow = some f) (hg : y.flow = some g)
      (h : f.step now x.cancelled x.subscribers m = some (g, y.subscribers, os))
      (ho : out = os.map Outcome.ofFlow)
  /-- Before there is a flow. -/
  | guest (m : Registry.Move Party (Snapshot Float)) (os : List (Registry.Outcome Party))
      (hm : move = .guest m) (hi : Flow.isForeign m = true) (hx : x.flow = none)
      (hy : y.flow = none) (h : x.subscribers.step now m = some (y.subscribers, os))
      (he : ∀ e, .event e ∈ out → .event e ∈ os)
  /-- Neither the way of the snapshots nor the registry is touched. -/
  | beside (k : Flow → Flow) (hm : ∀ m, move ≠ .flow m) (hf : y.flow = x.flow.map k)
      (hk : ∀ f : Flow, f.Beside (k f)) (hr : y.subscribers = x.subscribers)
      (he : ∀ e, .event e ∈ out → ∀ stage grace dropped upstreamOpen,
        e ≠ .stageAbandoned stage grace dropped upstreamOpen)

section

variable {now : Nat} {x y : Exporter} {move : Move} {out : List Outcome}

theorem onFlow_of_effect (he : Effect now x move y out) : OnFlow now x move y out := by
  have hsame : x.flow = x.flow.map id := Option.map_id_apply.symm
  have hid : ∀ f : Flow, f.Beside (id f) := fun f => ⟨_, _, _, rfl⟩
  cases he with
  | begin | turnAway | stop | unbound | bindCrashed | conclude =>
    exact .beside id (by simp) hsame hid rfl (by simp)
  | bound call hp => exact .starts call hp rfl rfl rfl rfl
  | seeShutdown call hp hc =>
    exact .beside Flow.endScraping (by simp) rfl (fun f => ⟨_, _, _, rfl⟩) rfl (by simp)
  | serveReturned call f hp hf hs hc =>
    refine .beside (fun f => { f with serving := .noticed }.endScraping) (by simp) ?_
      (fun f => ⟨_, _, _, rfl⟩) rfl (by simp)
    rw [hf]
    rfl
  | serveStopped call f hp hf hs hc =>
    refine .beside (fun f => { f with serving := .noticed }) (by simp) ?_
      (fun f => ⟨_, _, _, rfl⟩) rfl (by simp)
    rw [hf]
    rfl
  | serveCrashed call f crash hp hf hs =>
    refine .beside (fun f => { f with serving := .noticed }) (by simp) ?_
      (fun f => ⟨_, _, _, rfl⟩) rfl (by simp)
    rw [hf]
    rfl
  | serveFailed call f fault hp hf hs =>
    refine .beside (fun f => { f with serving := .noticed }.endScraping) (by simp) ?_
      (fun f => ⟨_, _, _, rfl⟩) rfl (by simp)
    rw [hf]
    rfl
  | collect call stage left report f how hp hf ho hend =>
    exact .beside id (by simp) hsame hid rfl (by cases how <;> simp [eventsOn])
  | flow _ m f g r os hm hf h => exact .moves m f g os hm hf rfl h rfl
  | guest m r os _ hf hm h ho he => exact .guest m os rfl hm hf hf h he

end

/-! ## 3. Returns -/

/-- **How a run returns**: it comes too late, has learnt of a fault of the transport, or has seen all
stages end. -/
inductive Returns (x : Exporter) (move : Move) (y : Exporter) (call : Nat) :
    Except Fault Report → Prop where
  | late (hm : move = .run call) : Returns x move y call (.error .alreadyStarted)
  | unbound (fault : Fault) (hm : move = .bind (.error fault)) (hp : x.progress = .binding call)
      (hy : y.progress = .returned) : Returns x move y call (.error fault)
  | serveFailed (f : Flow) (fault : Fault) (hm : move = .seeServing)
      (hp : x.progress = .scraping call) (hf : x.flow = some f)
      (hs : f.serving = .ended (.failed fault)) (hy : y.progress = .returned) :
      Returns x move y call (.error fault)
  | concluded (report : Report) (hm : move = .conclude)
      (hp : x.progress = .awaiting call [] report) (hy : y.progress = .returned) :
      Returns x move y call (.ok report)

/-- Nothing that comes from the flow is the return of a run. -/
theorem returned_not_mem_ofFlow (os : List Flow.Outcome) (call : Nat)
    (result : Except Fault Report) : .returned call result ∉ os.map Outcome.ofFlow := by
  intro h
  obtain ⟨o, -, e⟩ := List.mem_map.mp h
  cases o <;> cases e

theorem returns_of_effect {now : Nat} {x y : Exporter} {move : Move} {out : List Outcome}
    {call : Nat} {result : Except Fault Report} (he : Effect now x move y out)
    (h : .returned call result ∈ out) : Returns x move y call result := by
  cases he with
  | begin | stop | bound | bindCrashed | seeShutdown | serveReturned => cases h
  | serveStopped | serveCrashed => simp at h
  | collect _ stage _ _ _ how => cases how <;> simp [eventsOn] at h
  | turnAway call' hp =>
    cases List.mem_singleton.mp h
    exact .late rfl
  | unbound call' fault hp =>
    cases List.mem_singleton.mp h
    exact .unbound _ rfl hp rfl
  | serveFailed call' f fault hp hf hs =>
    have h : Outcome.returned call result = .returned call' (.error fault) := by simpa using h
    cases h
    exact .serveFailed f _ rfl hp hf hs rfl
  | conclude call' report f hp hf ha ho =>
    cases List.mem_singleton.mp h
    exact .concluded _ rfl hp rfl
  | flow _ m f g r os => exact absurd h (returned_not_mem_ofFlow os call result)
  | guest m r os _ hf hm hs ho => exact absurd rfl (ho _ h call result)

end Vitals.Exporter
