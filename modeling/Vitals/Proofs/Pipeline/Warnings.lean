import Vitals.Proofs.Pipeline.Draining
import Vitals.Proofs.Pipeline.Ends

/-!
# What is heard of a stage

A stage that is abandoned says so in one warning, and a stage that breaks off shows in the move
that it breaks off with. Nothing else gives that warning, so that the warnings and the crashes of a
course tell how each stage has ended. This file fixes

* `Event.abandons`, the warning of a stage, and `warnings` and `crashes`, the histories of a course
  that tell of its end;
* `Tells`, how a step shows in the end of a stage;
* `Heard`, the invariant of a course that compares the histories with the end of a stage.

Main statements: every step of the flow `Tells` (`Flow.tells_of_step`), and what is heard of a
stage agrees with how it has ended (`heard_of_course`).
-/

namespace Vitals

/-! ## 1. The warning of a stage -/

/-- Whether it is the warning that a stage gives up what it has left. -/
def Event.abandons (stage : Stage) : Event → Bool
  | .stageAbandoned s _ _ _ => decide (s = stage)
  | _ => false

theorem abandons_stageAbandoned (stage s : Stage) (grace : Duration) (dropped : Nat)
    (upstreamOpen : Bool) :
    (Event.stageAbandoned s grace dropped upstreamOpen).abandons stage = decide (s = stage) :=
  rfl

/-- Other events are no warning of a stage. -/
theorem filter_abandons_eq_nil {es : List Event}
    (h : ∀ e ∈ es, ∀ s grace dropped upstreamOpen,
      e ≠ .stageAbandoned s grace dropped upstreamOpen) (stage : Stage) :
    es.filter (Event.abandons stage) = [] := by
  refine List.filter_eq_nil_iff.mpr fun e he ha => ?_
  unfold Event.abandons at ha
  split at ha
  · exact h _ he _ _ _ _ rfl
  · cases ha

namespace Consumer

/-- The crash that a consumer has ended with. -/
def Ending.crash? : Ending → Option Crash
  | .crashed crash => some crash
  | _ => none

/-- The crash that a move is. -/
def Move.crash? : Move → Option Crash
  | .crash c => some c
  | _ => none

/-- **How a step shows in the end of a stage**, with the number of its warnings and the crash that
it breaks off with: one that goes on, or has ended before, is not heard of. -/
inductive Tells (before after : Option Ending) (warned : Nat) (crash? : Option Crash) : Prop where
  | nothing (h : after = before) (hw : warned = 0) (hc : crash? = none)
  | ends (how : Ending) (hb : before = none) (ha : after = some how)
      (hw : warned = if how = .abandoned then 1 else 0) (hc : crash? = how.crash?)

section

variable {α : Type} {now : Nat} {cancelled : Bool} {c c' : Consumer α} {input input' : Channel α}
  {move : Move} {es : List Event}

/-- A consumer warns in its own name. -/
theorem abandons_notice_of_ne {stage : Stage} (hs : c.stage ≠ stage) :
    (c.notice input move).filter (Event.abandons stage) = [] := by
  refine List.filter_eq_nil_iff.mpr fun e he => ?_
  obtain ⟨dropped, upstreamOpen, rfl⟩ := eq_of_mem_notice he
  rw [abandons_stageAbandoned, decide_eq_true_iff]
  exact hs

/-- **Every move of a consumer tells how it ends**: it warns with the move that it is abandoned
with. -/
theorem tells_of_effect (h : c.Effect now cancelled input move c' input') :
    Tells c.ending? c'.ending? ((c.notice input move).filter (Event.abandons c.stage)).length
      move.crash? := by
  cases h with
  | observe => exact .nothing rfl rfl rfl
  | receive item rest hs hw hi => exact .nothing (ending?_of_receiving hs).symm rfl rfl
  | complete item hs hw => exact .nothing (ending?_of_handling hs).symm rfl rfl
  | finish hs hw hi => exact .ends .drained (ending?_of_receiving hs) rfl rfl rfl
  | findEmpty ho hs hi => exact .nothing (ending?_of_receiving hs).symm rfl rfl
  | giveUp ho hw hi => exact .nothing hw.ending?.symm rfl rfl
  | findOpen hs hi | look item hs => exact .nothing (by simp [ending?, hs]) rfl rfl
  | findClosed hs hi => exact .ends .drained (by simp [ending?, hs]) rfl rfl rfl
  | abandon item upstreamOpen hs =>
    refine .ends .abandoned (by simp [ending?, hs]) rfl ?_ rfl
    rw [notice_of_parting input hs]
    simp [abandons_stageAbandoned]
  | crash crash he => exact .ends (.crashed crash) he rfl rfl rfl

/-- Nothing is said when an item was handled. -/
theorem events_of_complete (h : c.step now cancelled input .complete = some (c', input', es)) :
    es = [] :=
  events_of_step h

end

end Consumer

/-! ## 2. Steps of the flow -/

namespace Flow

/-- The event that an outcome reports. -/
def Outcome.event? : Outcome → Option Event
  | .event e => some e
  | .answered _ _ => none

/-- The warnings of a stage among outcomes. -/
def warnings (stage : Stage) (os : List Outcome) : List Event :=
  (os.filterMap Outcome.event?).filter (Event.abandons stage)

/-- The crash that a stage breaks off with. -/
def Move.crash? (stage : Stage) (move : Move) : Option Crash :=
  (move.of? stage).bind Consumer.Move.crash?

/-- Each stage warns in its own name. -/
def Posted (f : Flow) : Prop :=
  ∀ stage, (f.consumerOf stage).stage = stage

theorem posted_start (settings : Settings) (now : Nat) : (start settings now).Posted := by
  intro stage
  cases stage <;> rfl

theorem warnings_map_event (stage : Stage) (es : List Event) :
    warnings stage (es.map .event) = es.filter (Event.abandons stage) := by
  rw [warnings, List.filterMap_map]
  exact congrArg _ List.filterMap_some

section

variable {now : Nat} {cancelled : Bool} {f g : Flow} {r r' : Subscribers} {stage : Stage}
  {move : Move} {out : List Outcome}

/-- A stage makes a move of its consumer and gives the warnings of that move. -/
structure Says (now : Nat) (cancelled : Bool) (f : Flow) (stage : Stage) (move : Consumer.Move)
    (g : Flow) (es : List Event) : Prop where
  works : Works now cancelled f stage move g
  step : ∃ input input' events, (f.consumerOf stage).step now cancelled input move =
    some (g.consumerOf stage, input', events) ∧
    ∀ other, es.filter (Event.abandons other) = events.filter (Event.abandons other)

theorem says_of_stepStorage {move : Consumer.Move} {es : List Event}
    (h : f.stepStorage now cancelled move = some (g, es)) :
    Says now cancelled f .storage move g es := by
  refine ⟨works_of_stepStorage h, ?_⟩
  obtain ⟨input, storage, input', events, -, hc, hs⟩ := stored_of_step h
  cases hs with
  | received s hand =>
    have hsame := (beginSave_frame { f.setInput .storage input' with storage } s).2.2.1
    exact ⟨input, input', _, hc.trans (congrArg (fun c => some (c, input', es)) hsame.symm),
      fun _ => rfl⟩
  | saved how hv =>
    refine ⟨input, input', events, hc, fun other => ?_⟩
    rw [Consumer.events_of_complete hc, List.filter_nil]
    exact filter_abandons_eq_nil (fun e he => by cases how <;> simp_all [SaveEnding.events]) other
  | unwritable fault hv =>
    refine ⟨input, input', events, hc, fun other => ?_⟩
    rw [Consumer.events_of_complete hc]
    rfl
  | observed | finished | expired | checked | looked
  | abandoned | crashed => exact ⟨input, input', _, hc, fun _ => rfl⟩

theorem says_of_stepStreaming {move : Consumer.Move} {es : List Event}
    (h : f.stepStreaming now cancelled r move = some (g, r', es)) :
    Says now cancelled f .streaming move g es := by
  refine ⟨works_of_stepStreaming h, ?_⟩
  obtain ⟨input, streaming, input', events, -, hc, hs⟩ := streamed_of_step h
  cases hs with
  | observed | received | finished | delivered | expired | checked | looked
  | abandoned | crashed =>
    exact ⟨input, input', _, hc, fun _ => rfl⟩

/-- A stage at work tells of itself, and is silent about the other. -/
theorem tells_of_says {m : Consumer.Move} {es : List Event} (hp : f.Posted)
    (hm : ∀ other, move.of? other = if other = stage then some m else none)
    (h : Says now cancelled f stage m g es) :
    g.Posted ∧ ∀ other, Consumer.Tells (f.endingOf other) (g.endingOf other)
      (warnings other (es.map .event)).length (move.crash? other) := by
  obtain ⟨⟨⟨_, _, -, heff, -⟩, -, hothers⟩, input, input', events, hs, hes⟩ := h
  refine ⟨fun other => ?_, fun other => ?_⟩
  · by_cases ho : other = stage
    · rw [ho, heff.same.1]
      exact hp stage
    · rw [hothers other ho]
      exact hp other
  · rw [warnings_map_event, hes, Consumer.events_of_step hs, Move.crash?, hm, endingOf_eq, endingOf_eq]
    by_cases ho : other = stage
    · rw [if_pos ho, ho]
      have ht := Consumer.tells_of_effect (Consumer.effect_of_step hs)
      rw [hp stage] at ht
      exact ht
    · rw [if_neg ho, hothers other ho]
      refine .nothing rfl ?_ rfl
      rw [Consumer.abandons_notice_of_ne fun e => ho (e.symm.trans (hp stage))]
      rfl

/-- What touches neither stage tells nothing of them. -/
theorem tells_of_stages (hp : f.Posted) (hst : g.storage = f.storage)
    (hsr : g.streaming = f.streaming) (hm : ∀ stage, move.of? stage = none)
    (hw : ∀ stage, warnings stage out = []) :
    g.Posted ∧ ∀ stage, Consumer.Tells (f.endingOf stage) (g.endingOf stage)
      (warnings stage out).length (move.crash? stage) := by
  have hsame : ∀ stage, g.consumerOf stage = f.consumerOf stage := by
    intro stage
    cases stage with
    | storage => exact hst
    | streaming => exact hsr
  refine ⟨fun stage => ?_, fun stage => ?_⟩
  · rw [hsame stage]
    exact hp stage
  · rw [endingOf_eq, endingOf_eq, hsame stage, hw stage, Move.crash?, hm stage]
    exact .nothing rfl rfl rfl

theorem events_of_aggregate {a a' : Aggregator Float} {input input' : Channel (Snapshot Float)}
    {m : Aggregator.Move Float} {es : List Event}
    (h : a.step now cancelled input m = some (a', input', es)) :
    ∀ e ∈ es, e = .aggregatorCutOff := by
  intro e he
  cases m with
  | push sample =>
    cases h
    cases he
  | fire stamp =>
    simp only [Aggregator.step] at h
    split at h
    · cases h
    · obtain ⟨a₁, -, e⟩ := Option.map_eq_some_iff.mp h
      cases e
      cases he
  | send =>
    simp only [Aggregator.step, Aggregator.send] at h
    split at h
    · cases h
    · split at h
      · split at h <;> cases h
        · cases he
        · exact List.mem_singleton.mp he
      · cases h
  | halt =>
    simp only [Aggregator.step] at h
    split at h <;> cases h
    cases he

theorem events_of_relay {fo fo' : FanOut (Snapshot Float)} {m : FanOut.Move (Snapshot Float)}
    {es : List Event} (hm : isOwn m = true) (h : fo.step m = some (fo', es)) :
    ∀ e ∈ es, ∃ branch, e = .branchRemoved branch := by
  intro e he
  cases m with
  | read | offer =>
    obtain ⟨fo₁, -, e⟩ := Option.map_eq_some_iff.mp h
    cases e
    cases he
  | settle =>
    have h : fo.settle = some (fo', es) := h
    unfold FanOut.settle at h
    split at h
    · split at h
      · cases h
      · cases h
        obtain ⟨b, -, e⟩ := List.mem_map.mp he
        exact ⟨b.name, e.symm⟩
    · cases h
  | send | close | receive | drop => cases hm

/-- What the registry reports is no warning of a stage. -/
theorem warnings_note {os : List (Registry.Outcome Party)}
    (h : ∀ e, .event e ∈ os → ∃ id timeout, e = .snapshotSkipped id timeout) (f : Flow)
    (stage : Stage) : warnings stage (f.note os).2 = [] := by
  refine List.filter_eq_nil_iff.mpr fun e he => ?_
  obtain ⟨o, ho, heq⟩ := List.mem_filterMap.mp he
  cases o with
  | event e' =>
    cases heq
    obtain ⟨id, timeout, rfl⟩ := h e (event_of_mem_note ho)
    nofun
  | answered => cases heq

/-- **Every step tells how the stages end.** -/
theorem tells_of_step (hp : f.Posted) (h : f.step now cancelled r move = some (g, r', out)) :
    g.Posted ∧ ∀ stage, Consumer.Tells (f.endingOf stage) (g.endingOf stage)
      (warnings stage out).length (move.crash? stage) := by
  cases effect_of_step h with
  | serveEnds | tick | breakOff | saveEnds | close =>
    exact tells_of_stages hp rfl rfl (fun _ => rfl) fun _ => rfl
  | bring id scrape hs =>
    refine tells_of_stages hp rfl rfl (fun _ => rfl) fun stage => ?_
    rw [warnings_map_event]
    exact filter_abandons_eq_nil (fun e he => by
      obtain ⟨failure, -, rfl⟩ := List.mem_map.mp he
      nofun) stage
  | join id task crash hs hf he =>
    refine tells_of_stages hp rfl rfl (fun _ => rfl) fun stage => ?_
    rw [warnings_map_event]
    exact filter_abandons_eq_nil (fun e he => by
      obtain ⟨crash, -, rfl⟩ := List.mem_map.mp he
      nofun) stage
  | aggregate m a input es ha =>
    refine tells_of_stages hp rfl rfl (fun _ => rfl) fun stage => ?_
    rw [warnings_map_event]
    exact filter_abandons_eq_nil (fun e he => by
      rw [events_of_aggregate ha e he]
      nofun) stage
  | relay m fanOut es hm hf =>
    refine tells_of_stages hp rfl rfl (fun _ => rfl) fun stage => ?_
    rw [warnings_map_event]
    exact filter_abandons_eq_nil (fun e he => by
      obtain ⟨branch, rfl⟩ := events_of_relay hm hf e he
      nofun) stage
  | storage m g es hs =>
    exact tells_of_says hp (fun other => rfl) (says_of_stepStorage hs)
  | streaming m g r' es hs =>
    exact tells_of_says hp (fun other => rfl) (says_of_stepStreaming hs)
  | subscribers m r' os hm hs =>
    obtain ⟨delivered, closing, hnote⟩ := note_only f os
    rw [hnote]
    exact tells_of_stages hp rfl rfl (fun _ => rfl)
      (warnings_note (fun e he => Registry.event_of_step hs he) f)

end

end Flow

/-! ## 3. What is heard in a course -/

namespace Exporter

/-- How a stage has ended. -/
def endingOf (x : Exporter) (stage : Stage) : Option Consumer.Ending :=
  x.flow.bind fun f => f.endingOf stage

/-- The event that an outcome reports. -/
def Outcome.event? : Outcome → Option Event
  | .event e => some e
  | _ => none

/-- The crash that a stage breaks off with. -/
def Step.crash? (stage : Stage) (t : Step) : Option Crash :=
  t.flowMove?.bind fun (_, m) => m.crash? stage

/-- The warnings that a step gives of a stage. -/
def Step.warnings (stage : Stage) (t : Step) : List Event :=
  (t.out.filterMap Outcome.event?).filter (Event.abandons stage)

/-- The warnings that were given of a stage. -/
def warnings (stage : Stage) (ts : List Step) : List Event :=
  ts.flatMap (Step.warnings stage)

/-- The crashes that a stage broke off with. -/
def crashes (stage : Stage) (ts : List Step) : List Crash :=
  ts.filterMap (Step.crash? stage)

/-- **What is heard of a stage agrees with how it has ended.** -/
structure Heard (stage : Stage) (ts : List Step) (x : Exporter) : Prop where
  warned : (warnings stage ts).length = if x.endingOf stage = some .abandoned then 1 else 0
  crashed : crashes stage ts = ((x.endingOf stage).bind Consumer.Ending.crash?).toList

section

variable {settings : Flow.Settings} {subscribers : Flow.Subscribers} {now start : Nat}
  {x y : Exporter} {move : Move} {out : List Outcome} {ts : List Step} {stage : Stage}

theorem warnings_snoc (ts : List Step) (t : Step) :
    warnings stage (ts ++ [t]) = warnings stage ts ++ t.warnings stage := by
  rw [warnings, List.flatMap_append, List.flatMap_singleton]
  rfl

theorem warnings_ofFlow {t : Step} {os : List Flow.Outcome} (h : t.out = os.map Outcome.ofFlow) :
    t.warnings stage = Flow.warnings stage os := by
  have hsame : Outcome.event? ∘ Outcome.ofFlow = Flow.Outcome.event? := by
    funext o
    cases o <;> rfl
  rw [Step.warnings, h, List.filterMap_map, hsame]
  rfl

theorem crash?_of_flow {t : Step} {m : Flow.Move} {f : Flow} (hf : t.before.flow = some f)
    (hm : t.move = .flow m ∨ ∃ m', t.move = .guest m' ∧ m = .subscribers m') :
    t.crash? stage = m.crash? stage := by
  rcases hm with hm | ⟨m', hm, rfl⟩
  · rw [Step.crash?, Step.flowMove?, hm, hf]
    rfl
  · rw [Step.crash?, Step.flowMove?, hm]
    rfl

/-- What is no warning of a stage is not heard. -/
theorem warnings_eq_nil {t : Step} (h : ∀ e, .event e ∈ t.out → ∀ s grace dropped upstreamOpen,
    e ≠ .stageAbandoned s grace dropped upstreamOpen) : t.warnings stage = [] := by
  refine filter_abandons_eq_nil (fun e he => ?_) stage
  obtain ⟨o, ho, heq⟩ := List.mem_filterMap.mp he
  unfold Outcome.event? at heq
  split at heq
  · cases heq
    exact h e ho
  · cases heq

theorem crash?_of_ne {t : Step} (h : ∀ m, t.move ≠ .flow m) : t.crash? stage = none := by
  rw [Step.crash?, flowMove?_of_ne h]
  rfl

/-- **Every step tells how the stages end.** -/
theorem tells_of_effect (hu : x.progress.isBound = false → x.flow = none)
    (hp : ∀ f, x.flow = some f → f.Posted) (he : Effect now x move y out) :
    (∀ f, y.flow = some f → f.Posted) ∧ ∀ stage, Consumer.Tells (x.endingOf stage)
      (y.endingOf stage) (Step.warnings stage ⟨now, x, move, y, out⟩).length
      (Step.crash? stage ⟨now, x, move, y, out⟩) := by
  cases onFlow_of_effect he with
  | starts call hpr hm hf hr ho =>
    subst hm ho
    have hnone : x.flow = none := hu (by rw [hpr]; rfl)
    refine ⟨fun f hf' => ?_, fun stage => .nothing ?_ rfl rfl⟩
    · rw [hf] at hf'
      cases hf'
      exact Flow.posted_start x.settings now
    · rw [endingOf, endingOf, hnone, hf]
      cases stage <;> rfl
  | moves m f g os hm hf hg h ho =>
    obtain ⟨hposted, htells⟩ := Flow.tells_of_step (hp f hf) h
    refine ⟨fun g' hg' => ?_, fun stage => ?_⟩
    · rw [hg] at hg'
      cases hg'
      exact hposted
    · rw [warnings_ofFlow ho, crash?_of_flow hf hm, endingOf, endingOf, hf, hg]
      exact htells stage
  | guest m os hm hi hx hy h hevent =>
    refine ⟨fun f hf => ?_, fun stage => .nothing ?_ ?_ (crash?_of_ne fun m' e => ?_)⟩
    · rw [hy] at hf
      cases hf
    · rw [endingOf, endingOf, hx, hy]
    · rw [warnings_eq_nil fun e hmem => ?_]
      · rfl
      · obtain ⟨id, timeout, rfl⟩ := Registry.event_of_step h (hevent e hmem)
        nofun
    · cases hm.symm.trans e
  | beside k hm hf hk hr hevent =>
    have hsame : ∀ f stage, (k f).consumerOf stage = f.consumerOf stage := by
      intro f stage
      obtain ⟨serving, scraping, scrapes, hkf⟩ := hk f
      rw [hkf]
      cases stage <;> rfl
    refine ⟨fun g hg stage => ?_, fun stage => .nothing ?_ ?_ (crash?_of_ne hm)⟩
    · rw [hf] at hg
      obtain ⟨f, hx, rfl⟩ := Option.map_eq_some_iff.mp hg
      rw [hsame]
      exact hp f hx stage
    · rw [endingOf, endingOf, hf]
      cases x.flow with
      | none => rfl
      | some f =>
        show (k f).endingOf stage = f.endingOf stage
        rw [Flow.endingOf_eq, Flow.endingOf_eq, hsame]
    · rw [warnings_eq_nil hevent]
      rfl

theorem heard_start (settings : Flow.Settings) (subscribers : Flow.Subscribers) (stage : Stage) :
    Heard stage [] (new settings subscribers) :=
  ⟨rfl, rfl⟩

/-- **Every step keeps what is heard of a stage in agreement with its end.** -/
theorem heard_step {t : Step} (h : Heard stage ts x)
    (ht : Consumer.Tells (x.endingOf stage) (y.endingOf stage) (t.warnings stage).length
      (t.crash? stage)) : Heard stage (ts ++ [t]) y := by
  have hcrashes : crashes stage (ts ++ [t]) = crashes stage ts ++ (t.crash? stage).toList :=
    filterMap_snoc _ ts t
  obtain ⟨hwarned, hcrashed⟩ := h
  cases ht with
  | nothing he hw hc =>
    refine ⟨?_, ?_⟩
    · rw [warnings_snoc, List.length_append, hw, hwarned, he]
      rfl
    · rw [hcrashes, hc, hcrashed, he]
      exact List.append_nil _
  | ends how hb ha hw hc =>
    rw [hb] at hwarned hcrashed
    refine ⟨?_, ?_⟩
    · rw [warnings_snoc, List.length_append, hwarned, hw, ha]
      cases how <;> rfl
    · rw [hcrashes, hcrashed, hc, ha]
      rfl

/-- **On every course what is heard of a stage agrees with its end.** -/
theorem heard_of_course (h : Course Exporter.step start (new settings subscribers) ts now x)
    (stage : Stage) : Heard stage ts x := by
  have hall : (∀ f, x.flow = some f → f.Posted) ∧ ∀ stage, Heard stage ts x := by
    induction h with
    | start =>
      refine ⟨fun f hf => ?_, heard_start settings subscribers⟩
      cases hf
    | wait _ _ ih => exact ih
    | step h hs ih =>
      have hI : Follows .storage _ _ := follows_of_course h
      obtain ⟨hposted, htells⟩ := tells_of_effect hI.unbound ih.1 (effect_of_step hs)
      exact ⟨hposted, fun stage => heard_step (ih.2 stage) (htells stage)⟩
  exact hall.2 stage

/-- A stage that has ended is heard of unless it has drained. -/
theorem Heard.iff_ne_drained {how : Consumer.Ending} (h : Heard stage ts x)
    (he : x.endingOf stage = some how) :
    (warnings stage ts ≠ [] ∨ crashes stage ts ≠ []) ↔ how ≠ .drained := by
  obtain ⟨hw, hc⟩ := h
  rw [← List.length_pos_iff, hw, hc, he]
  cases how <;> simp [Consumer.Ending.crash?]

end

end Exporter

end Vitals
