import Vitals.Proofs.FanOut.Step
import Vitals.Proofs.Pipeline.Passage

/-!
# What the aggregator of an exporter is given

Within an exporter an aggregator is at work as it is by itself: scrapes push samples, the fan-out
takes snapshots out of its channel, and the shutdown is signalled to it. This file fixes

* `Flow.aggregation`, the aggregator of a flow with its channel and the shutdown;
* the histories of a course: the scrapes that `ended`, and those that `brought` a sample;
* `Aggregation.Fed`, what a step of something larger does to an aggregator at work: nothing, or one
  of its own steps;
* `Exporter.Feeds`, the invariant of a course: its aggregator has come to its state on a course of
  its own.

Main statement: the samples pushed on that course are those that the scrapes brought, each once
and in their order, and the snapshots placed on it are those placed in the course of the exporter
(`feeds_of_course`).
-/

namespace Vitals

/-! ## 1. Aggregators within something larger -/

namespace Aggregation

/-- **What a step of something larger does to an aggregator at work**, with the sample that it folds
and the snapshot that it places. -/
inductive Fed (now : Nat) (s : Aggregation Float) :
    Aggregation Float → Option (Sample Float) → Option (Snapshot Float) → Prop where
  | elsewhere : Fed now s s none none
  | step (move : Move Float) (t : Aggregation Float) (es : List Event)
      (h : s.step now move = some (t, es)) :
      Fed now s t (Step.pushed? ⟨now, s, move, t, es⟩) (Step.placed? ⟨now, s, move, t, es⟩)

/-- The shutdown is signalled, if it was not before. -/
theorem Fed.cancel (now : Nat) (s : Aggregation Float) :
    Fed now s { s with cancelled := true } none none :=
  .step .cancel _ [] rfl

/-- The course goes on. -/
theorem Fed.course {began now : Nat} {start s t : Aggregation Float} {us : List (Step Float)}
    {sample : Option (Sample Float)} {snapshot : Option (Snapshot Float)}
    (h : Course Aggregation.step began start us now s) (hf : Fed now s t sample snapshot) :
    ∃ us', Course Aggregation.step began start us' now t ∧
      pushed us' = pushed us ++ sample.toList ∧ placed us' = placed us ++ snapshot.toList := by
  cases hf with
  | elsewhere => exact ⟨us, h, (List.append_nil _).symm, (List.append_nil _).symm⟩
  | step move t es hs => exact ⟨_, h.step hs, pushed_snoc us _, placed_snoc us _⟩

end Aggregation

/-! ## 2. Steps of the flow -/

namespace Flow

/-- The aggregator of a flow at work. -/
def aggregation (f : Flow) (cancelled : Bool) : Aggregation Float :=
  { aggregator := f.aggregator, output := f.fanOut.input, cancelled }

/-- What a scrape has brought when it ends. -/
def ScrapeEnding.scrape? : ScrapeEnding → Option Scrape
  | .brought scrape => some scrape
  | .crashed _ => none

/-- The scrape that ends with a move, and how. -/
def Move.ended? : Move → Option (Nat × ScrapeEnding)
  | .scrapeEnds id how => some (id, how)
  | _ => none

/-- What a scrape brings with a move. -/
def Move.brought? (move : Move) : Option Scrape :=
  move.ended?.bind fun e => e.2.scrape?

section

variable {now : Nat} {cancelled : Bool} {f g : Flow} {r r' : Subscribers} {move : Move}
  {out : List Outcome}

/-- The aggregator places what it places by itself. -/
theorem placed?_of_send {t : Aggregation.Step Float} (hm : t.move = .own .send)
    (hb : t.before = f.aggregation cancelled) : t.placed? = f.placed? (.aggregate .send) := by
  rw [Aggregation.Step.placed?, placed?, hm, hb, aggregation]
  cases f.aggregator.stand with
  | waiting | stopped => rfl
  | sending snapshot deadline =>
    simp only
    cases f.fanOut.input.offer snapshot <;> rfl

/-- What the fan-out does by itself is at most that it takes a snapshot. -/
theorem fed_of_relay {m : FanOut.Move (Snapshot Float)} {fo : FanOut (Snapshot Float)}
    {es : List Event} (hm : isOwn m = true) (h : f.fanOut.step m = some (fo, es)) :
    Aggregation.Fed now (f.aggregation cancelled) ({ f with fanOut := fo }.aggregation cancelled)
      none none := by
  have hsame : fo.input = f.fanOut.input → Aggregation.Fed now (f.aggregation cancelled)
      ({ f with fanOut := fo }.aggregation cancelled) none none := by
    intro hi
    rw [aggregation, aggregation, hi]
    exact .elsewhere
  cases FanOut.effect_of_step h with
  | read a rest hp hi =>
    have hstep : (f.aggregation cancelled).step now .receive =
        some ({ f.aggregation cancelled with output := rest }, []) := by
      simp only [Aggregation.step, aggregation, hi]
    exact .step .receive _ _ hstep
  | finish | accept | refuse | settle => exact hsame rfl
  | send | close | receive | drop => cases hm

/-- A stage at work leaves the aggregator and its channel alone. -/
theorem aggregation_of_works {stage : Stage} {m : Consumer.Move}
    (h : Works now cancelled f stage m g) : g.aggregation cancelled = f.aggregation cancelled := by
  obtain ⟨⟨input, input', -, -, hf⟩, ha, -⟩ := h
  rw [aggregation, aggregation, ha, hf]
  rfl

/-- What the registry answers is noted elsewhere. -/
theorem aggregation_note (f : Flow) (os : List (Registry.Outcome Party)) :
    (f.note os).1.aggregation cancelled = f.aggregation cancelled := by
  obtain ⟨delivered, closing, h⟩ := note_only f os
  rw [h]
  rfl

/-- **Every step feeds the aggregator what a scrape has brought, if it is the end of one.** -/
theorem fed_of_step (h : f.step now cancelled r move = some (g, r', out)) :
    Aggregation.Fed now (f.aggregation cancelled) (g.aggregation cancelled)
      (move.brought?.map Scrape.sample) (f.placed? move) := by
  cases effect_of_step h with
  | serveEnds | tick | breakOff | join | saveEnds | close => exact .elsewhere
  | bring id scrape hs => exact .step (.own (.push scrape.sample)) _ [] rfl
  | aggregate m a input es ha =>
    have hstep : (f.aggregation cancelled).step now (.own m) =
        some ({ f with aggregator := a, fanOut := { f.fanOut with input } }.aggregation cancelled,
          es) := by
      rw [Aggregation.step, aggregation, ha]
      rfl
    have hfed := Aggregation.Fed.step _ _ _ hstep
    cases m with
    | push x => cases h
    | fire | halt => exact hfed
    | send =>
      rw [placed?_of_send rfl rfl] at hfed
      exact hfed
  | relay m fanOut es hm hf => exact fed_of_relay hm hf
  | storage m g es hs =>
    rw [aggregation_of_works (works_of_stepStorage hs)]
    exact .elsewhere
  | streaming m g r' es hs =>
    rw [aggregation_of_works (works_of_stepStreaming hs)]
    exact .elsewhere
  | subscribers m r' os hm hs =>
    rw [aggregation_note]
    exact .elsewhere

end

end Flow

/-! ## 3. Courses -/

namespace Exporter

/-- The scrape that ends with a step, and how. -/
def Step.ended? (t : Step) : Option (Nat × Flow.ScrapeEnding) :=
  t.flowMove?.bind fun (_, m) => m.ended?

/-- What a scrape brings with a step. -/
def Step.brought? (t : Step) : Option Scrape :=
  t.ended?.bind fun e => e.2.scrape?

/-- The scrapes that ended so far, in the order in which they did, and how. -/
def ended (ts : List Step) : List (Nat × Flow.ScrapeEnding) :=
  ts.filterMap Step.ended?

/-- What those of them brought that brought something. -/
def brought (ts : List Step) : List Scrape :=
  (ended ts).filterMap fun e => e.2.scrape?

/-- **What the aggregator of an exporter was given in its course.** -/
structure Feeds (settings : Flow.Settings) (ts : List Step) (now : Nat) (x : Exporter) :
    Prop where
  same : x.settings = settings
  noFlow : x.flow = none → brought ts = [] ∧ placed ts = []
  flow : ∀ f, x.flow = some f → ∃ began us,
    Course Aggregation.step began
      (Aggregation.start settings.warmup settings.steady settings.branchBuffer began) us now
      (f.aggregation x.cancelled) ∧
    Aggregation.pushed us = (brought ts).map Scrape.sample ∧ Aggregation.placed us = placed ts

section

variable {settings : Flow.Settings} {subscribers : Flow.Subscribers} {now : Nat} {x y : Exporter}
  {move : Move} {out : List Outcome} {ts : List Step}

theorem ended_snoc (ts : List Step) (t : Step) :
    ended (ts ++ [t]) = ended ts ++ t.ended?.toList :=
  filterMap_snoc _ ts t

theorem brought_snoc (ts : List Step) (t : Step) :
    brought (ts ++ [t]) = brought ts ++ t.brought?.toList := by
  rw [brought, ended_snoc, List.filterMap_append, Step.brought?]
  cases t.ended? with
  | none => rfl
  | some e => exact congrArg (brought ts ++ ·) (filterMap_snoc _ [] e)

theorem placed_snoc (ts : List Step) (t : Step) :
    placed (ts ++ [t]) = placed ts ++ t.placed?.toList :=
  filterMap_snoc _ ts t

/-- A step that is no move of the flow. -/
theorem ended?_of_other {t : Step} (h : t.flowMove? = none) :
    t.ended? = none ∧ t.placed? = none := by
  rw [Step.ended?, Step.placed?, h]
  exact ⟨rfl, rfl⟩

/-- The scrape that ends with a move of the flow. -/
theorem ended?_of_flow {t : Step} {m : Flow.Move} {f : Flow} (hf : t.before.flow = some f)
    (hm : t.move = .flow m ∨ ∃ m', t.move = .guest m' ∧ m = .subscribers m') :
    t.ended? = m.ended? :=
  bind_flowMove? (fun _ m => m.ended?) (fun _ => rfl) hf hm

/-- **Every step of an exporter feeds its aggregator what a scrape has brought.** -/
theorem fed_of_effect {f : Flow} (hu : x.progress.isBound = false → x.flow = none)
    (hf : x.flow = some f) (he : Effect now x move y out) :
    ∃ g, y.flow = some g ∧
      Aggregation.Fed now (f.aggregation x.cancelled) (g.aggregation y.cancelled)
        ((Step.brought? ⟨now, x, move, y, out⟩).map Scrape.sample)
        (Step.placed? ⟨now, x, move, y, out⟩) := by
  cases he with
  | begin | turnAway | unbound | bindCrashed | collect | conclude => exact ⟨f, hf, .elsewhere⟩
  | stop => exact ⟨f, hf, .cancel now _⟩
  | bound call hp =>
    have hnone : x.flow = none := hu (by rw [hp]; rfl)
    rw [hnone] at hf
    cases hf
  | seeShutdown call hp hc =>
    refine ⟨f.endScraping, ?_, .elsewhere⟩
    show x.flow.map Flow.endScraping = _
    rw [hf]
    rfl
  | serveReturned call f' hp hf' hs hc =>
    cases hf'.symm.trans hf
    exact ⟨_, rfl, .elsewhere⟩
  | serveStopped call f' hp hf' hs hc =>
    cases hf'.symm.trans hf
    exact ⟨_, rfl, .elsewhere⟩
  | serveCrashed call f' crash hp hf' hs =>
    cases hf'.symm.trans hf
    exact ⟨_, rfl, .elsewhere⟩
  | serveFailed call f' fault hp hf' hs =>
    cases hf'.symm.trans hf
    exact ⟨_, rfl, .cancel now _⟩
  | flow _ m f' g r os hm hf' h =>
    cases hf'.symm.trans hf
    refine ⟨g, rfl, ?_⟩
    rw [Step.brought?, ended?_of_flow hf hm, (histories_of_flow .storage hf hm).1]
    exact Flow.fed_of_step h
  | guest m r os _ hn =>
    rw [hn] at hf
    cases hf

/-- A flow that starts has an aggregator that starts, and that sees a shutdown signalled before. -/
theorem exists_course_of_start (settings : Flow.Settings) (now : Nat) (cancelled : Bool) :
    ∃ us, Course Aggregation.step now
        (Aggregation.start settings.warmup settings.steady settings.branchBuffer now) us now
        ((Flow.start settings now).aggregation cancelled) ∧
      Aggregation.pushed us = [] ∧ Aggregation.placed us = [] := by
  cases cancelled with
  | false => exact ⟨[], .start, rfl, rfl⟩
  | true => exact (Aggregation.Fed.cancel now _).course .start

/-- A step without a flow leads to one that starts, or to none. -/
theorem flow_of_effect (hf : x.flow = none) (he : Effect now x move y out) :
    Step.flowMove? ⟨now, x, move, y, out⟩ = none ∧
      (y.flow = none ∨ y.flow = some (Flow.start x.settings now)) := by
  have hmove : Step.flowMove? ⟨now, x, move, y, out⟩ = none := by
    unfold Step.flowMove?
    rw [hf]
    split
    · rename_i hs
      cases hs
    · rfl
  refine ⟨hmove, ?_⟩
  cases onFlow_of_effect he with
  | starts call hp hm hy => exact .inr hy
  | moves m f g os hm hf' =>
    rw [hf] at hf'
    cases hf'
  | guest m os hm hi hx hy => exact .inl hy
  | beside k hm hy =>
    rw [hf] at hy
    exact .inl hy

theorem feeds_start (settings : Flow.Settings) (subscribers : Flow.Subscribers) (start : Nat) :
    Feeds settings [] start (new settings subscribers) where
  same := rfl
  noFlow _ := ⟨rfl, rfl⟩
  flow _ h := by cases h

/-- **Every step keeps the invariant.** -/
theorem feeds_step (hu : x.progress.isBound = false → x.flow = none) (h : Feeds settings ts now x)
    (he : Effect now x move y out) : Feeds settings (ts ++ [⟨now, x, move, y, out⟩]) now y := by
  have hsame : y.settings = settings := (settings_of_effect he).trans h.same
  cases hf : x.flow with
  | none =>
    obtain ⟨hmove, hflow⟩ := flow_of_effect hf he
    obtain ⟨hended?, hplaced?⟩ := ended?_of_other hmove
    obtain ⟨hbrought, hplaced⟩ := h.noFlow hf
    have hbrought' : brought (ts ++ [⟨now, x, move, y, out⟩]) = [] := by
      rw [brought_snoc, hbrought, Step.brought?, hended?]
      rfl
    have hplaced' : placed (ts ++ [⟨now, x, move, y, out⟩]) = [] := by
      rw [placed_snoc, hplaced, hplaced?]
      rfl
    refine ⟨hsame, fun _ => ⟨hbrought', hplaced'⟩, fun g hg => ?_⟩
    rcases hflow with hnone | hstart
    · rw [hnone] at hg
      cases hg
    · rw [hstart, h.same] at hg
      cases hg
      rw [hbrought', hplaced']
      obtain ⟨us, hcourse⟩ := exists_course_of_start settings now y.cancelled
      exact ⟨now, us, hcourse⟩
  | some f =>
    obtain ⟨began, us, hcourse, hpushed, hplaced⟩ := h.flow f hf
    obtain ⟨g, hg, hfed⟩ := fed_of_effect hu hf he
    obtain ⟨us', hcourse', hpushed', hplaced'⟩ := hfed.course hcourse
    refine ⟨hsame, fun hnone => ?_, fun g' hg' => ⟨began, us', ?_, ?_, ?_⟩⟩
    · rw [hg] at hnone
      cases hnone
    · cases hg.symm.trans hg'
      exact hcourse'
    · rw [hpushed', hpushed, brought_snoc, List.map_append]
      cases Step.brought? _ <;> rfl
    · rw [hplaced', hplaced, placed_snoc]

/-- **On every course the aggregator was given what the scrapes brought.** -/
theorem feeds_of_course {start : Nat}
    (h : Course Exporter.step start (new settings subscribers) ts now x) :
    Feeds settings ts now x := by
  induction h with
  | start => exact feeds_start settings subscribers start
  | step h hs ih =>
    have hI : Follows .storage _ _ := follows_of_course h
    exact feeds_step hI.unbound ih (effect_of_step hs)
  | wait _ hle ih =>
    refine ⟨ih.same, ih.noFlow, fun f hf => ?_⟩
    obtain ⟨began, us, hcourse, hrest⟩ := ih.flow f hf
    exact ⟨began, us, hcourse.wait hle, hrest⟩

end

end Exporter

end Vitals
