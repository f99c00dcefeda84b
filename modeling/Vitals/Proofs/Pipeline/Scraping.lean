import Vitals.Proofs.Pipeline.Feeding
import Vitals.Proofs.Pipeline.Warnings

/-!
# Every scrape counts once

Scrapes run side by side: a later one may end before an earlier one, break off, or still be under
way when the run leaves its loop, and then it is broken off. This file fixes

* the histories of a course: the scrapes that were `started`, and the failures that were reported
  as `missing` groups;
* `Flow.Tracks` and `Tracking`, the invariants that compare the scrapes under way with those
  histories;
* `Scraped`, what a course says of its scrapes.

Main statement: on every course each scrape that brings a sample is folded once, each of its
failures is reported once, and no end of a scrape takes the run out of its loop
(`scrapes_counted`).
-/

namespace Vitals

/-- The failure that an event reports. -/
def Event.missing? : Event → Option GroupFailure
  | .groupMissing failure => some failure
  | _ => none

theorem filterMap_missing?_map (failures : List GroupFailure) :
    (failures.map Event.groupMissing).filterMap Event.missing? = failures := by
  rw [List.filterMap_map]
  exact List.filterMap_some

namespace Flow

/-! ## 1. Scrapes under way -/

/-- The scrape that starts with a move. -/
def started? (f : Flow) : Move → Option Nat
  | .tick => some f.scrapesStarted
  | _ => none

/-- **The scrapes under way are those that were started and have not ended**, as long as scrapes are
started; then there are none. -/
structure Tracks (started ended : List Nat) (f : Flow) : Prop where
  started : started = List.range f.scrapesStarted
  once : ended.Nodup
  known : ∀ id ∈ ended, id < f.scrapesStarted
  tasks : ∀ s ∈ f.scrapes, s.id < f.scrapesStarted ∧ (s.ended = none ↔ s.id ∉ ended)
  underWay : f.scraping = true → ∀ id < f.scrapesStarted, id ∉ ended → ∃ s ∈ f.scrapes, s.id = id
  left : f.scraping = false → f.scrapes = []

/-- Two flows with the same scrapes. -/
def SameScrapes (f g : Flow) : Prop :=
  g.scraping = f.scraping ∧ g.scrapes = f.scrapes ∧ g.scrapesStarted = f.scrapesStarted

section

variable {now : Nat} {cancelled : Bool} {f g : Flow} {r r' : Subscribers} {move : Move}
  {out : List Outcome} {started ended : List Nat}

theorem tracks_start (settings : Settings) (now : Nat) : Tracks [] [] (start settings now) where
  started := rfl
  once := List.nodup_nil
  known := nofun
  tasks := nofun
  underWay := nofun
  left := nofun

/-- Which scrapes can end. -/
theorem Tracks.any_iff (h : Tracks started ended f) (id : Nat) :
    (f.scrapes.any fun s => s.id == id && s.ended.isNone) = true ↔
      f.scraping = true ∧ id ∈ started ∧ id ∉ ended := by
  rw [List.any_eq_true, h.started, List.mem_range]
  constructor
  · rintro ⟨s, hs, hid⟩
    rw [Bool.and_eq_true, beq_iff_eq, Option.isNone_iff_eq_none] at hid
    obtain ⟨rfl, hnone⟩ := hid
    have hscraping : f.scraping = true := by
      refine Bool.not_eq_false _ |>.mp fun hover => ?_
      rw [h.left hover] at hs
      cases hs
    exact ⟨hscraping, (h.tasks s hs).1, (h.tasks s hs).2.mp hnone⟩
  · rintro ⟨hscraping, hlt, hnot⟩
    obtain ⟨s, hs, rfl⟩ := h.underWay hscraping id hlt hnot
    refine ⟨s, hs, ?_⟩
    rw [Bool.and_eq_true, beq_iff_eq, Option.isNone_iff_eq_none]
    exact ⟨rfl, (h.tasks s hs).2.mpr hnot⟩

theorem isSome_endScrape (f : Flow) (id : Nat) (how : ScrapeEnding) :
    (f.endScrape id how).isSome ↔
      (f.scrapes.any fun s => s.id == id && s.ended.isNone) = true := by
  unfold endScrape
  split
  · rename_i hs
    exact iff_of_true (by cases how <;> rfl) hs
  · rename_i hs
    exact iff_of_false (by simp) hs

theorem isSome_tick (f : Flow) (now : Nat) :
    (f.tick now).isSome ↔ f.scraping = true ∧ f.nextTick ≤ now := by
  unfold tick
  split
  · rename_i hc
    rw [Bool.and_eq_true, decide_eq_true_eq] at hc
    exact iff_of_true rfl hc
  · rename_i hc
    rw [Bool.and_eq_true, decide_eq_true_eq] at hc
    exact iff_of_false (by simp) hc

theorem Tracks.same (h : Tracks started ended f) (hs : SameScrapes f g) :
    Tracks started ended g := by
  obtain ⟨hscraping, hscrapes, hcount⟩ := hs
  refine ⟨?_, h.once, ?_, ?_, ?_, ?_⟩
  · rw [hcount]
    exact h.started
  · rw [hcount]
    exact h.known
  · rw [hscrapes, hcount]
    exact h.tasks
  · rw [hscraping, hscrapes, hcount]
    exact h.underWay
  · rw [hscraping, hscrapes]
    exact h.left

/-- A scrape is started. -/
theorem Tracks.tick (h : Tracks started ended f) (hs : f.scraping = true) (nextTick : Nat) :
    Tracks (started ++ [f.scrapesStarted]) ended { f with
      nextTick
      scrapes := f.scrapes ++ [{ id := f.scrapesStarted }]
      scrapesStarted := f.scrapesStarted + 1 } := by
  have hnew : f.scrapesStarted ∉ ended := fun hmem => Nat.lt_irrefl _ (h.known _ hmem)
  refine ⟨?_, h.once, fun id hid => Nat.lt_succ_of_lt (h.known id hid), fun s hmem => ?_,
    fun _ id hlt hnot => ?_, fun hover => ?_⟩
  · rw [h.started, List.range_succ]
  · rcases List.mem_append.mp hmem with hmem | hmem
    · obtain ⟨hlt, hiff⟩ := h.tasks s hmem
      exact ⟨Nat.lt_succ_of_lt hlt, hiff⟩
    · cases List.mem_singleton.mp hmem
      exact ⟨Nat.lt_succ_self _, iff_of_true rfl hnew⟩
  · rcases Nat.lt_succ_iff_lt_or_eq.mp hlt with hlt | rfl
    · obtain ⟨s, hmem, hid⟩ := h.underWay hs id hlt hnot
      exact ⟨s, List.mem_append_left _ hmem, hid⟩
    · exact ⟨_, List.mem_concat_self .., rfl⟩
  · cases hs.symm.trans hover

/-- A scrape ends. -/
theorem Tracks.ends (h : Tracks started ended f) {id : Nat} (crash : Option Crash)
    (hs : (f.scrapes.any fun s => s.id == id && s.ended.isNone) = true)
    (aggregator : Aggregator Float) :
    Tracks started (ended ++ [id]) { f with scrapes := f.scrapesAfter id crash, aggregator } := by
  obtain ⟨hscraping, hstarted, hnot⟩ := (h.any_iff id).mp hs
  have hlt : id < f.scrapesStarted := by
    rw [h.started, List.mem_range] at hstarted
    exact hstarted
  refine ⟨h.started, ?_, fun i hi => ?_, fun s hmem => ?_, fun _ i hi hn => ?_, fun hover => ?_⟩
  · refine List.nodup_append.mpr ⟨h.once, List.pairwise_singleton _ id, fun i hi j hj e => ?_⟩
    cases List.mem_singleton.mp hj
    exact hnot (e ▸ hi)
  · rcases List.mem_append.mp hi with hi | hi
    · exact h.known i hi
    · rw [List.mem_singleton.mp hi]
      exact hlt
  · obtain ⟨s₀, hmem₀, rfl⟩ := List.mem_map.mp hmem
    obtain ⟨hlt₀, hiff₀⟩ := h.tasks s₀ hmem₀
    by_cases hid : s₀.id = id
    · rw [if_pos hid]
      refine ⟨hlt₀, iff_of_false nofun fun hn => hn ?_⟩
      rw [hid]
      exact List.mem_concat_self ..
    · rw [if_neg hid]
      refine ⟨hlt₀, hiff₀.trans ?_⟩
      rw [List.mem_append, List.mem_singleton]
      exact ⟨fun hn hor => hor.elim hn hid, fun hn hmem => hn (.inl hmem)⟩
  · rw [List.mem_append, not_or] at hn
    obtain ⟨s, hmem, rfl⟩ := h.underWay hscraping i hi hn.1
    refine ⟨s, List.mem_map.mpr ⟨s, hmem, if_neg ?_⟩, rfl⟩
    exact fun e => hn.2 (List.mem_singleton.mpr e)
  · cases hscraping.symm.trans hover

/-- The end of a scrape is noticed. -/
theorem Tracks.join (h : Tracks started ended f) {id : Nat} {task : ScrapeTask}
    {crash : Option Crash} (hs : f.scraping = true)
    (hf : f.scrapes.find? (fun s => s.id == id) = some task) (he : task.ended = some crash) :
    Tracks started ended { f with scrapes := f.scrapes.filter fun s => s.id != id } := by
  have hid : task.id = id := by
    have hbeq := List.find?_some hf
    exact beq_iff_eq.mp hbeq
  have hended : id ∈ ended := by
    refine Classical.byContradiction fun hn => ?_
    have hnone := (h.tasks task (List.mem_of_find?_eq_some hf)).2.mpr (hid ▸ hn)
    cases hnone.symm.trans he
  refine ⟨h.started, h.once, h.known, fun s hmem => h.tasks s (List.mem_filter.mp hmem).1,
    fun _ i hi hn => ?_, fun hover => ?_⟩
  · obtain ⟨s, hmem, rfl⟩ := h.underWay hs i hi hn
    have hne : s.id ≠ id := fun e => hn (e ▸ hended)
    exact ⟨s, List.mem_filter.mpr ⟨hmem, bne_iff_ne.mpr hne⟩, rfl⟩
  · cases hs.symm.trans hover

/-- No more scrapes are started, and those under way are broken off. -/
theorem Tracks.endScraping (h : Tracks started ended f) : Tracks started ended f.endScraping :=
  ⟨h.started, h.once, h.known, nofun, nofun, fun _ => rfl⟩

/-! ## 2. Steps of the flow -/

theorem sameScrapes_of_stepStorage {m : Consumer.Move} {es : List Event}
    (h : f.stepStorage now cancelled m = some (g, es)) : SameScrapes f g := by
  obtain ⟨_, _, _, _, _, rfl⟩ := storage_only h
  exact ⟨rfl, rfl, rfl⟩

theorem sameScrapes_of_stepStreaming {m : Consumer.Move} {es : List Event}
    (h : f.stepStreaming now cancelled r m = some (g, r', es)) : SameScrapes f g := by
  obtain ⟨_, _, _, rfl⟩ := streaming_only h
  exact ⟨rfl, rfl, rfl⟩

theorem sameScrapes_note (f : Flow) (os : List (Registry.Outcome Party)) :
    SameScrapes f (f.note os).1 := by
  obtain ⟨delivered, closing, h⟩ := note_only f os
  rw [h]
  exact ⟨rfl, rfl, rfl⟩

/-- **Every step keeps the scrapes under way in agreement with the histories**, and none ends the
scraping. -/
theorem tracks_of_step (hT : Tracks started ended f)
    (h : f.step now cancelled r move = some (g, r', out)) :
    g.scraping = f.scraping ∧ Tracks (started ++ (f.started? move).toList)
      (ended ++ (move.ended?.map Prod.fst).toList) g := by
  have hframe : SameScrapes f g → f.started? move = none → move.ended? = none →
      g.scraping = f.scraping ∧ Tracks (started ++ (f.started? move).toList)
        (ended ++ (move.ended?.map Prod.fst).toList) g := by
    intro hs hstarted hended
    rw [hstarted, hended]
    refine ⟨hs.1, ?_⟩
    rw [Option.map_none, Option.toList_none, List.append_nil, List.append_nil]
    exact hT.same hs
  cases effect_of_step h with
  | serveEnds | aggregate | relay | saveEnds | close => exact hframe ⟨rfl, rfl, rfl⟩ rfl rfl
  | storage m g es hs => exact hframe (sameScrapes_of_stepStorage hs) rfl rfl
  | streaming m g r' es hs => exact hframe (sameScrapes_of_stepStreaming hs) rfl rfl
  | subscribers m r' os hm hs => exact hframe (sameScrapes_note f os) rfl rfl
  | tick hs ht =>
    refine ⟨rfl, ?_⟩
    show Tracks (started ++ [f.scrapesStarted]) (ended ++ []) _
    rw [List.append_nil]
    exact hT.tick hs _
  | bring id scrape hs =>
    refine ⟨rfl, ?_⟩
    show Tracks (started ++ []) (ended ++ [id]) _
    rw [List.append_nil]
    exact hT.ends none hs _
  | breakOff id crash hs =>
    refine ⟨rfl, ?_⟩
    show Tracks (started ++ []) (ended ++ [id]) _
    rw [List.append_nil]
    exact hT.ends (some crash) hs f.aggregator
  | join id task crash hs hf he =>
    refine ⟨rfl, ?_⟩
    show Tracks (started ++ []) (ended ++ []) _
    rw [List.append_nil, List.append_nil]
    exact hT.join hs hf he

/-! ## 3. Missing groups -/

/-- The failures that are reported. -/
def missing (os : List Outcome) : List GroupFailure :=
  (os.filterMap Outcome.event?).filterMap Event.missing?

theorem missing_map_event (es : List Event) :
    missing (es.map .event) = es.filterMap Event.missing? := by
  rw [missing, List.filterMap_map]
  exact congrArg _ List.filterMap_some

/-- What is said by others is silent about failures. -/
theorem missing_eq_nil {es : List Event} (h : ∀ e ∈ es, e.missing? = none) :
    missing (es.map .event) = [] := by
  rw [missing_map_event]
  exact List.filterMap_eq_nil_iff.mpr h

/-- A stage speaks only of itself. -/
theorem missing_of_consumer {c c' : Consumer (Snapshot Float)}
    {input input' : Channel (Snapshot Float)} {m : Consumer.Move} {es : List Event}
    (h : c.step now cancelled input m = some (c', input', es)) : ∀ e ∈ es, e.missing? = none := by
  intro e he
  rw [Consumer.events_of_step h] at he
  obtain ⟨dropped, upstreamOpen, rfl⟩ := Consumer.eq_of_mem_notice he
  rfl

theorem missing_of_stepStorage {m : Consumer.Move} {es : List Event}
    (h : f.stepStorage now cancelled m = some (g, es)) : ∀ e ∈ es, e.missing? = none := by
  obtain ⟨input, storage, input', events, -, hc, hs⟩ := stored_of_step h
  cases hs with
  | saved how hv =>
    intro e he
    cases how with
    | saved => cases he
    | failed | crashed =>
      cases List.mem_singleton.mp he
      rfl
  | unwritable fault hv =>
    intro e he
    cases List.mem_singleton.mp he
    rfl
  | observed | received | finished | expired | checked | looked
  | abandoned | crashed => exact missing_of_consumer hc

theorem missing_of_stepStreaming {m : Consumer.Move} {es : List Event}
    (h : f.stepStreaming now cancelled r m = some (g, r', es)) : ∀ e ∈ es, e.missing? = none := by
  obtain ⟨input, streaming, input', events, -, hc, hs⟩ := streamed_of_step h
  cases hs with
  | observed | received | finished | delivered | expired | checked | looked
  | abandoned | crashed => exact missing_of_consumer hc

/-- What is said by others is silent about failures, whatever is said with it. -/
theorem missing_eq_nil_of_mem {os : List Outcome} (h : ∀ e, .event e ∈ os → e.missing? = none) :
    missing os = [] := by
  refine List.filterMap_eq_nil_iff.mpr fun e he => ?_
  obtain ⟨o, ho, heq⟩ := List.mem_filterMap.mp he
  cases o with
  | event e' =>
    cases heq
    exact h e ho
  | answered => cases heq

/-- **A step reports the failures of the scrape that ends with it, and no others.** -/
theorem missing_of_step (h : f.step now cancelled r move = some (g, r', out)) :
    missing out = move.brought?.toList.flatMap Scrape.failures := by
  cases effect_of_step h with
  | serveEnds | tick | breakOff | saveEnds | close => rfl
  | bring id scrape hs =>
    show _ = [scrape].flatMap Scrape.failures
    rw [missing_map_event, filterMap_missing?_map, List.flatMap_singleton]
  | join id task crash hs hf he =>
    refine missing_eq_nil fun e he => ?_
    obtain ⟨c, -, rfl⟩ := List.mem_map.mp he
    rfl
  | aggregate m a input es ha =>
    refine missing_eq_nil fun e he => ?_
    rw [events_of_aggregate ha e he]
    rfl
  | relay m fanOut es hm hf =>
    refine missing_eq_nil fun e he => ?_
    obtain ⟨branch, rfl⟩ := events_of_relay hm hf e he
    rfl
  | storage m g es hs => exact missing_eq_nil (missing_of_stepStorage hs)
  | streaming m g r' es hs => exact missing_eq_nil (missing_of_stepStreaming hs)
  | subscribers m r' os hm hs =>
    refine missing_eq_nil_of_mem fun e he => ?_
    obtain ⟨id, timeout, rfl⟩ := Registry.event_of_step hs (event_of_mem_note he)
    rfl

end

end Flow

/-! ## 4. Courses -/

namespace Exporter

/-- The scrape that starts with a step. -/
def Step.started? (t : Step) : Option Nat :=
  t.flowMove?.bind fun (f, m) => f.started? m

/-- A step that is the end of a scrape, or that notices one. -/
def Step.OfScrape (t : Step) : Prop :=
  ∃ id, t.move = .flow (.join id) ∨ ∃ how, t.move = .flow (.scrapeEnds id how)

/-- The scrapes that were started. -/
def started (ts : List Step) : List Nat :=
  ts.filterMap Step.started?

/-- The failures that were reported. -/
def missing (ts : List Step) : List GroupFailure :=
  ((outcomes ts).filterMap Outcome.event?).filterMap Event.missing?

/-- The run is in its loop. -/
def IsScraping (x : Exporter) : Prop :=
  ∃ call, x.progress = .scraping call

/-- **What a course tells of the scrapes under way.** -/
structure Tracking (ts : List Step) (x : Exporter) : Prop where
  noFlow : x.flow = none → started ts = [] ∧ ended ts = [] ∧ ¬x.IsScraping
  flow : ∀ f, x.flow = some f → f.Tracks (started ts) ((ended ts).map Prod.fst) ∧
    (f.scraping = true ↔ x.IsScraping)
  missing : missing ts = (brought ts).flatMap Scrape.failures

/-- **What a course says of its scrapes**, up to the exporter that it leads to. -/
structure Scraped (settings : Flow.Settings) (ts : List Step) (now : Nat) (x : Exporter) :
    Prop where
  /-- The aggregator is one that was given, by itself, the samples that the scrapes brought, each
  once and in the order in which they ended. -/
  folded : ∀ f, x.flow = some f → ∃ began us,
    Course Aggregation.step began
      (Aggregation.start settings.warmup settings.steady settings.branchBuffer began) us now
      (f.aggregation x.cancelled) ∧
    Aggregation.pushed us = (brought ts).map Scrape.sample ∧ Aggregation.placed us = placed ts
  /-- No scrape starts or ends twice, and only one that was started ends. -/
  once : (started ts).Nodup ∧ ((ended ts).map Prod.fst).Nodup ∧
    ∀ id ∈ (ended ts).map Prod.fst, id ∈ started ts
  /-- While the run is in its loop, each scrape that was started and has not ended can end, at any
  time and in any way; then none can. -/
  ends : ∀ id how, (x.step now (.flow (.scrapeEnds id how))).isSome ↔
    x.IsScraping ∧ id ∈ started ts ∧ id ∉ (ended ts).map Prod.fst
  /-- While the run is in its loop, a scrape starts when its time has come; then none does. -/
  starts : (x.step now (.flow .tick)).isSome ↔
    x.IsScraping ∧ ∃ f, x.flow = some f ∧ f.nextTick ≤ now
  /-- There is one warning for each failure of a scrape that brought a sample. -/
  warned : missing ts = (brought ts).flatMap Scrape.failures
  /-- However a scrape ends, the run goes on. -/
  goesOn : ∀ t ∈ ts, t.OfScrape →
    t.after.progress = t.before.progress ∧ t.after.cancelled = t.before.cancelled
  /-- Once the run has left its loop, no scrape starts and none ends. -/
  left : ∀ front t back, ts = front ++ t :: back → t.before.IsScraping → ¬t.after.IsScraping →
    started ts = started front ∧ ended ts = ended front

section

variable {settings : Flow.Settings} {subscribers : Flow.Subscribers} {now start : Nat}
  {x y : Exporter} {move : Move} {out : List Outcome} {ts : List Step}

theorem started_snoc (ts : List Step) (t : Step) :
    started (ts ++ [t]) = started ts ++ t.started?.toList :=
  filterMap_snoc _ ts t

theorem missing_snoc (ts : List Step) (t : Step) : missing (ts ++ [t]) =
    missing ts ++ (t.out.filterMap Outcome.event?).filterMap Event.missing? := by
  rw [missing, outcomes_snoc, List.filterMap_append, List.filterMap_append]
  rfl

theorem started?_of_flow {t : Step} {m : Flow.Move} {f : Flow} (hf : t.before.flow = some f)
    (hm : t.move = .flow m ∨ ∃ m', t.move = .guest m' ∧ m = .subscribers m') :
    t.started? = f.started? m :=
  bind_flowMove? Flow.started? (fun _ => rfl) hf hm

/-- A step that is no move of the flow. -/
theorem Tracking.beside {t : Step} (h : Tracking ts x) (hm : t.flowMove? = none)
    (hout : ∀ e, .event e ∈ t.out → e.missing? = none)
    (hnone : y.flow = none → x.flow = none ∧ ¬y.IsScraping)
    (hsome : ∀ g, y.flow = some g → g.Tracks (started ts) ((ended ts).map Prod.fst) ∧
      (g.scraping = true ↔ y.IsScraping)) : Tracking (ts ++ [t]) y := by
  have hstarted : started (ts ++ [t]) = started ts := by
    rw [started_snoc, Step.started?, hm]
    exact List.append_nil _
  have hended : ended (ts ++ [t]) = ended ts := by
    rw [ended_snoc, (ended?_of_other hm).1]
    exact List.append_nil _
  have hsilent : (t.out.filterMap Outcome.event?).filterMap Event.missing? = [] := by
    refine List.filterMap_eq_nil_iff.mpr fun e he => ?_
    obtain ⟨o, ho, heq⟩ := List.mem_filterMap.mp he
    cases o with
    | event e' =>
      cases heq
      exact hout e ho
    | answered | returned => cases heq
  refine ⟨fun hn => ?_, fun g hg => ?_, ?_⟩
  · obtain ⟨hx, hy⟩ := hnone hn
    obtain ⟨hs, he, -⟩ := h.noFlow hx
    exact ⟨hstarted.trans hs, hended.trans he, hy⟩
  · rw [hstarted, hended]
    exact hsome g hg
  · rw [missing_snoc, hsilent, List.append_nil, brought, hended]
    exact h.missing

theorem tracking_start (settings : Flow.Settings) (subscribers : Flow.Subscribers) :
    Tracking [] (new settings subscribers) where
  noFlow _ := ⟨rfl, rfl, nofun⟩
  flow _ h := by cases h
  missing := rfl

/-- A move of the flow. -/
theorem Tracking.moves {m : Flow.Move} {f g : Flow} {r : Flow.Subscribers} {os : List Flow.Outcome}
    (h : Tracking ts x) (hm : move = .flow m ∨ ∃ m', move = .guest m' ∧ m = .subscribers m')
    (hf : x.flow = some f) (hs : f.step now x.cancelled x.subscribers m = some (g, r, os))
    (hy : y.flow = some g) (hp : y.progress = x.progress) :
    Tracking (ts ++ [⟨now, x, move, y, os.map Outcome.ofFlow⟩]) y := by
  obtain ⟨htracks, hscraping⟩ := h.flow f hf
  obtain ⟨hsame, htracks'⟩ := Flow.tracks_of_step htracks hs
  have hstarted := started?_of_flow (t := ⟨now, x, move, y, os.map Outcome.ofFlow⟩) hf hm
  have hended := ended?_of_flow (t := ⟨now, x, move, y, os.map Outcome.ofFlow⟩) hf hm
  refine ⟨fun hn => ?_, fun g' hg' => ?_, ?_⟩
  · cases hn.symm.trans hy
  · cases hy.symm.trans hg'
    rw [started_snoc, ended_snoc, List.map_append, hstarted, hended, hsame, hscraping]
    refine ⟨?_, by rw [IsScraping, IsScraping, hp]⟩
    cases he : m.ended? <;> rw [he] at htracks' <;> exact htracks'
  · have hsilent : Outcome.event? ∘ Outcome.ofFlow = Flow.Outcome.event? := by
      funext o
      cases o <;> rfl
    rw [missing_snoc, h.missing, brought_snoc, List.flatMap_append, List.filterMap_map, hsilent,
      Step.brought?, hended]
    exact congrArg _ (Flow.missing_of_step hs)

/-- **Every step keeps the invariant.** -/
theorem tracking_step (hu : x.progress.isBound = false → x.flow = none) (h : Tracking ts x)
    (he : Effect now x move y out) : Tracking (ts ++ [⟨now, x, move, y, out⟩]) y := by
  have hsame : y.flow = x.flow → y.progress = x.progress →
      (y.flow = none → x.flow = none ∧ ¬y.IsScraping) ∧
      ∀ g, y.flow = some g → g.Tracks (started ts) ((ended ts).map Prod.fst) ∧
        (g.scraping = true ↔ y.IsScraping) := by
    intro hf hp
    rw [IsScraping, hp, hf]
    exact ⟨fun hn => ⟨hn, (h.noFlow hn).2.2⟩, h.flow⟩
  have hover : ∀ {g : Flow}, x.flow = some g → ¬x.IsScraping → ¬y.IsScraping →
      g.Tracks (started ts) ((ended ts).map Prod.fst) ∧ (g.scraping = true ↔ y.IsScraping) := by
    intro g hg hx hy
    obtain ⟨htracks, hiff⟩ := h.flow g hg
    exact ⟨htracks, iff_of_false (fun hs => hx (hiff.mp hs)) hy⟩
  cases he with
  | begin call hp =>
    have hn : x.flow = none := hu (by rw [hp]; rfl)
    exact h.beside rfl nofun (fun _ => ⟨hn, nofun⟩) fun g hg => by cases hn.symm.trans hg
  | turnAway call hp => exact h.beside rfl (by simp) (hsame rfl rfl).1 (hsame rfl rfl).2
  | stop => exact h.beside rfl nofun (hsame rfl rfl).1 (hsame rfl rfl).2
  | bound call hp =>
    have hn : x.flow = none := hu (by rw [hp]; rfl)
    obtain ⟨hstarted, hended, -⟩ := h.noFlow hn
    refine h.beside rfl nofun nofun fun g hg => ?_
    cases hg
    rw [hstarted, hended]
    exact ⟨Flow.tracks_start x.settings now, iff_of_true rfl ⟨call, rfl⟩⟩
  | unbound call fault hp =>
    have hn : x.flow = none := hu (by rw [hp]; rfl)
    exact h.beside rfl (by simp) (fun _ => ⟨hn, nofun⟩) fun g hg => by cases hn.symm.trans hg
  | bindCrashed call hp =>
    have hn : x.flow = none := hu (by rw [hp]; rfl)
    exact h.beside rfl nofun (fun _ => ⟨hn, nofun⟩) fun g hg => by cases hn.symm.trans hg
  | seeShutdown call hp hc =>
    refine h.beside rfl nofun (fun hn => ⟨Option.map_eq_none_iff.mp hn, nofun⟩) fun g hg => ?_
    obtain ⟨f, hf, rfl⟩ := Option.map_eq_some_iff.mp hg
    exact ⟨(h.flow f hf).1.endScraping, iff_of_false nofun nofun⟩
  | serveReturned call f hp hf hs hc =>
    refine h.beside rfl nofun nofun fun g hg => ?_
    cases hg
    have hnoticed : { f with serving := .noticed }.Tracks (started ts) ((ended ts).map Prod.fst) :=
      (h.flow f hf).1.same ⟨rfl, rfl, rfl⟩
    exact ⟨hnoticed.endScraping, iff_of_false nofun nofun⟩
  | serveStopped call f hp hf hs hc =>
    refine h.beside rfl (by simp [Event.missing?]) nofun fun g hg => ?_
    cases hg
    exact ⟨(h.flow f hf).1.same ⟨rfl, rfl, rfl⟩, (h.flow f hf).2⟩
  | serveCrashed call f crash hp hf hs =>
    refine h.beside rfl (by simp [Event.missing?]) nofun fun g hg => ?_
    cases hg
    exact ⟨(h.flow f hf).1.same ⟨rfl, rfl, rfl⟩, (h.flow f hf).2⟩
  | serveFailed call f fault hp hf hs =>
    refine h.beside rfl (by simp [Event.missing?]) nofun fun g hg => ?_
    cases hg
    have hnoticed : { f with serving := .noticed }.Tracks (started ts) ((ended ts).map Prod.fst) :=
      (h.flow f hf).1.same ⟨rfl, rfl, rfl⟩
    exact ⟨hnoticed.endScraping, iff_of_false nofun nofun⟩
  | collect call stage left report f how hp hf =>
    refine h.beside rfl (by cases how <;> simp [eventsOn, Event.missing?])
      (fun hn => by cases hf.symm.trans hn) fun g hg => hover hg ?_ ?_
    · rintro ⟨call', hs⟩
      cases hp.symm.trans hs
    · rintro ⟨call', hs⟩
      cases hs
  | conclude call report f hp hf =>
    refine h.beside rfl (by simp) (fun hn => by cases hf.symm.trans hn) fun g hg => hover hg ?_ ?_
    · rintro ⟨call', hs⟩
      cases hp.symm.trans hs
    · rintro ⟨call', hs⟩
      cases hs
  | flow _ m f g r os hm hf hs => exact h.moves hm hf hs rfl rfl
  | guest m r os _ hf hm hs ho hevent =>
    refine h.beside rfl (fun e hmem => ?_) (hsame rfl rfl).1 (hsame rfl rfl).2
    obtain ⟨id, timeout, rfl⟩ := Registry.event_of_step hs (hevent e hmem)
    rfl

/-- **On every course the scrapes under way are those that the histories tell of.** -/
theorem tracking_of_course (h : Course Exporter.step start (new settings subscribers) ts now x) :
    Tracking ts x := by
  induction h with
  | start => exact tracking_start settings subscribers
  | step h hs ih =>
    have hI : Follows .storage _ _ := follows_of_course h
    exact tracking_step hI.unbound ih (effect_of_step hs)
  | wait _ _ ih => exact ih

/-! ## 5. Leaving the loop -/

/-- A step of the flow is one of the exporter. -/
theorem isSome_stepFlow (x : Exporter) (now : Nat) (m : Flow.Move) :
    (x.step now (.flow m)).isSome ↔
      ∃ f, x.flow = some f ∧ (f.step now x.cancelled x.subscribers m).isSome := by
  show (x.stepFlow now m).isSome ↔ _
  rw [stepFlow]
  cases x.flow with
  | none => simp
  | some f => cases h : f.step now x.cancelled x.subscribers m <;> simp [h]

/-- The end of a scrape, and its notice, leave the run where it is. -/
theorem goesOn_of_effect (he : Effect now x move y out)
    (hm : ∃ id, move = .flow (.join id) ∨ ∃ how, move = .flow (.scrapeEnds id how)) :
    y.progress = x.progress ∧ y.cancelled = x.cancelled := by
  obtain ⟨id, rfl | ⟨how, rfl⟩⟩ := hm
  · cases he
    exact ⟨rfl, rfl⟩
  · cases he
    exact ⟨rfl, rfl⟩

/-- A run that has left its loop does not come back to it. -/
theorem not_isScraping_of_effect (he : Effect now x move y out)
    (hx : x.progress.isBound = true) (hn : ¬x.IsScraping) :
    y.progress.isBound = true ∧ ¬y.IsScraping := by
  cases he with
  | turnAway | stop | flow | guest => exact ⟨hx, hn⟩
  | begin call hp => rw [hp] at hx; cases hx
  | bound call hp | unbound call _ hp | bindCrashed call hp => rw [hp] at hx; cases hx
  | serveStopped call f hp | serveCrashed call f crash hp => exact absurd ⟨call, hp⟩ hn
  | seeShutdown | serveReturned | serveFailed | collect | conclude => exact ⟨rfl, nofun⟩

/-- Which scrapes can end. -/
theorem Tracking.isSome_scrapeEnds (h : Tracking ts x) (now id : Nat) (how : Flow.ScrapeEnding) :
    (x.step now (.flow (.scrapeEnds id how))).isSome ↔
      x.IsScraping ∧ id ∈ started ts ∧ id ∉ (ended ts).map Prod.fst := by
  rw [isSome_stepFlow]
  constructor
  · rintro ⟨f, hf, hs⟩
    obtain ⟨htracks, hiff⟩ := h.flow f hf
    rw [← hiff, ← htracks.any_iff id, ← Flow.isSome_endScrape f id how]
    rw [Flow.step, Option.isSome_map] at hs
    exact hs
  · intro hid
    cases hf : x.flow with
    | none => exact absurd hid.1 (h.noFlow hf).2.2
    | some f =>
      obtain ⟨htracks, hiff⟩ := h.flow f hf
      rw [← hiff, ← htracks.any_iff id, ← Flow.isSome_endScrape f id how] at hid
      refine ⟨f, rfl, ?_⟩
      rw [Flow.step, Option.isSome_map]
      exact hid

/-- When a scrape can start. -/
theorem Tracking.isSome_tick (h : Tracking ts x) (now : Nat) : (x.step now (.flow .tick)).isSome ↔
    x.IsScraping ∧ ∃ f, x.flow = some f ∧ f.nextTick ≤ now := by
  rw [isSome_stepFlow]
  constructor
  · rintro ⟨f, hf, hs⟩
    rw [Flow.step, Option.isSome_map, Flow.isSome_tick, (h.flow f hf).2] at hs
    exact ⟨hs.1, f, hf, hs.2⟩
  · rintro ⟨hx, f, hf, hle⟩
    refine ⟨f, hf, ?_⟩
    rw [Flow.step, Option.isSome_map, Flow.isSome_tick, (h.flow f hf).2]
    exact ⟨hx, hle⟩

theorem move_of_flowMove? {t : Step} {f : Flow} {m : Flow.Move} (h : t.flowMove? = some (f, m)) :
    t.move = .flow m := by
  unfold Step.flowMove? at h
  split at h
  · rename_i hm hf
    cases h
    exact hm
  · cases h

theorem move_of_started? {t : Step} {id : Nat} (h : t.started? = some id) :
    t.move = .flow .tick := by
  obtain ⟨⟨f, m⟩, hm, hs⟩ := Option.bind_eq_some_iff.mp h
  rw [move_of_flowMove? hm]
  cases m with
  | tick => rfl
  | _ => cases hs

theorem move_of_ended? {t : Step} {id : Nat} {how : Flow.ScrapeEnding}
    (h : t.ended? = some (id, how)) : t.move = .flow (.scrapeEnds id how) := by
  obtain ⟨⟨f, m⟩, hm, hs⟩ := Option.bind_eq_some_iff.mp h
  rw [move_of_flowMove? hm]
  cases m with
  | scrapeEnds =>
    cases hs
    rfl
  | _ => cases hs

/-- Out of the loop no scrape starts and none ends. -/
theorem Tracking.histories_of_left {t : Step} (hT : Tracking ts t.before)
    (hs : t.before.step t.now t.move = some (t.after, t.out)) (hn : ¬t.before.IsScraping) :
    started (ts ++ [t]) = started ts ∧ ended (ts ++ [t]) = ended ts := by
  have hstarted : t.started? = none := by
    refine Option.eq_none_iff_forall_ne_some.mpr fun id hid => hn ?_
    have hsome : (t.before.step t.now (.flow .tick)).isSome := by
      rw [← move_of_started? hid, hs]
      rfl
    exact ((hT.isSome_tick t.now).mp hsome).1
  have hended : t.ended? = none := by
    refine Option.eq_none_iff_forall_ne_some.mpr fun ⟨id, how⟩ hid => hn ?_
    have hsome : (t.before.step t.now (.flow (.scrapeEnds id how))).isSome := by
      rw [← move_of_ended? hid, hs]
      rfl
    exact ((hT.isSome_scrapeEnds t.now id how).mp hsome).1
  rw [started_snoc, ended_snoc, hstarted, hended]
  exact ⟨List.append_nil _, List.append_nil _⟩

/-- The step that a run leaves its loop with is none of the flow. -/
theorem flowMove?_of_leaving (he : Effect now x move y out) (hb : x.IsScraping)
    (ha : ¬y.IsScraping) :
    Step.flowMove? ⟨now, x, move, y, out⟩ = none ∧ y.progress.isBound = true := by
  obtain ⟨call, hp⟩ := hb
  cases he with
  | turnAway | stop | serveStopped | serveCrashed | flow | guest => exact absurd ⟨call, hp⟩ ha
  | begin call' hp' => cases hp'.symm.trans hp
  | bound call' hp' | unbound call' _ hp' | bindCrashed call' hp'
  | collect call' _ _ _ _ _ hp' | conclude call' _ _ hp' => cases hp'.symm.trans hp
  | seeShutdown | serveReturned | serveFailed => exact ⟨rfl, rfl⟩

/-- **Once the run has left its loop, the scrapes of its course stay as they are.** -/
theorem left_of_course (h : Course Exporter.step start (new settings subscribers) ts now x)
    {front back : List Step} {t : Step} (e : ts = front ++ t :: back) (hb : t.before.IsScraping)
    (ha : ¬t.after.IsScraping) : (x.progress.isBound = true ∧ ¬x.IsScraping) ∧
      started ts = started front ∧ ended ts = ended front := by
  induction h generalizing back with
  | start => simp at e
  | wait _ _ ih => exact ih e
  | step h hs ih =>
    rcases snoc_eq_append_cons e with ⟨rfl, rfl, -⟩ | ⟨rest, -, rfl⟩
    · obtain ⟨hmove, hbound⟩ := flowMove?_of_leaving (effect_of_step hs) hb ha
      refine ⟨⟨hbound, ha⟩, ?_, ?_⟩
      · rw [started_snoc, Step.started?, hmove]
        exact List.append_nil _
      · rw [ended_snoc, (ended?_of_other hmove).1]
        exact List.append_nil _
    · obtain ⟨⟨hbound, hn⟩, hstarted, hended⟩ := ih rfl
      have hT := tracking_of_course h
      obtain ⟨hstarted', hended'⟩ := hT.histories_of_left (t := ⟨_, _, _, _, _⟩) hs hn
      refine ⟨not_isScraping_of_effect (effect_of_step hs) hbound hn, ?_, ?_⟩
      · rw [hstarted', hstarted]
      · rw [hended', hended]

end

/-- **Every scrape counts once.** On every course from a new exporter, whatever scrapes bring and
however many of them are under way at once, in whatever order they end, break off or are broken
off, they are folded and reported as `Scraped` says. -/
theorem scrapes_counted {settings : Flow.Settings} {subscribers : Flow.Subscribers}
    {start now : Nat} {ts : List Step} {x : Exporter}
    (h : Course Exporter.step start (new settings subscribers) ts now x) :
    Scraped settings ts now x := by
  have hT := tracking_of_course h
  refine ⟨(feeds_of_course h).flow, ?_, hT.isSome_scrapeEnds now, hT.isSome_tick now, hT.missing,
    fun t hmem hof => ?_, fun front t back e hb ha => (left_of_course h e hb ha).2⟩
  · cases hf : x.flow with
    | none =>
      obtain ⟨hstarted, hended, -⟩ := hT.noFlow hf
      rw [hstarted, hended]
      exact ⟨List.nodup_nil, List.nodup_nil, nofun⟩
    | some f =>
      obtain ⟨htracks, -⟩ := hT.flow f hf
      have hstarted : started ts = List.range f.scrapesStarted := htracks.started
      refine ⟨?_, htracks.once, fun id hid => ?_⟩
      · rw [hstarted]
        exact List.nodup_range
      · rw [hstarted, List.mem_range]
        exact htracks.known id hid
  · obtain ⟨front, back, e⟩ := List.append_of_mem hmem
    exact goesOn_of_effect (effect_of_step (h.split e).2) hof

/-- Five scrapes are under way at once: one ends before an older one, with a group missing, one
breaks off, and two are broken off by the shutdown. -/
def overlappingRun : List (Nat × Move) :=
  [(0, .run 0), (0, .bind (.ok ())), (50, .flow .tick), (100, .flow .tick), (150, .flow .tick),
    (160, .flow (.scrapeEnds 1
      (.brought ⟨⟨⟨2⟩, {}⟩, [⟨.cpuUsage, "no counters"⟩, ⟨.diskUsage, "busy"⟩]⟩))),
    (170, .flow (.scrapeEnds 2 (.crashed ⟨7, "lost"⟩))), (170, .flow (.join 2)),
    (180, .flow (.scrapeEnds 0 (.brought ⟨⟨⟨1⟩, {}⟩, []⟩))), (190, .flow (.join 1)),
    (200, .flow .tick), (250, .flow .tick), (260, .stop), (260, .seeShutdown)]

/-- On that course two samples are folded, in the order in which their scrapes ended. -/
theorem scrapes_counted_overlapping :
    ∃ (ts : List Step) (now : Nat) (x : Exporter),
      Course Exporter.step 0 (new quickSettings (Registry.new 1 .block)) ts now x ∧
      started ts = [0, 1, 2, 3, 4] ∧ (ended ts).map Prod.fst = [1, 2, 0] ∧
      (brought ts).map (fun s => s.sample.timestamp) = [⟨2⟩, ⟨1⟩] ∧
      missing ts = [⟨.cpuUsage, "no counters"⟩, ⟨.diskUsage, "busy"⟩] ∧
      (∃ f, x.flow = some f ∧ f.aggregator.pending = 2) ∧ Scraped quickSettings ts now x := by
  have hrun : (drive Exporter.step 0 (new quickSettings (Registry.new 1 .block)) overlappingRun).any
      (fun (ts, _, x) => decide (started ts = [0, 1, 2, 3, 4]) &&
        decide ((ended ts).map Prod.fst = [1, 2, 0]) &&
        decide ((brought ts).map (fun s => s.sample.timestamp) = [⟨2⟩, ⟨1⟩]) &&
        decide (missing ts = [⟨.cpuUsage, "no counters"⟩, ⟨.diskUsage, "busy"⟩]) &&
        x.flow.any fun f => decide (f.aggregator.pending = 2)) = true := by
    decide +kernel
  obtain ⟨⟨ts, now, x⟩, hd, h⟩ := (Option.any_eq_true _ _).mp hrun
  simp only [Bool.and_eq_true, decide_eq_true_eq] at h
  obtain ⟨⟨⟨⟨hstarted, hended⟩, hbrought⟩, hmissing⟩, hflow⟩ := h
  have hcourse := course_of_drive overlappingRun hd
  obtain ⟨f, hf, hpending⟩ := (Option.any_eq_true _ _).mp hflow
  exact ⟨ts, now, x, hcourse, hstarted, hended, hbrought, hmissing,
    ⟨f, hf, of_decide_eq_true hpending⟩, scrapes_counted hcourse⟩

end Exporter

end Vitals
