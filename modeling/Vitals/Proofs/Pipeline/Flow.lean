import Vitals.Proofs.Pipeline.Consumer
import Vitals.Pipeline.Flow

/-!
# What a step of the flow can do

This file says once everything that a step of a flow can do (`Flow.Effect`, `effect_of_step`):
which parts it changes, and what it takes for it to happen. What the parts do by themselves, the
aggregator, the fan-out, the stages and the registry, is left to the files about them. What follows
in the flow from a move of a stage is said once as well (`Stored`, `Streamed`), and so is what it
leaves alone (`storage_only`, `streaming_only`).
-/

namespace Vitals.Flow

/-- A flow becomes another one beside the way of its snapshots: in its scrapes, and in what is known
of serving. -/
def Beside (f g : Flow) : Prop :=
  ∃ serving scraping scrapes, g = { f with serving, scraping, scrapes }

/-- The scrapes after one of them has ended. -/
def scrapesAfter (f : Flow) (id : Nat) (crash : Option Crash) : List ScrapeTask :=
  f.scrapes.map fun s => if s.id = id then { s with ended := some crash } else s

/-- The instant that the next tick after this one is counted from. -/
def tickFrom (now : Nat) (f : Flow) : Nat :=
  if f.nextTick + tickSlack < now then now else f.nextTick

/-- **Everything that a step can do.** -/
inductive Effect (now : Nat) (cancelled : Bool) (f : Flow) (r : Subscribers) :
    Move → Flow → Subscribers → List Outcome → Prop where
  | serveEnds (how : ServeEnding) (hs : f.serving = .underWay) :
      Effect now cancelled f r (.serveEnds how) { f with serving := .ended how } r []
  | tick (hs : f.scraping = true) (ht : f.nextTick ≤ now) :
      Effect now cancelled f r .tick { f with
        nextTick := f.tickFrom now + f.settings.scrapeInterval.nanos
        scrapes := f.scrapes ++ [{ id := f.scrapesStarted }]
        scrapesStarted := f.scrapesStarted + 1 } r []
  | bring (id : Nat) (scrape : Scrape)
      (hs : (f.scrapes.any fun s => s.id == id && s.ended.isNone) = true) :
      Effect now cancelled f r (.scrapeEnds id (.brought scrape)) { f with
        scrapes := f.scrapesAfter id none
        aggregator := f.aggregator.push scrape.sample } r
        ((scrape.failures.map .groupMissing).map .event)
  /-- A scrape breaks off. -/
  | breakOff (id : Nat) (crash : Crash)
      (hs : (f.scrapes.any fun s => s.id == id && s.ended.isNone) = true) :
      Effect now cancelled f r (.scrapeEnds id (.crashed crash))
        { f with scrapes := f.scrapesAfter id (some crash) } r []
  | join (id : Nat) (task : ScrapeTask) (crash : Option Crash) (hs : f.scraping = true)
      (hf : f.scrapes.find? (fun s => s.id == id) = some task) (he : task.ended = some crash) :
      Effect now cancelled f r (.join id)
        { f with scrapes := f.scrapes.filter fun s => s.id != id } r
        ((crash.toList.map .scrapeCrashed).map .event)
  | aggregate (m : Aggregator.Move Float) (a : Aggregator Float) (input : Channel (Snapshot Float))
      (es : List Event)
      (h : f.aggregator.step now cancelled f.fanOut.input m = some (a, input, es)) :
      Effect now cancelled f r (.aggregate m)
        { f with aggregator := a, fanOut := { f.fanOut with input } } r (es.map .event)
  | relay (m : FanOut.Move (Snapshot Float)) (fanOut : FanOut (Snapshot Float)) (es : List Event)
      (hm : isOwn m = true) (h : f.fanOut.step m = some (fanOut, es)) :
      Effect now cancelled f r (.relay m) { f with fanOut } r (es.map .event)
  | storage (m : Consumer.Move) (g : Flow) (es : List Event)
      (h : f.stepStorage now cancelled m = some (g, es)) :
      Effect now cancelled f r (.storage m) g r (es.map .event)
  | saveEnds (id : Nat) (how : SaveEnding) (hj : (f.jobs.any fun j => j.id == id) = true) :
      Effect now cancelled f r (.saveEnds id how) { f with
        jobs := f.jobs.filter fun j => j.id != id
        saving := if f.saving = .underWay id then .ended how else f.saving } r []
  | streaming (m : Consumer.Move) (g : Flow) (r' : Subscribers) (es : List Event)
      (h : f.stepStreaming now cancelled r m = some (g, r', es)) :
      Effect now cancelled f r (.streaming m) g r' (es.map .event)
  | close (how : Consumer.Ending) (r' : Subscribers) (hc : f.closing = .pending)
      (he : f.streaming.ending? = some how) (hh : how = .drained ∨ how = .abandoned)
      (ha : r.ask .stage .stopAll = some r') :
      Effect now cancelled f r .close { f with closing := .asked } r' []
  | subscribers (m : Registry.Move Party (Snapshot Float)) (r' : Subscribers)
      (os : List (Registry.Outcome Party)) (hm : isForeign m = true)
      (h : r.step now m = some (r', os)) :
      Effect now cancelled f r (.subscribers m) (f.note os).1 r' (f.note os).2

section

variable {now : Nat} {cancelled : Bool} {f g : Flow} {r r' : Subscribers} {move : Move}
  {out : List Outcome}

theorem effect_of_tick (h : f.tick now = some g) : Effect now cancelled f r .tick g r [] := by
  unfold tick at h
  split at h
  · rename_i hc
    cases h
    rw [Bool.and_eq_true, decide_eq_true_eq] at hc
    exact .tick hc.1 hc.2
  · cases h

theorem effect_of_endScrape {id : Nat} {how : ScrapeEnding} {es : List Event}
    (h : f.endScrape id how = some (g, es)) :
    Effect now cancelled f r (.scrapeEnds id how) g r (es.map .event) := by
  unfold endScrape at h
  split at h
  · rename_i hs
    cases how with
    | brought scrape =>
      cases h
      exact .bring id scrape hs
    | crashed crash =>
      cases h
      exact .breakOff id crash hs
  · cases h

theorem effect_of_join {id : Nat} {es : List Event} (hs : f.scraping = true)
    (h : f.join id = some (g, es)) : Effect now cancelled f r (.join id) g r (es.map .event) := by
  simp only [join, Option.bind_eq_bind, Option.bind_eq_some_iff, Option.pure_def] at h
  obtain ⟨task, hf, crash, he, e⟩ := h
  cases e
  exact .join id task crash hs hf he

theorem effect_of_endSave {id : Nat} {how : SaveEnding} (h : f.endSave id how = some g) :
    Effect now cancelled f r (.saveEnds id how) g r [] := by
  unfold endSave at h
  split at h
  · rename_i hj
    have e : g = { f with
        jobs := f.jobs.filter fun j => j.id != id
        saving := if f.saving = .underWay id then .ended how else f.saving } := by
      rw [← Option.some.inj h]
      by_cases hv : f.saving = .underWay id
      · simp only [hv, if_true]
      · simp only [hv, if_false]
    rw [e]
    exact .saveEnds id how hj
  · cases h

theorem effect_of_close (h : f.close r = some (g, r')) :
    Effect now cancelled f r .close g r' [] := by
  unfold close at h
  split at h
  · rename_i hc he
    obtain ⟨r₁, ha, e⟩ := Option.bind_eq_some_iff.mp h
    cases e
    exact .close .drained _ hc he (.inl rfl) ha
  · rename_i hc he
    obtain ⟨r₁, ha, e⟩ := Option.bind_eq_some_iff.mp h
    cases e
    exact .close .abandoned _ hc he (.inr rfl) ha
  · cases h

/-- **A step does nothing else.** -/
theorem effect_of_step (h : f.step now cancelled r move = some (g, r', out)) :
    Effect now cancelled f r move g r' out := by
  cases move with
  | serveEnds how =>
    simp only [step] at h
    split at h
    · rename_i hs
      cases h
      exact .serveEnds how hs
    · cases h
  | tick =>
    obtain ⟨g', ht, e⟩ := Option.map_eq_some_iff.mp h
    cases e
    exact effect_of_tick ht
  | scrapeEnds id how =>
    obtain ⟨⟨g', es⟩, ht, e⟩ := Option.map_eq_some_iff.mp h
    cases e
    exact effect_of_endScrape ht
  | join id =>
    simp only [step] at h
    split at h
    · rename_i hs
      obtain ⟨⟨g', es⟩, ht, e⟩ := Option.map_eq_some_iff.mp h
      cases e
      exact effect_of_join hs ht
    · cases h
  | aggregate m =>
    have hs : ((f.aggregator.step now cancelled f.fanOut.input m).map fun x =>
        ({ f with aggregator := x.1, fanOut := { f.fanOut with input := x.2.1 } }, r,
          x.2.2.map Outcome.event)) = some (g, r', out) := by
      cases m with
      | push x => cases h
      | fire | send | halt => exact h
    obtain ⟨⟨a, input, es⟩, ha, e⟩ := Option.map_eq_some_iff.mp hs
    cases e
    exact .aggregate m a input es ha
  | relay m =>
    simp only [step] at h
    split at h
    · rename_i hm
      obtain ⟨⟨fanOut, es⟩, hf, e⟩ := Option.map_eq_some_iff.mp h
      cases e
      exact .relay m fanOut es hm hf
    · cases h
  | storage m =>
    obtain ⟨⟨g', es⟩, hs, e⟩ := Option.map_eq_some_iff.mp h
    cases e
    exact .storage m _ es hs
  | saveEnds id how =>
    obtain ⟨g', ht, e⟩ := Option.map_eq_some_iff.mp h
    cases e
    exact effect_of_endSave ht
  | streaming m =>
    obtain ⟨⟨g', r₁, es⟩, hs, e⟩ := Option.map_eq_some_iff.mp h
    cases e
    exact .streaming m _ _ es hs
  | close =>
    obtain ⟨⟨g', r₁⟩, ht, e⟩ := Option.map_eq_some_iff.mp h
    cases e
    exact effect_of_close ht
  | subscribers m =>
    simp only [step] at h
    split at h
    · rename_i hm
      obtain ⟨⟨r₁, os⟩, hs, e⟩ := Option.map_eq_some_iff.mp h
      cases e
      exact .subscribers m r₁ os hm hs
    · cases h

/-! ## Moves of the stages -/

/-- What becomes of a flow `f` whose storage stage has made a move with the warnings `events`. -/
inductive Stored (f : Flow) (events : List Event) : Consumer.Move → Flow → List Event → Prop where
  | observed : Stored f events .observe f events
  | received (s : Snapshot Float) (hand : f.storage.inHand? = some s) :
      Stored f events .receive (f.beginSave s) events
  | finished : Stored f events .finish f events
  | saved (how : SaveEnding) (hv : f.saving = .ended how) :
      Stored f events .complete { f with saving := .idle } how.events
  | unwritable (fault : Fault) (hv : f.saving = .unwritable fault) :
      Stored f events .complete { f with saving := .idle } [.recordMissing fault]
  | expired : Stored f events .expire { f with saving := .idle } events
  | checked : Stored f events .check f events
  | looked : Stored f events .look f events
  | abandoned : Stored f events .abandon f events
  | crashed (crash : Crash) : Stored f events (.crash crash) { f with saving := .idle } events

/-- **A move of the storage stage is one of its consumer, with what follows from it.** -/
theorem stored_of_step {m : Consumer.Move} {es : List Event}
    (h : f.stepStorage now cancelled m = some (g, es)) :
    ∃ input storage input' events, f.inputOf .storage = some input ∧
      f.storage.step now cancelled input m = some (storage, input', events) ∧
      Stored { f.setInput .storage input' with storage } events m g es := by
  simp only [stepStorage, Option.bind_eq_bind, Option.bind_eq_some_iff, Option.pure_def] at h
  obtain ⟨input, hi, ⟨storage, input', events⟩, hc, h⟩ := h
  refine ⟨input, storage, input', events, hi, hc, ?_⟩
  have he := Consumer.effect_of_step hc
  split at h
  · rename_i s hand
    cases h
    exact .received s hand
  · rename_i how hv
    cases h
    exact .saved how hv
  · rename_i fault hv
    cases h
    exact .unwritable fault hv
  · cases h
  · cases h
    exact .expired
  · cases h
    exact .crashed _
  · rename_i hcomplete hexpire hcrash hreceive _ _
    cases h
    cases he with
    | observe => exact .observed
    | receive s _ hs hwk hp => exact (hreceive s rfl rfl).elim
    | finish => exact .finished
    | complete => exact (hcomplete rfl).elim
    | findEmpty | giveUp => exact (hexpire rfl).elim
    | findOpen | findClosed => exact .checked
    | look => exact .looked
    | abandon => exact .abandoned
    | crash crash => exact (hcrash crash rfl).elim

/-- What becomes of a flow `f` and of the registry whose streaming stage has made a move with the
warnings `events`. -/
inductive Streamed (f : Flow) (r : Subscribers) (events : List Event) :
    Consumer.Move → Flow → Subscribers → List Event → Prop where
  | observed : Streamed f r events .observe f r events
  | received (s : Snapshot Float) (r' : Subscribers) (hand : f.streaming.inHand? = some s)
      (hask : r.ask .stage (.broadcast s) = some r') :
      Streamed f r events .receive { f with delivered := false } r' events
  | finished : Streamed f r events .finish f r events
  | delivered (hd : f.delivered = true) :
      Streamed f r events .complete { f with delivered := false } r events
  | expired : Streamed f r events .expire f (r.cancel .stage) events
  | checked : Streamed f r events .check f r events
  | looked : Streamed f r events .look f r events
  | abandoned : Streamed f r events .abandon f r events
  | crashed (crash : Crash) : Streamed f r events (.crash crash) f (r.cancel .stage) events

/-- **A move of the streaming stage is one of its consumer, with what follows from it.** -/
theorem streamed_of_step {m : Consumer.Move} {es : List Event}
    (h : f.stepStreaming now cancelled r m = some (g, r', es)) :
    ∃ input streaming input' events, f.inputOf .streaming = some input ∧
      f.streaming.step now cancelled input m = some (streaming, input', events) ∧
      Streamed { f.setInput .streaming input' with streaming } r events m g r' es := by
  simp only [stepStreaming, Option.bind_eq_bind, Option.bind_eq_some_iff, Option.pure_def] at h
  obtain ⟨input, hi, ⟨streaming, input', events⟩, hc, h⟩ := h
  refine ⟨input, streaming, input', events, hi, hc, ?_⟩
  have he := Consumer.effect_of_step hc
  split at h
  · rename_i s hand
    obtain ⟨r₁, hask, h⟩ := Option.bind_eq_some_iff.mp h
    cases h
    exact .received s _ hand hask
  · split at h
    · rename_i hd
      cases h
      exact .delivered hd
    · cases h
  · cases h
    exact .expired
  · cases h
    exact .crashed _
  · rename_i hcomplete hexpire hcrash hreceive
    cases h
    cases he with
    | observe => exact .observed
    | receive s _ hs hwk hp => exact (hreceive s rfl rfl).elim
    | finish => exact .finished
    | complete => exact (hcomplete rfl).elim
    | findEmpty | giveUp => exact (hexpire rfl).elim
    | findOpen | findClosed => exact .checked
    | look => exact .looked
    | abandon => exact .abandoned
    | crash crash => exact (hcrash crash rfl).elim

/-- **A move of the storage stage changes nothing but its own part of the flow and the saves.** -/
theorem storage_only {m : Consumer.Move} {es : List Event}
    (h : f.stepStorage now cancelled m = some (g, es)) :
    ∃ fanOut storage saving jobs savesStarted,
      g = { f with fanOut, storage, saving, jobs, savesStarted } := by
  obtain ⟨input, storage, input', events, -, -, hs⟩ := stored_of_step h
  cases hs with
  | received s hand =>
    -- there may be no record to save
    unfold beginSave
    split <;> exact ⟨_, _, _, _, _, rfl⟩
  | observed | finished | saved | unwritable | expired | checked | looked
  | abandoned | crashed => exact ⟨_, _, _, _, _, rfl⟩

/-- **A move of the streaming stage changes nothing but its own part of the flow.** -/
theorem streaming_only {m : Consumer.Move} {es : List Event}
    (h : f.stepStreaming now cancelled r m = some (g, r', es)) :
    ∃ fanOut streaming delivered, g = { f with fanOut, streaming, delivered } := by
  obtain ⟨input, streaming, input', events, -, -, hs⟩ := streamed_of_step h
  cases hs with
  | observed | received | finished | delivered | expired | checked | looked
  | abandoned | crashed => exact ⟨_, _, _, rfl⟩

/-! ## Answers -/

/-- **Taking note of answers changes nothing but what is known of the broadcast and of the
closing.** -/
theorem note_only (f : Flow) (os : List (Registry.Outcome Party)) :
    ∃ delivered closing, (f.note os).1 = { f with delivered, closing } := by
  induction os generalizing f with
  | nil => exact ⟨f.delivered, f.closing, rfl⟩
  | cons o os ih =>
    cases o with
    | event e => exact ih f
    | done task answer =>
      cases task with
      | guest n => exact ih f
      | stage =>
        obtain ⟨delivered, closing, h⟩ := ih (f.answered answer)
        refine ⟨delivered, closing, ?_⟩
        rw [note, h]
        cases answer <;> rfl

/-- Without an answer to the streaming stage there is nothing to note. -/
theorem note_of_quiet {os : List (Registry.Outcome Party)}
    (h : ∀ answer, .done .stage answer ∉ os) : (f.note os).1 = f := by
  induction os with
  | nil => rfl
  | cons o os ih =>
    have hrest : ∀ answer, .done .stage answer ∉ os := by
      intro answer hmem
      exact h answer (List.mem_cons_of_mem _ hmem)
    cases o with
    | event e => exact ih hrest
    | done task answer =>
      cases task with
      | guest n => exact ih hrest
      | stage => exact absurd List.mem_cons_self (h answer)

/-- What is said while answers are noted was said by the registry. -/
theorem event_of_mem_note {e : Event} {os : List (Registry.Outcome Party)}
    (h : .event e ∈ (f.note os).2) : .event e ∈ os := by
  induction os generalizing f with
  | nil => exact absurd h List.not_mem_nil
  | cons o os ih =>
    cases o with
    | event e' =>
      rcases List.mem_cons.mp h with heq | h
      · cases heq
        exact List.mem_cons_self
      · exact List.mem_cons_of_mem _ (ih h)
    | done task answer =>
      cases task with
      | guest n =>
        rcases List.mem_cons.mp h with heq | h
        · cases heq
        · exact List.mem_cons_of_mem _ (ih h)
      | stage => exact List.mem_cons_of_mem _ (@ih (f.answered answer) h)

end

end Vitals.Flow
