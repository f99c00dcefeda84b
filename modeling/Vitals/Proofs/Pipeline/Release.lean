import Vitals.Proofs.Pipeline.Ends
import Vitals.Proofs.Subscribers.Stream

/-!
# What subscribers get of a run

The streaming stage is one of the tasks that work on the registry of subscribers: it broadcasts the
snapshots that it takes, and closes all subscriptions when it has ended. A broadcast that it gives
up is cancelled as soon as it stops its work, so that the lock is free for the end of all
subscriptions. This file fixes

* `registrySteps`, the course of the registry that a course of the exporter holds;
* `Calls`, what a step of the exporter does to the registry, and `Broadcasts`, the invariant that
  compares the two courses;
* `Released`, what a subscriber finds when the run has returned.

Main statement: when a run has returned its report, and the streaming stage did not break off, every
subscription comes to its end, and has brought a run of the snapshots without a gap
(`subscribers_released`).
-/

namespace Vitals

/-! ## 1. Calls of the flow -/

namespace Flow

/-- The move of the registry that a move of the flow makes. -/
def registryMove? (f : Flow) : Move → Option (Registry.Move Party (Snapshot Float))
  | .streaming .receive =>
    (f.begun? .streaming (.streaming .receive)).map fun s => .ask .stage (.broadcast s)
  | .streaming .expire | .streaming (.crash _) => some (.cancel .stage)
  | .close => some (.ask .stage .stopAll)
  | .subscribers move => some move
  | _ => none

/-- **What a step does to the registry**, with the snapshot that the streaming stage takes: it
broadcasts as long as the stage is `going`, and is cancelled when the stage has `stopped`. -/
inductive Calls (now : Nat) (r r' : Subscribers) (going stopped : Prop) :
    Option (Registry.Move Party (Snapshot Float)) → Option (Snapshot Float) → Prop where
  | nothing (h : r' = r) : Calls now r r' going stopped none none
  | broadcast (s : Snapshot Float) (hgoing : going)
      (h : r.step now (.ask .stage (.broadcast s)) = some (r', [])) :
      Calls now r r' going stopped (some (.ask .stage (.broadcast s))) (some s)
  | giveUp (hstopped : stopped) (h : r.step now (.cancel .stage) = some (r', [])) :
      Calls now r r' going stopped (some (.cancel .stage)) none
  | close (h : r.step now (.ask .stage .stopAll) = some (r', [])) :
      Calls now r r' going stopped (some (.ask .stage .stopAll)) none
  /-- It is the registry's own or a guest's. -/
  | foreign (m : Registry.Move Party (Snapshot Float)) (os : List (Registry.Outcome Party))
      (hm : isForeign m = true) (h : r.step now m = some (r', os)) :
      Calls now r r' going stopped (some m) none

section

variable {now : Nat} {cancelled : Bool} {f g : Flow} {r r' : Subscribers} {going stopped : Prop}
  {m? : Option (Registry.Move Party (Snapshot Float))} {s? : Option (Snapshot Float)}

theorem Calls.imp {going' stopped' : Prop} (h : Calls now r r' going stopped m? s?)
    (hg : going → going') (hs : stopped → stopped') : Calls now r r' going' stopped' m? s? := by
  cases h with
  | nothing h => exact .nothing h
  | broadcast s hgoing h => exact .broadcast s (hg hgoing) h
  | giveUp hstopped h => exact .giveUp (hs hstopped) h
  | close h => exact .close h
  | foreign m os hm h => exact .foreign m os hm h

theorem Calls.same (h : Calls now r r' going stopped none s?) : r' = r := by
  cases h with
  | nothing h => exact h

theorem Calls.step {m : Registry.Move Party (Snapshot Float)}
    (h : Calls now r r' going stopped (some m) s?) : ∃ os, r.step now m = some (r', os) := by
  cases h with
  | broadcast s hgoing h => exact ⟨_, h⟩
  | giveUp hstopped h => exact ⟨_, h⟩
  | close h => exact ⟨_, h⟩
  | foreign m os hm h => exact ⟨_, h⟩

/-- What is asked to be broadcast is what the streaming stage takes, if no guest broadcasts. -/
theorem Calls.asked {m : Registry.Move Party (Snapshot Float)}
    (h : Calls now r r' going stopped (some m) s?)
    (hguests : ∀ n item, m ≠ .ask (.guest n) (.broadcast item)) :
    (m.waiter?.bind fun w => w.2.item?) = s? := by
  cases h with
  | broadcast | giveUp | close => rfl
  | foreign m os hm h =>
    cases m with
    | ask task request =>
      cases task with
      | stage => cases hm
      | guest n =>
        cases request with
        | broadcast item => exact absurd rfl (hguests n item)
        | subscribe | remove | stopAll | count => rfl
    | draw | grant | deliver | skip | finish | cancel | receive | drop => rfl

/-- Then only the streaming stage asks to broadcast, and only while it goes on. -/
theorem Calls.of_ask {task : Party} {item : Snapshot Float}
    (h : Calls now r r' going stopped (some (.ask task (.broadcast item))) s?)
    (hguests : ∀ n, task ≠ .guest n) : task = .stage ∧ going := by
  cases h with
  | broadcast s hgoing h => exact ⟨rfl, hgoing⟩
  | foreign m os hm h =>
    cases task with
    | stage => cases hm
    | guest n => exact absurd rfl (hguests n)

theorem Calls.of_cancel (h : Calls now r r' going stopped (some (.cancel .stage)) s?) : stopped := by
  cases h with
  | giveUp hstopped h => exact hstopped
  | foreign m os hm h => cases hm

theorem calls_of_stepStreaming {move : Consumer.Move} {es : List Event}
    (h : f.stepStreaming now cancelled r move = some (g, r', es)) :
    Calls now r r' f.streaming.IsAtWork (¬g.streaming.IsAtWork)
      (f.registryMove? (.streaming move)) (f.begun? .streaming (.streaming move)) := by
  obtain ⟨input, streaming, input', events, hi, hc, hs⟩ := streamed_of_step h
  have he := Consumer.effect_of_step hc
  have hbegun : ∀ m, f.begun? .streaming (.streaming m) = Consumer.taken? input m := by
    intro m
    exact begun?_of_some rfl hi
  rw [hbegun]
  cases hs with
  | observed | finished | delivered | checked | looked | abandoned => exact .nothing rfl
  | received s r' hand hask =>
    cases he with
    | receive s' _ hs hwk hp =>
      cases hand
      have htaken : Consumer.taken? input .receive = some s := by
        simp only [Consumer.taken?, hp]
      rw [registryMove?, hbegun, htaken]
      exact .broadcast s (.inl hs) (by rw [Registry.step, hask]; rfl)
  | expired | crashed => exact .giveUp (he.not_isAtWork rfl) rfl

/-- **A step of the flow calls the registry once, at most.** -/
theorem calls_of_step {move : Move} {out : List Outcome}
    (h : f.step now cancelled r move = some (g, r', out)) :
    Calls now r r' f.streaming.IsAtWork (¬g.streaming.IsAtWork)
      (f.registryMove? move) (f.begun? .streaming move) := by
  cases effect_of_step h with
  | serveEnds | tick | bring | breakOff | join | aggregate | relay | storage | saveEnds =>
    rw [begun?_of_none rfl]
    exact .nothing rfl
  | streaming m g r' es hs => exact calls_of_stepStreaming hs
  | close how r' hc he hh ha =>
    rw [begun?_of_none rfl]
    exact .close (by rw [Registry.step, ha]; rfl)
  | subscribers m r' os hm hs =>
    rw [begun?_of_none rfl]
    exact .foreign m os hm hs

theorem closing_of_note {os : List (Registry.Outcome Party)} (h : (f.note os).1.closing = .done) :
    f.closing = .done ∨ .done .stage .stopped ∈ os := by
  induction os generalizing f with
  | nil => exact .inl h
  | cons o os ih =>
    cases o with
    | event e => exact (ih h).imp_right (List.mem_cons_of_mem _)
    | done task answer =>
      cases task with
      | guest n => exact (ih h).imp_right (List.mem_cons_of_mem _)
      | stage =>
        rcases ih h with hd | hmem
        · cases answer with
          | stopped => exact .inr List.mem_cons_self
          | subscribed | removed | delivered | counted => exact .inl hd
        · exact .inr (List.mem_cons_of_mem _ hmem)

/-- The streaming stage has closed the subscriptions only when they have ended. -/
theorem closed_of_step {move : Move} {out : List Outcome}
    (hI : f.closing = .done → r.stopped = true)
    (h : f.step now cancelled r move = some (g, r', out)) :
    g.closing = .done → r'.stopped = true := by
  have hkeep : r.stopped = true → r'.stopped = true := by
    intro hstopped
    cases hm : f.registryMove? move with
    | none =>
      have hcalls := calls_of_step h
      rw [hm] at hcalls
      exact hcalls.same ▸ hstopped
    | some m =>
      have hcalls := calls_of_step h
      rw [hm] at hcalls
      obtain ⟨os, hs⟩ := hcalls.step
      exact (Registry.stopped_of_effect (Registry.effect_of_step hs)).mpr (.inl hstopped)
  intro hd
  cases effect_of_step h with
  | serveEnds | tick | bring | breakOff | join | aggregate | relay | saveEnds => exact hI hd
  | storage m g es hs => exact hI ((closing_of_stepStorage hs).symm.trans hd)
  | streaming m g r' es hs => exact hkeep (hI ((closing_of_stepStreaming hs).symm.trans hd))
  | close => cases hd
  | subscribers m r' os hm hs =>
    rcases closing_of_note hd with hd | hmem
    · exact hkeep (hI hd)
    · exact Registry.stopped_of_answer (Registry.effect_of_step hs) hmem

end

end Flow

/-! ## 2. The course of the registry -/

namespace Exporter

/-- The move of the registry that a step makes. -/
def Step.registryMove? (t : Step) : Option (Registry.Move Party (Snapshot Float)) :=
  match t.move, t.before.flow with
  | .flow move, some f => f.registryMove? move
  | .guest move, _ => some move
  | _, _ => none

/-- The step of the registry that a step of the exporter is. -/
def Step.registryStep? (t : Step) : Option (Registry.Step Party (Snapshot Float)) := do
  let m ← t.registryMove?
  let (r, os) ← t.before.subscribers.step t.now m
  return ⟨t.now, t.before.subscribers, m, r, os⟩

/-- The course of the registry within a course of the exporter. -/
def registrySteps (ts : List Step) : List (Registry.Step Party (Snapshot Float)) :=
  ts.filterMap Step.registryStep?

/-- The streaming stage has stopped its work: it takes and broadcasts nothing more. -/
def StreamingStopped (x : Exporter) : Prop :=
  ∃ f, x.flow = some f ∧ ¬f.streaming.IsAtWork

section

variable {settings : Flow.Settings} {subscribers : Flow.Subscribers} {now start : Nat}
  {x y : Exporter} {move : Move} {out : List Outcome} {ts : List Step}

theorem registrySteps_snoc (ts : List Step) (t : Step) :
    registrySteps (ts ++ [t]) = registrySteps ts ++ t.registryStep?.toList :=
  filterMap_snoc _ ts t

/-- **What a step of the exporter does to the registry.** -/
theorem calls_of_effect (he : Effect now x move y out) :
    Flow.Calls now x.subscribers y.subscribers (¬x.StreamingStopped) y.StreamingStopped
      (Step.registryMove? ⟨now, x, move, y, out⟩)
      (Step.begun? .streaming ⟨now, x, move, y, out⟩) := by
  cases he with
  | begin | turnAway | stop | bound | unbound | bindCrashed | seeShutdown | serveReturned
  | serveStopped | serveCrashed | serveFailed | collect | conclude => exact .nothing rfl
  | flow _ m f g r os hm hf h =>
    have hcalls : Flow.Calls now x.subscribers r (¬x.StreamingStopped)
        (StreamingStopped { x with flow := some g, subscribers := r }) (f.registryMove? m)
        (f.begun? .streaming m) := by
      refine (Flow.calls_of_step h).imp (fun hgoing hstopped => ?_) fun hstopped => ⟨g, rfl, hstopped⟩
      obtain ⟨f', hf', hstopped⟩ := hstopped
      rw [hf] at hf'
      cases hf'
      exact hstopped hgoing
    rcases hm with rfl | ⟨m', rfl, rfl⟩
    · rw [Step.registryMove?, Step.begun?, Step.flowMove?, hf]
      exact hcalls
    · rw [Flow.begun?_of_none rfl] at hcalls
      exact hcalls
  | guest m r os _ hf hm h ho => exact .foreign m os hm h

/-- The step of the registry, if there is one. -/
theorem registryStep?_of_effect (he : Effect now x move y out) :
    (Step.registryMove? ⟨now, x, move, y, out⟩ = none ∧
        Step.registryStep? ⟨now, x, move, y, out⟩ = none ∧ y.subscribers = x.subscribers) ∨
      ∃ m os, Step.registryMove? ⟨now, x, move, y, out⟩ = some m ∧
        Step.registryStep? ⟨now, x, move, y, out⟩ =
          some ⟨now, x.subscribers, m, y.subscribers, os⟩ ∧
        x.subscribers.step now m = some (y.subscribers, os) := by
  have hcalls := calls_of_effect he
  cases hm : Step.registryMove? ⟨now, x, move, y, out⟩ with
  | none =>
    rw [hm] at hcalls
    exact .inl ⟨rfl, by rw [Step.registryStep?, hm]; rfl, hcalls.same⟩
  | some m =>
    rw [hm] at hcalls
    obtain ⟨os, hs⟩ := hcalls.step
    refine .inr ⟨m, os, rfl, ?_, hs⟩
    rw [Step.registryStep?, hm, Option.bind_eq_bind, Option.bind_some, hs]
    rfl

/-- **A course of the exporter holds a course of the registry.** -/
theorem registry_course (h : Course Exporter.step start (new settings subscribers) ts now x) :
    Course Registry.step start subscribers (registrySteps ts) now x.subscribers := by
  induction h with
  | start => exact .start
  | wait _ hle ih => exact ih.wait hle
  | step _ hs ih =>
    rw [registrySteps_snoc]
    rcases registryStep?_of_effect (effect_of_step hs) with ⟨-, hnone, hsame⟩ | ⟨m, os, -, hsome, hr⟩
    · rw [hnone, Option.toList_none, List.append_nil, hsame]
      exact ih
    · rw [hsome]
      exact ih.step hr

end

/-! ## 3. Broadcasts of the run -/

/-- No guest broadcasts. -/
def GuestsListen (ts : List Step) : Prop :=
  ∀ t ∈ registrySteps ts, ∀ n item, t.move ≠ .ask (.guest n) (.broadcast item)

/-- **What the course of the registry has to do with that of the exporter.** -/
structure Broadcasts (ts : List Step) (x : Exporter) : Prop where
  /-- The streaming stage gives up its broadcast only when it stops its work. -/
  stopped : (∃ t ∈ registrySteps ts, t.move = .cancel .stage) → x.StreamingStopped
  /-- It broadcasts what it takes, and no one else broadcasts. -/
  asked : GuestsListen ts → Registry.asked (registrySteps ts) = begun .streaming ts ∧
    Registry.BroadcastBy .stage (registrySteps ts)
  /-- When it has closed the subscriptions, they have ended. -/
  closed : ∀ f, x.flow = some f → f.closing = .done → x.subscribers.stopped = true

section

variable {settings : Flow.Settings} {buffer : Nat} {policy : DeliveryPolicy} {now start : Nat}
  {x y : Exporter} {move : Move} {out : List Outcome} {ts : List Step}

theorem broadcasts_start (settings : Flow.Settings) (subscribers : Flow.Subscribers) :
    Broadcasts [] (new settings subscribers) where
  stopped h := by
    obtain ⟨t, ht, -⟩ := h
    cases ht
  asked _ := ⟨rfl, fun t ht => absurd ht List.not_mem_nil, .nil⟩
  closed f hf := by cases hf

theorem StreamingStopped.step (h : x.StreamingStopped) (hu : x.progress.isBound = false → x.flow = none)
    (he : Effect now x move y out) : y.StreamingStopped := by
  obtain ⟨f, hf, hstopped⟩ := h
  obtain ⟨g, hg, hlater⟩ := later_of_effect hu he hf
  exact ⟨g, hg, mt (hlater.working .streaming) hstopped⟩

/-- What closes the subscriptions is seen in the flow. -/
theorem Broadcasts.closed_step (h : Broadcasts ts x) (he : Effect now x move y out) :
    ∀ f, y.flow = some f → f.closing = .done → y.subscribers.stopped = true := by
  intro g hg hd
  cases onFlow_of_effect he with
  | starts call hp hm hy hr ho =>
    rw [hy] at hg
    cases hg
    cases hd
  | moves m f g' os hm hf hy hs ho =>
    rw [hy] at hg
    cases hg
    exact Flow.closed_of_step (h.closed f hf) hs hd
  | guest m os hm hi hx hy =>
    rw [hy] at hg
    cases hg
  | beside k hm hy hk hr ho =>
    rw [hy] at hg
    obtain ⟨f, hf, rfl⟩ := Option.map_eq_some_iff.mp hg
    obtain ⟨serving, scraping, scrapes, hkf⟩ := hk f
    rw [hkf] at hd
    rw [hr]
    exact h.closed f hf hd

theorem GuestsListen.of_snoc {t : Step} (h : GuestsListen (ts ++ [t])) : GuestsListen ts := by
  intro u hu
  refine h u ?_
  rw [registrySteps_snoc]
  exact List.mem_append_left _ hu

/-- **Every step keeps the two courses together.** -/
theorem broadcasts_step (h : Broadcasts ts x) (hu : x.progress.isBound = false → x.flow = none)
    (he : Effect now x move y out) : Broadcasts (ts ++ [⟨now, x, move, y, out⟩]) y := by
  have hcalls := calls_of_effect he
  have hbegun : begun .streaming (ts ++ [⟨now, x, move, y, out⟩]) = begun .streaming ts ++
      (Step.begun? .streaming ⟨now, x, move, y, out⟩).toList := filterMap_snoc _ ts _
  rcases registryStep?_of_effect he with ⟨hm, hnone, -⟩ | ⟨m, os, hm, hsome, -⟩
  · rw [hm] at hcalls
    have hsame : registrySteps (ts ++ [⟨now, x, move, y, out⟩]) = registrySteps ts := by
      rw [registrySteps_snoc, hnone]
      exact List.append_nil _
    refine ⟨fun hgone => (h.stopped (hsame ▸ hgone)).step hu he, fun hlisten => ?_, h.closed_step he⟩
    have hnothing : Step.begun? .streaming ⟨now, x, move, y, out⟩ = none := by
      generalize Step.begun? .streaming ⟨now, x, move, y, out⟩ = s? at hcalls
      cases hcalls with
      | nothing => rfl
    rw [hsame, hbegun, hnothing, Option.toList_none, List.append_nil]
    exact h.asked hlisten.of_snoc
  · rw [hm] at hcalls
    have hmore : registrySteps (ts ++ [⟨now, x, move, y, out⟩]) =
        registrySteps ts ++ [⟨now, x.subscribers, m, y.subscribers, os⟩] := by
      rw [registrySteps_snoc, hsome]
      rfl
    refine ⟨fun hgone => ?_, fun hlisten => ?_, h.closed_step he⟩
    · obtain ⟨u, hmem, hcancel⟩ := hgone
      rw [hmore, List.mem_append, List.mem_singleton] at hmem
      rcases hmem with hmem | rfl
      · exact (h.stopped ⟨u, hmem, hcancel⟩).step hu he
      · cases hcancel
        exact hcalls.of_cancel
    · obtain ⟨hasked, honly, hlast⟩ := h.asked hlisten.of_snoc
      have hguests : ∀ n item, m ≠ .ask (.guest n) (.broadcast item) := by
        refine hlisten ⟨now, x.subscribers, m, y.subscribers, os⟩ ?_
        rw [hmore]
        exact List.mem_concat_self ..
      have hgoing : ∀ task item, m = .ask task (.broadcast item) →
          task = .stage ∧ ¬x.StreamingStopped := by
        intro task item e
        rw [e] at hcalls
        exact hcalls.of_ask fun n hn => hguests n item (hn ▸ e)
      rw [hmore]
      refine ⟨?_, fun u hmem task item e => ?_, List.pairwise_append.mpr ⟨hlast,
        List.pairwise_singleton .., fun u hmem v hv hcancel task item e => ?_⟩⟩
      · rw [Registry.asked_snoc, hasked, hbegun, ← hcalls.asked hguests]
      · rcases List.mem_append.mp hmem with hmem | hmem
        · exact honly u hmem task item e
        · cases List.mem_singleton.mp hmem
          exact (hgoing task item e).1
      · cases List.mem_singleton.mp hv
        exact (hgoing task item e).2 (h.stopped ⟨u, hmem, hcancel⟩)

theorem broadcasts_of_course {subscribers : Flow.Subscribers}
    (h : Course Exporter.step start (new settings subscribers) ts now x) : Broadcasts ts x := by
  induction h with
  | start => exact broadcasts_start settings subscribers
  | wait _ _ ih => exact ih
  | step h hs ih =>
    have hI : Follows .streaming _ _ := follows_of_course h
    exact broadcasts_step ih hI.unbound (effect_of_step hs)

/-! ## 4. When the run has returned -/

/-- **What subscribers find when the run has returned.** -/
structure Released (policy : DeliveryPolicy) (ts : List Step) (x : Exporter) : Prop where
  /-- No subscription is registered, and none will be. -/
  empty : x.subscribers.registered = []
  stopped : x.subscribers.stopped = true
  /-- Every subscription, an earlier or a later one, yields what is buffered in it, and then its
  end. -/
  ends : ∀ id ∈ Registry.handedOut (registrySteps ts), ∃ c, x.subscribers.channel? id = some c ∧
    c.Yields c.items
  /-- If no one else broadcasts, and broadcasts wait for as long as it takes, a subscriber that
  keeps its receiver gets a run of the snapshots without a gap. -/
  gapless : policy = .block → GuestsListen ts → ∀ id c, x.subscribers.channel? id = some c →
    c.receiverAlive = true → Registry.taken id (registrySteps ts) ++ c.items <:+: placed ts

/-- **No subscriber is left hanging.** On every course from a new exporter, whatever guests do to
the registry and in whatever order: once a run has returned its report, and if the streaming stage
has drained or was abandoned, its broadcast blocked or not, then all subscriptions have come to
their end. -/
theorem subscribers_released
    (h : Course Exporter.step start (new settings (Registry.new buffer policy)) ts now x)
    (hret : ∃ call report, .returned call (.ok report) ∈ outcomes ts)
    (hended : ∀ f crash, x.flow = some f → f.endingOf .streaming ≠ some (.crashed crash)) :
    Released policy ts x := by
  obtain ⟨call, report, hret⟩ := hret
  have hregistry := registry_course h
  have hliving := Registry.living_of_course hregistry
  have hbroadcasts := broadcasts_of_course h
  obtain ⟨f, done, hf, hall, hover, -⟩ := (learning_of_course h).reported call report hret
  have hdone : f.closing = .done := by
    have hstreaming : f.isOver .streaming = true := by
      refine hover .streaming ?_
      rw [List.append_nil] at hall
      rw [← hall]
      decide
    unfold Flow.isOver at hstreaming
    simp only at hstreaming
    split at hstreaming
    · rename_i crash hcrash
      exact absurd hcrash (hended f crash hf)
    · exact beq_iff_eq.mp hstreaming
    · cases hstreaming
  have hstopped := hbroadcasts.closed f hf hdone
  have hempty := hliving.tied.shut hstopped
  refine ⟨hempty, hstopped, fun id hid => ?_, fun hp hlisten id c hc halive => ?_⟩
  · obtain ⟨hw, hc⟩ := hliving.out id hid
    obtain ⟨c, hc⟩ := Option.ne_none_iff_exists'.mp hc
    refine ⟨c, hc, Channel.yields_of_closed ?_⟩
    rw [Bool.eq_false_iff]
    intro hopen
    rcases (hliving.tied.senders id c hc).mp hopen with hw' | hmem
    · omega
    · rw [hempty] at hmem
      cases hmem
  · subst hp
    obtain ⟨hasked, honly⟩ := hbroadcasts.asked hlisten
    have hrun := Registry.accepted_infix_asked hregistry honly hc halive
    rw [hasked] at hrun
    have horder : Follows .streaming ts x := follows_of_course h
    exact hrun.trans horder.order.2.isInfix

end

/-- Two subscribers come, and the second one never receives; a third one waits for the lock when
the streaming stage gives up the second snapshot. -/
def stalledRun : List (Nat × Move) :=
  [(0, .run 0), (0, .guest .draw), (0, .guest (.ask (.guest 1) (.subscribe 1))),
    (0, .guest .grant), (0, .bind (.ok ())), (1, .guest .draw),
    (1, .guest (.ask (.guest 2) (.subscribe 2))), (1, .guest .grant), (50, .flow .tick),
    (60, .flow (.scrapeEnds 0 (.brought ⟨⟨⟨0⟩, {}⟩, []⟩))),
    (60, .flow (.join 0)), (100, .flow .tick),
    (100, .flow (.aggregate (.fire ⟨100⟩))), (100, .flow (.aggregate .send)),
    (100, .flow (.relay .read)), (100, .flow (.relay (.offer 1))),
    (100, .flow (.relay (.offer 0))), (100, .flow (.relay .settle)),
    (101, .flow (.storage .receive)), (101, .flow (.streaming .receive)),
    (101, .guest .grant), (101, .guest .deliver), (101, .guest .deliver), (101, .guest .finish),
    (101, .flow (.streaming .complete)), (102, .flow (.saveEnds 0 .saved)),
    (102, .flow (.storage .complete)),
    (160, .flow (.scrapeEnds 1 (.brought ⟨⟨⟨100⟩, {}⟩, []⟩))),
    (200, .flow (.aggregate (.fire ⟨200⟩))), (200, .flow (.aggregate .send)),
    (201, .flow (.relay .read)), (201, .flow (.relay (.offer 1))),
    (201, .flow (.relay (.offer 0))), (201, .flow (.relay .settle)),
    (202, .flow (.storage .receive)), (202, .flow (.streaming .receive)), (202, .guest .grant),
    (203, .guest (.receive 1)), (203, .guest .deliver), (204, .guest .draw),
    (204, .guest (.ask (.guest 3) (.subscribe 3))), (210, .stop), (210, .seeShutdown),
    (210, .flow (.aggregate .halt)), (210, .flow (.storage .observe)),
    (210, .flow (.streaming .observe)), (211, .flow (.relay .read)),
    (300, .flow (.saveEnds 1 .saved)), (300, .flow (.storage .complete)),
    (300, .flow (.storage .finish)), (1210, .flow (.streaming .expire)),
    (1210, .flow (.streaming .look)), (1210, .flow (.streaming .abandon)), (1210, .flow .close),
    (1210, .guest .grant), (1210, .guest .grant), (1211, .collect), (1211, .collect),
    (1211, .conclude), (1212, .guest (.receive 2))]

/-- On that course all three subscriptions come to their end. -/
theorem subscribers_released_stalled :
    ∃ (ts : List Step) (now : Nat) (x : Exporter),
      Course Exporter.step 0 (new quickSettings (Registry.new 1 .block)) ts now x ∧
      (∃ call report, .returned call (.ok report) ∈ outcomes ts ∧
        report.abandoned = [.streaming]) ∧
      Registry.handedOut (registrySteps ts) = [1, 2, 3] ∧ (placed ts).length = 2 ∧
      (Registry.taken 1 (registrySteps ts)).length = 1 ∧ Released .block ts x := by
  have hrun : (drive Exporter.step 0 (new quickSettings (Registry.new 1 .block)) stalledRun).any
      (fun (ts, _, x) => (outcomes ts).any (Outcome.reports [.streaming]) &&
        Registry.handedOut (registrySteps ts) == [1, 2, 3] && (placed ts).length == 2 &&
        (Registry.taken 1 (registrySteps ts)).length == 1 &&
        x.flow.all fun f => f.endingOf .streaming == some .abandoned) = true := by
    decide +kernel
  obtain ⟨⟨ts, now, x⟩, hd, h⟩ := (Option.any_eq_true _ _).mp hrun
  simp only [Bool.and_eq_true, beq_iff_eq] at h
  obtain ⟨⟨⟨⟨hreports, hout⟩, hplaced⟩, htaken⟩, hend⟩ := h
  have hcourse := course_of_drive stalledRun hd
  obtain ⟨call, report, hret, hreport⟩ := exists_of_reports hreports
  refine ⟨ts, now, x, hcourse, ⟨call, report, hret, hreport⟩, hout, hplaced, htaken,
    subscribers_released hcourse ⟨call, report, hret⟩ fun f crash hf e => ?_⟩
  rw [hf, Option.all_some, beq_iff_eq, e] at hend
  cases hend

end Exporter

end Vitals
