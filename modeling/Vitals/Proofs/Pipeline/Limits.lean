import Vitals.CommandLine.Session
import Vitals.Proofs.Pipeline.Backlog
import Vitals.Proofs.Pipeline.Feeding
import Vitals.Proofs.Pipeline.Release
import Vitals.Proofs.Subscribers.Room

/-!
# Settings that the machine can bear

A channel has only so much room, and there are only so many instants. Settings are valid if nothing
is zero that must not be, however large it is. This file fixes

* `Settings.Moderate`, upper ends for the buffers and the intervals;
* `Exporter.WithinLimits`, an exporter whose channels and timers the machine can have;
* `Settings.CanBeRun`, what it takes that no run breaks off at a limit;
* the invariants of a course: the end of a window is no further ahead than the longest window
  (`Aggregation.Near`), and the next scrape no further than one interval (`Flow.Paced`).

Main statement: valid settings can be run with exactly if they are moderate
(`can_be_run_iff_moderate`). Settings that are valid and break off stand beside it
(`valid_settings_break_off`).
-/

namespace Vitals

/-! ## 1. What it takes to run -/

/-- The instants that clocks show end before `2 ^ 62` seconds. -/
def clockLimit : Nat :=
  4611686018427387904 * 1000000000

/-- A channel that the machine can make, with the room that was asked for. -/
structure Channel.Granted {α : Type} (asked : Nat) (c : Channel α) : Prop where
  capacity : c.capacity = asked
  pos : 0 < asked
  le : asked ≤ Channel.capacityLimit

/-- **An exporter that the machine can bear**, with the room that was asked for on the way to the
stages and for subscribers. -/
structure Exporter.WithinLimits (branch subscriber : Nat) (x : Exporter) : Prop where
  /-- Scrapes come one after another. -/
  period : 0 < x.settings.scrapeInterval.nanos
  input : ∀ f, x.flow = some f → f.fanOut.input.Granted branch
  stages : ∀ f stage input, x.flow = some f → f.inputOf stage = some input → input.Granted branch
  subscribers : ∀ id c, x.subscribers.channel? id = some c → c.Granted subscriber
  scrape : ∀ f, x.flow = some f → f.nextTick < instantLimit
  window : ∀ f deadline, x.flow = some f → deadline ∈ f.aggregator.due → deadline < instantLimit

namespace Settings

/-- The upper ends of what the machine can bear. -/
structure Moderate (s : Settings) : Prop where
  branchBuffer : s.snapshots.branchBuffer.toNat ≤ Channel.capacityLimit
  subscriberBuffer : s.snapshots.subscriberBuffer.toNat ≤ Channel.capacityLimit
  scrapeInterval : s.exporter.scrapeInterval.nanos ≤ clockLimit
  warmupInterval : s.snapshots.warmupInterval.nanos ≤ clockLimit
  snapshotInterval : s.snapshots.snapshotInterval.nanos ≤ clockLimit

instance (s : Settings) : Decidable s.Moderate :=
  decidable_of_iff (s.snapshots.branchBuffer.toNat ≤ Channel.capacityLimit ∧
    s.snapshots.subscriberBuffer.toNat ≤ Channel.capacityLimit ∧
    s.exporter.scrapeInterval.nanos ≤ clockLimit ∧ s.snapshots.warmupInterval.nanos ≤ clockLimit ∧
    s.snapshots.snapshotInterval.nanos ≤ clockLimit)
    ⟨fun ⟨hb, hs, ht, hw, hn⟩ => ⟨hb, hs, ht, hw, hn⟩,
      fun h => ⟨h.1, h.2, h.3, h.4, h.5⟩⟩

/-- **Settings that can be run with.** -/
structure CanBeRun (s : Settings) : Prop where
  /-- From any instant on, neither a channel nor the next scrape nor the next window is beyond a
  limit, -/
  fits : ∀ now deadline, now < clockLimit → deadline < clockLimit → s.fits now deadline = true
  /-- so it is in every state of every run, -/
  sustained : ∀ start ts now x, Course Exporter.step start s.newExporter ts now x →
    now < clockLimit → x.WithinLimits s.snapshots.branchBuffer.toNat
      s.snapshots.subscriberBuffer.toNat
  /-- and no session breaks off. -/
  completes : ∀ interrupt, CommandLine.interrupted s interrupt ≠ some .brokenOff

end Settings

/-! ## 2. Windows -/

namespace Aggregation

variable {ν : Type} [Averageable ν]

/-- **How far ahead the end of a window lies.** -/
structure Near (warmup steady : Duration) (now : Nat) (s : Aggregation ν) : Prop where
  lengths : s.aggregator.warmup = warmup ∧ s.aggregator.steady = steady
  waiting : ∀ deadline, s.aggregator.stand = .waiting deadline →
    deadline ≤ now + max warmup.nanos steady.nanos
  sending : ∀ snapshot deadline, s.aggregator.stand = .sending snapshot deadline → deadline ≤ now

section

variable {warmup steady : Duration} {now later start capacity : Nat} {s t : Aggregation ν}
  {move : Move ν} {ts : List (Step ν)}

omit [Averageable ν] in
theorem Near.length_le (h : Near warmup steady now s) (phase : WindowPhase) :
    s.aggregator.length phase ≤ max warmup.nanos steady.nanos := by
  rw [← h.lengths.1, ← h.lengths.2]
  cases phase
  · exact Nat.le_max_left ..
  · exact Nat.le_max_right ..

omit [Averageable ν] in
theorem Near.mono (h : Near warmup steady now s) (hle : now ≤ later) :
    Near warmup steady later s :=
  ⟨h.lengths, fun d hd => Nat.le_trans (h.waiting d hd) (Nat.add_le_add_right hle _),
    fun x d hd => Nat.le_trans (h.sending x d hd) hle⟩

/-- **Every step keeps the invariant**: a window that ends is over, and the next one begins where it
ended. -/
theorem near_of_effect (h : Near warmup steady now s) (he : Effect now s move t) :
    Near warmup steady now t := by
  cases he with
  | push | receive | drop | cancel => exact ⟨h.lengths, h.waiting, h.sending⟩
  | pass stamp deadline hc hs hd hp =>
    refine ⟨h.lengths, fun d hd' => ?_, nofun⟩
    cases hd'
    exact Nat.add_le_add hd (h.length_le _)
  | close stamp deadline hc hs hd hp =>
    refine ⟨h.lengths, nofun, fun x d hd' => ?_⟩
    cases hd'
    exact hd
  | place snapshot deadline rest hc hs ho =>
    refine ⟨h.lengths, fun d hd => ?_, nofun⟩
    cases hd
    exact Nat.add_le_add (h.sending snapshot deadline hs) (h.length_le .steady)
  | refuse | halt => exact ⟨h.lengths, nofun, nofun⟩

theorem near_of_course
    (h : Course Aggregation.step start (Aggregation.start warmup steady capacity start) ts now s) :
    Near warmup steady now s := by
  induction h with
  | start =>
    refine ⟨⟨rfl, rfl⟩, fun d hd => ?_, nofun⟩
    cases hd
    exact Nat.add_le_add_left (Nat.le_max_left ..) _
  | step _ hs ih => exact near_of_effect ih (effect_of_step hs)
  | wait _ hle ih => exact ih.mono hle

end

end Aggregation

/-! ## 3. Scrapes -/

namespace Flow

/-- **How far ahead the next scrape lies.** -/
structure Paced (settings : Settings) (now : Nat) (f : Flow) : Prop where
  same : f.settings = settings
  near : f.nextTick ≤ now + settings.scrapeInterval.nanos

section

variable {settings : Settings} {now later : Nat} {cancelled : Bool} {f g : Flow}
  {r r' : Subscribers} {move : Move} {out : List Outcome}

theorem paced_start (settings : Settings) (now : Nat) :
    (Flow.start settings now).Paced settings now :=
  ⟨rfl, Nat.le_refl _⟩

theorem Paced.mono (h : f.Paced settings now) (hle : now ≤ later) : f.Paced settings later :=
  ⟨h.same, Nat.le_trans h.near (Nat.add_le_add_right hle _)⟩

theorem Paced.beside (h : f.Paced settings now) (hb : f.Beside g) : g.Paced settings now := by
  obtain ⟨serving, scraping, scrapes, rfl⟩ := hb
  exact ⟨h.same, h.near⟩

/-- **Every step keeps the pace**: a scrape that starts puts the next one off by one interval. -/
theorem paced_of_step (h : f.Paced settings now)
    (hs : f.step now cancelled r move = some (g, r', out)) : g.Paced settings now := by
  cases effect_of_step hs with
  | serveEnds | bring | breakOff | join | aggregate | relay | saveEnds | close =>
    exact ⟨h.same, h.near⟩
  | tick hs ht =>
    have hfrom : f.tickFrom now ≤ now := by
      unfold tickFrom
      split
      · exact Nat.le_refl _
      · exact ht
    refine ⟨h.same, ?_⟩
    show f.tickFrom now + f.settings.scrapeInterval.nanos ≤ _
    rw [h.same]
    exact Nat.add_le_add_right hfrom _
  | storage m g es hm =>
    obtain ⟨_, _, _, _, _, rfl⟩ := storage_only hm
    exact ⟨h.same, h.near⟩
  | streaming m g r' es hm =>
    obtain ⟨_, _, _, rfl⟩ := streaming_only hm
    exact ⟨h.same, h.near⟩
  | subscribers m r' os hm hs =>
    obtain ⟨delivered, closing, e⟩ := note_only f os
    rw [e]
    exact ⟨h.same, h.near⟩

end

end Flow

/-! ## 4. Courses -/

namespace Exporter

section

variable {settings : Flow.Settings} {subscribers : Flow.Subscribers} {start now : Nat}
  {x y : Exporter} {move : Move} {out : List Outcome} {ts : List Step} {f : Flow}

theorem paced_of_effect (hx : x.settings = settings)
    (h : ∀ f, x.flow = some f → f.Paced settings now) (he : Effect now x move y out) :
    ∀ g, y.flow = some g → g.Paced settings now := by
  intro g hg
  cases onFlow_of_effect he with
  | starts call hp hm hf =>
    rw [hf, hx] at hg
    cases hg
    exact Flow.paced_start settings now
  | moves m f g' os hm hf hg' hs =>
    cases hg'.symm.trans hg
    exact Flow.paced_of_step (h f hf) hs
  | guest m os hm hi hx' hy => exact nomatch hy.symm.trans hg
  | beside k hm hf hk =>
    rw [hf] at hg
    obtain ⟨f, hf', rfl⟩ := Option.map_eq_some_iff.mp hg
    exact (h f hf').beside (hk f)

/-- The next scrape is never further ahead than one interval, -/
theorem paced_of_course (h : Course Exporter.step start (new settings subscribers) ts now x) :
    ∀ f, x.flow = some f → f.Paced settings now := by
  induction h with
  | start => exact fun f hf => nomatch hf
  | step h hs ih => exact paced_of_effect (feeds_of_course h).same ih (effect_of_step hs)
  | wait _ hle ih => exact fun f hf => (ih f hf).mono hle

/-- and the end of the window not further than the longest window. -/
theorem due_of_course (h : Course Exporter.step start (new settings subscribers) ts now x)
    (hf : x.flow = some f) {deadline : Nat} (hd : deadline ∈ f.aggregator.due) :
    deadline ≤ now + max settings.warmup.nanos settings.steady.nanos := by
  obtain ⟨began, us, hcourse, -⟩ := (feeds_of_course h).flow f hf
  refine (Aggregation.near_of_course hcourse).waiting deadline ?_
  show f.aggregator.stand = _
  unfold Aggregator.due at hd
  split at hd
  · rename_i d hs
    rw [List.mem_singleton.mp hd]
    exact hs
  · cases hd

/-- The channels on the way to a stage have the room that was asked for. -/
theorem capacity_of_course (h : Course Exporter.step start (new settings subscribers) ts now x)
    (hf : x.flow = some f) :
    f.fanOut.input.capacity = max settings.branchBuffer 1 ∧
      ∀ stage input, f.inputOf stage = some input →
        input.capacity = max settings.branchBuffer 1 := by
  have hway : ∀ stage, ∃ w, f.way stage = some w ∧
      w.Fits (max settings.branchBuffer 1) (missed stage ts) := by
    intro stage
    have hI : Follows stage ts x := follows_of_course h
    rcases hI.passes with ⟨hnone, -⟩ | ⟨w, hw, -⟩
    · exact nomatch hnone.symm.trans hf
    · exact ⟨w, (way_of_flow hf).symm.trans hw, (holds_of_course h).fits w hw⟩
  refine ⟨?_, fun stage input hi => ?_⟩
  · obtain ⟨w, hw, hfits⟩ := hway .storage
    obtain ⟨-, hlane, -⟩ := Flow.way_eq_some_iff.mp hw
    rw [(FanOut.lane_eq_some_iff.mp hlane).1]
    exact hfits.input.capacity
  · obtain ⟨w, hw, hfits⟩ := hway stage
    obtain ⟨-, hlane, -⟩ := Flow.way_eq_some_iff.mp hw
    rw [Flow.inputOf, (FanOut.lane_eq_some_iff.mp hlane).2.2] at hi
    cases hi
    exact hfits.output.capacity

end

end Exporter

/-! ## 5. Settings -/

namespace Settings

variable {s : Settings}

theorem isSome_instantAfter? (now : Nat) (d : Duration) :
    (instantAfter? now d).isSome = true ↔ now + d.nanos < instantLimit := by
  unfold instantAfter?
  split
  · rename_i h
    exact iff_of_true rfl h
  · rename_i h
    exact iff_of_false (by decide) h

theorem canStart_iff (s : Settings) (now : Nat) :
    s.canStart now = true ↔ s.snapshots.branchBuffer.toNat ≤ Channel.capacityLimit ∧
      now + s.exporter.scrapeInterval.nanos < instantLimit := by
  rw [canStart, Bool.and_eq_true, decide_eq_true_eq, isSome_instantAfter?]

theorem fits_iff (s : Settings) (now deadline : Nat) :
    s.fits now deadline = true ↔ s.canStart now = true ∧
      s.snapshots.subscriberBuffer.toNat ≤ Channel.capacityLimit ∧
      deadline + s.snapshots.warmupInterval.nanos < instantLimit ∧
      deadline + s.snapshots.snapshotInterval.nanos < instantLimit := by
  simp only [fits, Bool.and_eq_true, decide_eq_true_eq, isSome_instantAfter?, and_assoc]

/-- Below the limit of clocks, what lies within a further clock limit is an instant, -/
theorem lt_instantLimit {now d : Nat} (hnow : now < clockLimit) (hd : d ≤ clockLimit) :
    now + d < instantLimit := by
  simp only [clockLimit, instantLimit] at *
  omega

/-- and from the last instant that clocks show, nothing else. -/
theorem le_clockLimit {d : Nat} (h : clockLimit - 1 + d < instantLimit) : d ≤ clockLimit := by
  simp only [clockLimit, instantLimit] at *
  omega

/-- What valid settings have more than nothing of. -/
theorem pos_of_valid (h : s.validate = .ok s) :
    0 < s.snapshots.branchBuffer.toNat ∧ 0 < s.snapshots.subscriberBuffer.toNat ∧
      0 < s.exporter.scrapeInterval.nanos := by
  obtain ⟨hzeros, -⟩ := (problem?_eq_none_iff s).mp ((validate_eq_ok_iff s s).mp h).2
  have hword : ∀ w : UInt64, (w == 0) = false → 0 < w.toNat := fun w hw =>
    Nat.pos_of_ne_zero fun e => beq_eq_false_iff_ne.mp hw (UInt64.toNat_inj.mp e)
  have hscrape := hzeros ("exporter.scrape_interval", s.exporter.scrapeInterval.isZero)
    (by simp [zeros])
  exact ⟨hword _ (hzeros ("snapshots.branch_buffer", _) (by simp [zeros])),
    hword _ (hzeros ("snapshots.subscriber_buffer", _) (by simp [zeros])),
    Nat.pos_of_ne_zero (beq_eq_false_iff_ne.mp hscrape)⟩

theorem moderate_of_fits
    (h : ∀ now deadline, now < clockLimit → deadline < clockLimit → s.fits now deadline = true) :
    s.Moderate := by
  have hlast : clockLimit - 1 < clockLimit := by decide
  obtain ⟨hstart, hs, hw, hn⟩ := (fits_iff s _ _).mp (h _ _ hlast hlast)
  obtain ⟨hb, ht⟩ := (canStart_iff s _).mp hstart
  exact ⟨hb, hs, le_clockLimit ht, le_clockLimit hw, le_clockLimit hn⟩

theorem Moderate.canStart (h : s.Moderate) {now : Nat} (hnow : now < clockLimit) :
    s.canStart now = true :=
  (canStart_iff s now).mpr ⟨h.branchBuffer, lt_instantLimit hnow h.scrapeInterval⟩

theorem Moderate.fits (h : s.Moderate) {now deadline : Nat} (hnow : now < clockLimit)
    (hd : deadline < clockLimit) : s.fits now deadline = true :=
  (fits_iff s now deadline).mpr ⟨h.canStart hnow, h.subscriberBuffer,
    lt_instantLimit hd h.warmupInterval, lt_instantLimit hd h.snapshotInterval⟩

/-- **No run with valid, moderate settings comes to a limit.** -/
theorem Moderate.withinLimits (h : s.Moderate) (hv : s.validate = .ok s) {start now : Nat}
    {ts : List Exporter.Step} {x : Vitals.Exporter}
    (hc : Course Exporter.step start s.newExporter ts now x) (hnow : now < clockLimit) :
    x.WithinLimits s.snapshots.branchBuffer.toNat s.snapshots.subscriberBuffer.toNat := by
  obtain ⟨hbranch, hsubscriber, hperiod⟩ := pos_of_valid hv
  have hwindow : max s.snapshots.warmupInterval.nanos s.snapshots.snapshotInterval.nanos ≤
      clockLimit := Nat.max_le.mpr ⟨h.warmupInterval, h.snapshotInterval⟩
  have hway : ∀ {c : Channel (Snapshot Float)},
      c.capacity = max s.snapshots.branchBuffer.toNat 1 →
      c.Granted s.snapshots.branchBuffer.toNat := fun hcap =>
    ⟨hcap.trans (Nat.max_eq_left hbranch), hbranch, h.branchBuffer⟩
  refine ⟨?_, fun f hf => ?_, fun f stage input hf hi => ?_, fun id c hid => ?_, fun f hf => ?_,
    fun f deadline hf hd => ?_⟩
  · rw [(Exporter.feeds_of_course hc).same]
    exact hperiod
  · exact hway (Exporter.capacity_of_course hc hf).1
  · exact hway ((Exporter.capacity_of_course hc hf).2 stage input hi)
  · have hcap := Registry.capacity_of_course (Exporter.registry_course hc) hid
    exact ⟨hcap.trans (Nat.max_eq_left hsubscriber), hsubscriber, h.subscriberBuffer⟩
  · exact Nat.lt_of_le_of_lt (Exporter.paced_of_course hc f hf).near
      (lt_instantLimit hnow h.scrapeInterval)
  · exact Nat.lt_of_le_of_lt (Exporter.due_of_course hc hf hd) (lt_instantLimit hnow hwindow)

/-- A session that can start does not break off. -/
theorem not_brokenOff_of_canStart (h : s.canStart 0 = true) (interrupt : Nat) :
    CommandLine.interrupted s interrupt ≠ some .brokenOff := by
  have hfault : ∀ fault, CommandLine.Ending.ofFault fault ≠ .brokenOff := by
    intro fault e
    have hcode : 1 = 101 := congrArg CommandLine.Ending.exitCode e
    cases hcode
  unfold CommandLine.interrupted
  split
  · exact fun e => hfault _ (Option.some.inj e)
  · rw [if_pos h]
    intro e
    obtain ⟨result, -, e⟩ := Option.map_eq_some_iff.mp e
    cases result with
    | error fault => exact hfault fault e
    | ok report =>
      have hcode := congrArg CommandLine.Ending.exitCode e
      simp only [CommandLine.Ending.ofResult, CommandLine.Ending.ofReport,
        CommandLine.Ending.brokenOff] at hcode
      split at hcode <;> cases hcode

/-- **Valid settings can be run with exactly if they are moderate.** That nothing is zero is not
enough: the buffers must be within the room that a channel can have, and the intervals within the
range of instants. Then no state of any run has a channel or a timer beyond the limits. -/
theorem can_be_run_iff_moderate (hv : s.validate = .ok s) : s.CanBeRun ↔ s.Moderate := by
  refine ⟨fun h => moderate_of_fits h.fits, fun h => ⟨fun now deadline => h.fits,
    fun start ts now x hc hnow => h.withinLimits hv hc hnow, fun interrupt => ?_⟩⟩
  exact not_brokenOff_of_canStart (h.canStart (by decide)) interrupt

/-- Settings at every limit. -/
def utmost : Settings where
  exporter := { scrapeInterval := .ofSeconds 4611686018427387904 }
  snapshots :=
    { warmupInterval := .ofSeconds 4611686018427387904
      snapshotInterval := .ofSeconds 4611686018427387904
      subscriberBuffer := 2305843009213693951
      branchBuffer := 2305843009213693951 }

theorem can_be_run_iff_moderate_utmost : utmost.validate = .ok utmost ∧ utmost.CanBeRun := by
  have hv : utmost.validate = .ok utmost := by decide +kernel
  exact ⟨hv, (can_be_run_iff_moderate hv).mpr (by decide +kernel)⟩

/-- Settings that ask for room for `2 ^ 61` snapshots, one more than there can be. -/
def vast : Settings where
  snapshots := { branchBuffer := 2305843009213693952 }

/-- **Validity is not enough.** Settings with one variable set are accepted, and the session breaks
off before anything is measured. -/
theorem valid_settings_break_off :
    CommandLine.prepare .missing (fun name =>
        if name = "EXPORTER_BRANCH_BUFFER" then some "2305843009213693952" else none) =
      .ok vast ∧ vast.validate = .ok vast ∧
      CommandLine.interrupted vast 0 = some .brokenOff ∧ ¬vast.CanBeRun := by
  refine ⟨rfl, by decide +kernel, by decide +kernel, fun h => ?_⟩
  exact absurd (moderate_of_fits h.fits) (by decide +kernel)

end Settings

end Vitals
