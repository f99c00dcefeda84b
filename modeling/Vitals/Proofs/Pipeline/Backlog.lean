import Vitals.Proofs.Pipeline.Passage

/-!
# How far a stage can fall behind

A stage that is slow, or stands still, holds the aggregator up: between the two there is only so
much room. This file fixes

* `Channel.Within`, a channel with a given room that holds no more than that;
* `Flow.Way.Fits`, the invariant of the way to a stage: both of its channels are within their room,
  nothing comes to a stage that has drained, and what it missed was in its channel;
* `Exporter.Abandoned`, a stage that ended before its input did.

Main statement: as long as a stage is not abandoned, the snapshots placed by the aggregator are
ahead of those that it has handled by no more than the two channels, the fan-out and the stage can
hold, and two such stages are never further apart than one channel, the fan-out and one stage
(`backlog_bounded`).
-/

namespace Vitals

/-! ## 1. Room -/

namespace Channel

variable {α : Type}

/-- The channel has room for `room` items, and holds no more. -/
structure Within (room : Nat) (c : Channel α) : Prop where
  capacity : c.capacity = room
  filled : c.items.length ≤ room

section

variable {room : Nat} {c d : Channel α} {a : α}

theorem within_new (room : Nat) : (Channel.new room : Channel α).Within (max room 1) :=
  ⟨rfl, Nat.zero_le _⟩

theorem Within.offer (h : c.Within room) (ho : c.offer a = .accepted d) : d.Within room := by
  have hd := (eq_of_offer ho).2
  have hcapacity : d.capacity = room := by
    rw [hd]
    exact h.capacity
  exact ⟨hcapacity, hcapacity ▸ length_items_le_of_offer ho⟩

theorem Within.poll (h : c.Within room) (ho : c.poll = .item a d) : d.Within room := by
  have hd := eq_of_poll ho
  have hcapacity : d.capacity = room := by
    rw [hd]
    exact h.capacity
  have hitems := congrArg List.length (items_eq_of_poll ho)
  rw [List.length_cons] at hitems
  have hfilled := h.filled
  exact ⟨hcapacity, by omega⟩

theorem Within.closeSender (h : c.Within room) : c.closeSender.Within room :=
  ⟨h.capacity, h.filled⟩

theorem Within.dropReceiver (h : c.Within room) : c.dropReceiver.Within room :=
  ⟨h.capacity, Nat.zero_le _⟩

end

end Channel

/-! ## 2. The invariant -/

namespace FanOut.Lane

variable {α : Type} {room : Nat} {l l' : Lane α}

/-- What the fan-out itself does leaves both channels within their room. -/
theorem within_of_relay (h : l.Relay l')
    (hi : l.input.Within room) (ho : l.branch.output.Within room) :
    l'.input.Within room ∧ l'.branch.output.Within room := by
  cases h with
  | elsewhere => exact ⟨hi, ho⟩
  | read a rest hp hpoll =>
    refine ⟨hi.poll hpoll, ?_⟩
    rw [Branch.output_begin]
    exact ho
  | finish hp hpoll => exact ⟨hi, ho.closeSender⟩
  | answer a b hp hb =>
    refine ⟨hi, ?_⟩
    unfold Branch.answer at hb
    split at hb
    · split at hb
      · rename_i c hoffer
        cases hb
        exact ho.offer hoffer
      · cases hb
      · cases hb
        exact ho
    · cases hb
  | settle a hp hb =>
    refine ⟨hi, ?_⟩
    unfold Branch.conclude
    split
    · exact ho
    · exact ho.closeSender
    · exact ho

/-- A fan-out that has finished does nothing more. -/
theorem Relay.phase_of_finished (h : l.Relay l') (hf : l.phase = .finished) :
    l'.phase = .finished := by
  cases h with
  | elsewhere => exact hf
  | read a rest hp | finish hp => exact nomatch hp.symm.trans hf
  | answer a b hp | settle a hp => exact nomatch hp.symm.trans hf

end FanOut.Lane

namespace Flow.Way

/-- **How much a way to a stage holds**, with `room` in each of its two channels. -/
structure Fits (room : Nat) (w : Way) (missed : List (Snapshot Float)) : Prop where
  input : w.lane.input.Within room
  output : w.lane.branch.output.Within room
  /-- A stage drains when the fan-out has finished. -/
  finished : w.consumer.ending? = some .drained → w.lane.phase = .finished
  missed : missed.length ≤ room

section

variable {room : Nat} {w w' : Way} {placed begun handled missed : List (Snapshot Float)}
  {p b d : Option (Snapshot Float)} {m : List (Snapshot Float)}

/-- **The stage keeps the invariant**: it misses no more than its channel holds. -/
theorem Fits.work {c : Consumer (Snapshot Float)} {output : Channel (Snapshot Float)}
    (hP : w.Passes placed begun handled missed) (h : w.Fits room missed)
    (hc : w.consumer.Handles w.lane.branch.output c output b d m) :
    { w.setOutput output with consumer := c }.Fits room (missed ++ m) := by
  cases hc with
  | turns he hh =>
    rw [List.append_nil]
    refine ⟨h.input, h.output, ?_, h.missed⟩
    show c.ending? = some .drained → _
    rw [he]
    exact h.finished
  | takes item _ hn hh hi hn' hh' =>
    rw [List.append_nil]
    exact ⟨h.input, h.output.poll hi, fun hd => (nomatch hn'.symm.trans hd), h.missed⟩
  | completes item hn hh hn' hh' =>
    rw [List.append_nil]
    exact ⟨h.input, h.output, fun hd => (nomatch hn'.symm.trans hd), h.missed⟩
  | ends how hn he hd =>
    refine ⟨h.input, h.output.dropReceiver, fun hdr => ?_, ?_⟩
    · obtain ⟨-, hclosed⟩ := hd (Option.some.inj (he.symm.trans hdr))
      exact hP.carries.sealed (hP.attended.mpr hn) hclosed
    · rw [hP.attentive (by simp [hn]), List.nil_append]
      split
      · exact h.output.filled
      · exact Nat.zero_le _

/-- **Every effect keeps the invariant.** -/
theorem fits_of_effect (hP : w.Passes placed begun handled missed) (h : w.Fits room missed)
    (he : w.Effect w' p b d m) : w'.Fits room (missed ++ m) := by
  cases he with
  | work c output _ _ _ hc => exact h.work hP hc
  | elsewhere | fire => simpa using ⟨h.input, h.output, h.finished, h.missed⟩
  | place s deadline stand c hs hne ho =>
    rw [List.append_nil]
    exact ⟨h.input.offer ho, h.output, h.finished, h.missed⟩
  | stop hs =>
    rw [List.append_nil]
    exact ⟨h.input.closeSender, h.output, h.finished, h.missed⟩
  | relay lane hr =>
    obtain ⟨hinput, houtput⟩ := FanOut.Lane.within_of_relay hr h.input h.output
    rw [List.append_nil]
    exact ⟨hinput, houtput, fun hd => hr.phase_of_finished (h.finished hd), h.missed⟩

/-- **What is not handled yet waits in front of the fan-out or fits behind it**: in the fan-out, in
the channel to the stage, and in its hand. -/
theorem Passes.waiting (hP : w.Passes placed begun handled missed) (h : w.Fits room missed)
    (hn : ∀ how, w.consumer.ending? = some how → how = .drained) :
    handled.length + w.lane.input.items.length ≤ placed.length ∧
      placed.length ≤ handled.length + w.lane.input.items.length + (room + 2) := by
  cases hend : w.consumer.ending? with
  | some how =>
    have hd : w.consumer.ending? = some .drained := by rw [hend, hn how hend]
    have hempty := (hP.carries.ended (h.finished hd)).1
    have hmissed := h.missed
    rw [(hP.drained hd).1, hempty, List.length_nil, List.length_append]
    omega
  | none =>
    have hline := congrArg List.length (hP.carries.line (hP.attended.mpr hend))
    have hbegun := congrArg List.length (hP.inHand hend)
    have howed := w.lane.branch.length_owed_le w.lane.phase
    have hhand : w.consumer.held?.toList.length ≤ 1 := by
      cases w.consumer.held? <;> simp
    have hfilled := h.output.filled
    simp only [List.length_append] at hline hbegun
    omega

end

end Flow.Way

/-! ## 3. Courses -/

namespace Exporter

/-- The stage ended before its input did: its grace was over, or its task broke off. -/
def Abandoned (x : Exporter) (stage : Stage) : Prop :=
  ∃ f how, x.flow = some f ∧ f.endingOf stage = some how ∧ how ≠ .drained

/-- **How much the way to a stage holds in the course of a run.** -/
structure Holds (settings : Flow.Settings) (stage : Stage) (ts : List Step) (x : Exporter) :
    Prop where
  same : x.settings = settings
  fits : ∀ w, x.way stage = some w → w.Fits (max settings.branchBuffer 1) (missed stage ts)

section

variable {settings : Flow.Settings} {subscribers : Flow.Subscribers} {now : Nat} {x y : Exporter}
  {move : Move} {out : List Outcome} {ts : List Step} {stage : Stage}

theorem fits_start (settings : Flow.Settings) (now : Nat) (stage : Stage) {w : Flow.Way}
    (hw : (Flow.start settings now).way stage = some w) :
    w.Fits (max settings.branchBuffer 1) [] := by
  cases stage <;> cases hw <;>
    exact ⟨Channel.within_new _, Channel.within_new _, nofun, Nat.zero_le _⟩

/-- **Every step keeps the invariant.** -/
theorem holds_step (hI : Follows stage ts x) (hH : Holds settings stage ts x)
    (h : Effect now x move y out) : Holds settings stage (ts ++ [⟨now, x, move, y, out⟩]) y := by
  refine ⟨(settings_of_effect h).trans hH.same, fun w' hw' => ?_⟩
  cases onFlow_of_effect h with
  | starts call hp hm hf hr ho =>
    -- nothing was missed before there was a flow
    have hmissed : missed stage ts = [] := by
      rcases hI.passes with ⟨-, -, -, -, hmissed⟩ | ⟨w, hw, -⟩
      · exact hmissed
      · rw [way_of_none (hI.unbound (by rw [hp]; rfl))] at hw
        cases hw
    obtain ⟨-, -, -, hsame⟩ := histories_of_other (t := ⟨now, x, move, y, out⟩) stage
      (flowMove?_of_ne fun m e => nomatch hm.symm.trans e) ts
    rw [way_of_flow hf, hH.same] at hw'
    rw [hsame, hmissed]
    exact fits_start settings now stage hw'
  | moves m f g os hm hf hg hs ho =>
    rcases hI.passes with ⟨hnone, -⟩ | ⟨w, hw, hP⟩
    · rw [hf] at hnone
      cases hnone
    · obtain ⟨v, hv, he⟩ := Flow.way_of_step hs ((way_of_flow hf).symm.trans hw)
      obtain ⟨-, -, -, hmissed⟩ := histories_of_flow (t := ⟨now, x, move, y, out⟩) stage hf hm
      rw [way_of_flow hg, hv] at hw'
      cases hw'
      rw [missed_snoc, hmissed]
      exact Flow.Way.fits_of_effect hP (hH.fits w hw) he
  | guest m os hm hi hx hy hs he =>
    rw [way_of_none hy] at hw'
    cases hw'
  | beside k hm hf hk hr he =>
    obtain ⟨-, -, -, hsame⟩ := histories_of_other (t := ⟨now, x, move, y, out⟩) stage
      (flowMove?_of_ne hm) ts
    rw [hsame]
    refine hH.fits w' ?_
    rw [← hw', way, way, hf]
    cases x.flow with
    | none => rfl
    | some f =>
      obtain ⟨serving, scraping, scrapes, hkf⟩ := hk f
      show f.way stage = (k f).way stage
      rw [hkf]
      cases stage <;> rfl

/-- **On every course both channels on the way to a stage stay within their room, and what the stage
missed was in one of them.** -/
theorem holds_of_course {start : Nat}
    (h : Course Exporter.step start (new settings subscribers) ts now x) :
    Holds settings stage ts x := by
  induction h with
  | start => exact ⟨rfl, fun w hw => by cases hw⟩
  | step h hs ih => exact holds_step (follows_of_course h) ih (effect_of_step hs)
  | wait _ _ ih => exact ih

/-- The snapshots that wait in front of the fan-out. -/
def upstream (x : Exporter) : Nat :=
  x.flow.elim 0 fun f => f.fanOut.input.items.length

/-- What is not handled yet waits in front of the fan-out or fits behind it. -/
theorem waiting_of_course {start : Nat}
    (h : Course Exporter.step start (new settings subscribers) ts now x)
    (hn : ¬x.Abandoned stage) : x.upstream ≤ max settings.branchBuffer 1 ∧
      (handled stage ts).length + x.upstream ≤ (placed ts).length ∧
      (placed ts).length ≤
        (handled stage ts).length + x.upstream + (max settings.branchBuffer 1 + 2) := by
  have hI : Follows stage ts x := follows_of_course h
  have hH : Holds settings stage ts x := holds_of_course h
  rcases hI.passes with ⟨hf, hp, -, hd, -⟩ | ⟨w, hw, hP⟩
  · have hup : x.upstream = 0 := by rw [upstream, hf]; rfl
    rw [hp, hd, hup]
    exact ⟨Nat.zero_le _, Nat.le_refl _, Nat.zero_le _⟩
  · obtain ⟨f, hf, hfw⟩ := Option.bind_eq_some_iff.mp hw
    obtain ⟨-, hlane, hcons⟩ := Flow.way_eq_some_iff.mp hfw
    have hup : x.upstream = w.lane.input.items.length := by
      rw [upstream, hf, ← (FanOut.lane_eq_some_iff.mp hlane).1]
      rfl
    have hends : ∀ how, w.consumer.ending? = some how → how = .drained := by
      intro how he
      refine Classical.byContradiction fun hne => hn ⟨f, how, hf, ?_, hne⟩
      rw [← he, ← hcons]
      cases stage <;> rfl
    rw [hup]
    exact ⟨(hH.fits w hw).input.filled, hP.waiting (hH.fits w hw) hends⟩

end

/-- **No stage falls far behind.** On every course from a new exporter whose channels have room for
`B` snapshots, whatever scrapes, saves, subscribers and the transport do and however slow they are:

* a stage that is not abandoned has handled a first part of the snapshots that the aggregator placed
  in its channel, and at most `2 * B + 2` of them are still to be handled;
* two stages that are not abandoned have handled numbers of snapshots that differ by at most
  `B + 2`. -/
theorem backlog_bounded {settings : Flow.Settings} {subscribers : Flow.Subscribers}
    {start now : Nat} {ts : List Step} {x : Exporter}
    (h : Course Exporter.step start (new settings subscribers) ts now x)
    (hB : 1 ≤ settings.branchBuffer) :
    (∀ stage, ¬x.Abandoned stage → handled stage ts <+: placed ts ∧
      (placed ts).length ≤ (handled stage ts).length + (2 * settings.branchBuffer + 2)) ∧
    ∀ stage other, ¬x.Abandoned stage → ¬x.Abandoned other →
      (handled stage ts).length ≤ (handled other ts).length + (settings.branchBuffer + 2) := by
  have hmax : max settings.branchBuffer 1 = settings.branchBuffer := Nat.max_eq_left hB
  refine ⟨fun stage hn => ?_, fun stage other hn hn' => ?_⟩
  · have hI : Follows stage ts x := follows_of_course h
    have hwait := waiting_of_course h hn
    rw [hmax] at hwait
    exact ⟨hI.order.1.trans hI.order.2, by omega⟩
  · -- what waits in front of the fan-out is missing on both sides
    have hwait := waiting_of_course h hn
    have hwait' := waiting_of_course h hn'
    rw [hmax] at hwait hwait'
    omega

/-- The storage stage stands still with the first snapshot in its hand, and the streaming stage goes
on until nothing more fits. -/
def laggingRun : List (Nat × Move) :=
  let placed (n : Nat) : List (Nat × Move) :=
    [(100 * n + 50, .flow .tick),
      (100 * n + 60, .flow (.scrapeEnds n (.brought ⟨⟨⟨0⟩, {}⟩, []⟩))),
      (100 * n + 100, .flow (.aggregate (.fire ⟨100⟩))), (100 * n + 100, .flow (.aggregate .send))]
  let streamed (n : Nat) : List (Nat × Move) :=
    [(100 * n + 101, .flow (.relay .read)), (100 * n + 101, .flow (.relay (.offer 1))),
      (100 * n + 101, .flow (.streaming .receive)), (100 * n + 101, .flow (.subscribers .grant)),
      (100 * n + 101, .flow (.subscribers .finish)),
      (100 * n + 101, .flow (.streaming .complete))]
  let stored (n : Nat) : List (Nat × Move) :=
    [(100 * n + 102, .flow (.relay (.offer 0))), (100 * n + 102, .flow (.relay .settle))]
  [(0, .run 0), (0, .bind (.ok ()))] ++ placed 0 ++ streamed 0 ++ stored 0 ++
    [(102, .flow (.storage .receive))] ++ placed 1 ++ streamed 1 ++ stored 1 ++
    placed 2 ++ streamed 2 ++ placed 3

/-- On that course both bounds are reached. -/
theorem backlog_bounded_full :
    ∃ (ts : List Step) (now : Nat) (x : Exporter),
      Course Exporter.step 0 (new quickSettings (Registry.new 1 .block)) ts now x ∧
      1 ≤ quickSettings.branchBuffer ∧ ¬x.Abandoned .storage ∧ ¬x.Abandoned .streaming ∧
      handled .storage ts <+: placed ts ∧ (placed ts).length = 2 * quickSettings.branchBuffer + 2 ∧
      (handled .storage ts).length = 0 ∧
      (handled .streaming ts).length = quickSettings.branchBuffer + 2 ∧
      (handled .streaming ts).length ≤
        (handled .storage ts).length + (quickSettings.branchBuffer + 2) := by
  have hrun : (drive Exporter.step 0 (new quickSettings (Registry.new 1 .block)) laggingRun).any
      (fun (ts, _, x) => decide ((placed ts).length = 2 * quickSettings.branchBuffer + 2) &&
        decide ((handled .storage ts).length = 0) &&
        decide ((handled .streaming ts).length = quickSettings.branchBuffer + 2) &&
        x.flow.all fun f => Stage.all.all fun stage => (f.endingOf stage).isNone) = true := by
    decide +kernel
  obtain ⟨⟨ts, now, x⟩, hd, h⟩ := (Option.any_eq_true _ _).mp hrun
  simp only [Bool.and_eq_true, decide_eq_true_eq] at h
  obtain ⟨⟨⟨hplaced, hstored⟩, hstreamed⟩, hends⟩ := h
  have hcourse := course_of_drive laggingRun hd
  have hgoing : ∀ stage, ¬x.Abandoned stage := by
    rintro stage ⟨f, how, hf, he, -⟩
    rw [hf] at hends
    have hnone := List.all_eq_true.mp hends stage (by cases stage <;> decide)
    rw [he] at hnone
    cases hnone
  obtain ⟨hbehind, happart⟩ := backlog_bounded hcourse (by decide)
  exact ⟨ts, now, x, hcourse, by decide, hgoing .storage, hgoing .streaming,
    (hbehind .storage (hgoing .storage)).1, hplaced, hstored, hstreamed,
    happart .streaming .storage (hgoing .streaming) (hgoing .storage)⟩

end Exporter

end Vitals
