import Vitals.Proofs.Pipeline.Flow
import Vitals.Proofs.Pipeline.Way

/-!
# What a step of the flow does to the way of a stage

Each move of a flow touches a few of its parts: the aggregator with the channel it sends to, the
fan-out, or one stage with its input. This file works out what that is on the way to a given stage
(`way_of_step`). A move of the other stage, of a scrape, of a save or of a subscriber leaves the
way as it is.
-/

namespace Vitals.Flow

/-! ## 1. Moves of a stage -/

/-- What a move of the consumer of a stage does within a flow. -/
structure Works (now : Nat) (cancelled : Bool) (f : Flow) (stage : Stage) (move : Consumer.Move)
    (g : Flow) : Prop where
  effect : ∃ input input', f.inputOf stage = some input ∧
    (f.consumerOf stage).Effect now cancelled input move (g.consumerOf stage) input' ∧
    g.fanOut = f.fanOut.modify (branchOf stage) fun b => { b with output := input' }
  aggregator : g.aggregator = f.aggregator
  others : ∀ other, other ≠ stage → g.consumerOf other = f.consumerOf other

section

variable {now : Nat} {cancelled : Bool} {f g : Flow} {r r' : Subscribers} {stage : Stage}

/-- Beginning a save changes nothing else. -/
theorem beginSave_frame (f : Flow) (s : Snapshot Float) :
    (f.beginSave s).aggregator = f.aggregator ∧ (f.beginSave s).fanOut = f.fanOut ∧
      (f.beginSave s).storage = f.storage ∧ (f.beginSave s).streaming = f.streaming := by
  unfold beginSave
  split <;> exact ⟨rfl, rfl, rfl, rfl⟩

theorem works_of_storage {move : Consumer.Move} {input input' : Channel (Snapshot Float)}
    (hi : f.inputOf .storage = some input)
    (he : f.storage.Effect now cancelled input move g.storage input')
    (ha : g.aggregator = f.aggregator) (hf : g.fanOut = (f.setInput .storage input').fanOut)
    (ho : g.streaming = f.streaming) : Works now cancelled f .storage move g := by
  refine ⟨⟨input, input', hi, he, hf⟩, ha, fun other hne => ?_⟩
  cases other with
  | storage => exact absurd rfl hne
  | streaming => exact ho

theorem works_of_streaming {move : Consumer.Move} {input input' : Channel (Snapshot Float)}
    (hi : f.inputOf .streaming = some input)
    (he : f.streaming.Effect now cancelled input move g.streaming input')
    (ha : g.aggregator = f.aggregator) (hf : g.fanOut = (f.setInput .streaming input').fanOut)
    (ho : g.storage = f.storage) : Works now cancelled f .streaming move g := by
  refine ⟨⟨input, input', hi, he, hf⟩, ha, fun other hne => ?_⟩
  cases other with
  | storage => exact ho
  | streaming => exact absurd rfl hne

theorem works_of_stepStorage {move : Consumer.Move} {es : List Event}
    (h : f.stepStorage now cancelled move = some (g, es)) :
    Works now cancelled f .storage move g := by
  obtain ⟨input, storage, input', events, hi, hc, hs⟩ := stored_of_step h
  have he := Consumer.effect_of_step hc
  cases hs with
  | received s hand =>
    obtain ⟨ha, hf, hst, ho⟩ := beginSave_frame { f.setInput .storage input' with storage } s
    exact works_of_storage hi (hst ▸ he) ha hf ho
  | observed | finished | saved | unwritable | expired | checked | looked
  | abandoned | crashed =>
    exact works_of_storage hi he rfl rfl rfl

theorem works_of_stepStreaming {move : Consumer.Move} {es : List Event}
    (h : f.stepStreaming now cancelled r move = some (g, r', es)) :
    Works now cancelled f .streaming move g := by
  obtain ⟨input, streaming, input', events, hi, hc, hs⟩ := streamed_of_step h
  have he := Consumer.effect_of_step hc
  cases hs with
  | observed | received | finished | delivered | expired | checked | looked
  | abandoned | crashed =>
    exact works_of_streaming hi he rfl rfl rfl

end

/-! ## 2. The way to a stage -/

section

variable {now : Nat} {cancelled : Bool} {f g : Flow} {stage : Stage} {w : Way}

theorem branchOf_inj {stage other : Stage} (h : branchOf stage = branchOf other) :
    stage = other := by
  cases stage <;> cases other <;> first | rfl | cases h

/-- The other stage does not show. -/
theorem way_of_works_other {other : Stage} {move : Consumer.Move}
    (hW : Works now cancelled f other move g) (hne : stage ≠ other) :
    g.way stage = f.way stage := by
  obtain ⟨⟨input, input', -, -, hf⟩, ha, ho⟩ := hW
  have hbranch : branchOf other ≠ branchOf stage := fun e => hne (branchOf_inj e).symm
  rw [way, way, hf, FanOut.lane_modify_of_ne _ hbranch, ha, ho stage hne]

/-- **What a stage does on its own way.** -/
theorem effect_of_works {move : Move} {m : Consumer.Move} (hm : move.of? stage = some m)
    (hW : Works now cancelled f stage m g) (hw : f.way stage = some w) :
    ∃ w', g.way stage = some w' ∧
      w.Effect w' none (f.begun? stage move) (f.handled? stage move) (f.missed stage move) := by
  obtain ⟨⟨input, input', hi, he, hf⟩, ha, -⟩ := hW
  obtain ⟨hstand, hlane, hcons⟩ := way_eq_some_iff.mp hw
  obtain ⟨-, -, hb⟩ := FanOut.lane_eq_some_iff.mp hlane
  have hinput : input = w.lane.branch.output := by
    rw [inputOf, hb, Option.map_some] at hi
    exact (Option.some.inj hi).symm
  have hg : g.way stage = some { w.setOutput input' with consumer := g.consumerOf stage } := by
    rw [way_eq_some_iff, ha, hf, FanOut.lane_modify_self hlane]
    exact ⟨hstand, rfl, rfl⟩
  refine ⟨_, hg, ?_⟩
  have hhandles := he.handles
  rw [hcons, hinput] at hhandles
  rw [begun?_of_some hm hi, handled?_of_some hm, missed_of_some hm hi, hinput, hcons]
  exact .work _ _ _ _ _ hhandles

/-- **What the aggregator does on the way to a stage.** -/
theorem effect_of_aggregate {m : Aggregator.Move Float} {t : Aggregation Float}
    (he : Aggregation.Effect now ⟨f.aggregator, f.fanOut.input, cancelled⟩ (.own m) t)
    (ha : g.aggregator = t.aggregator) (hf : g.fanOut = { f.fanOut with input := t.output })
    (hc : g.consumerOf stage = f.consumerOf stage) (hw : f.way stage = some w) :
    ∃ w', g.way stage = some w' ∧ w.Effect w' (f.placed? (.aggregate m)) none none [] := by
  obtain ⟨hstand, hlane, hcons⟩ := way_eq_some_iff.mp hw
  obtain ⟨hin, hph, hb⟩ := FanOut.lane_eq_some_iff.mp hlane
  have hg : g.way stage = some { w.setInput t.output with stand := t.aggregator.stand } := by
    rw [way_eq_some_iff, ha, hf, hc, FanOut.lane_eq_some_iff]
    exact ⟨rfl, ⟨rfl, hph, hb⟩, hcons⟩
  refine ⟨_, hg, ?_⟩
  rw [hin] at he
  cases he with
  | push x =>
    show w.Effect { w with stand := f.aggregator.stand } none none none []
    rw [hstand]
    exact .elsewhere
  | pass stamp deadline hc hs hd hp =>
    have hw : w.stand = .waiting deadline := hstand.symm.trans hs
    exact .fire _ (by rw [hw]; exact nofun) nofun
  | close stamp deadline hc hs hd hp =>
    have hw : w.stand = .waiting deadline := hstand.symm.trans hs
    exact .fire _ (by rw [hw]; exact nofun) nofun
  | place s deadline rest hc hs ho =>
    have hs : f.aggregator.stand = .sending s deadline := hs
    have ho : w.lane.input.offer s = .accepted rest := ho
    have hplaced : f.placed? (.aggregate .send) = some s := by
      simp only [placed?, hs, hin, ho]
    rw [hplaced]
    exact .place s deadline _ rest (hstand.symm.trans hs) nofun ho
  | refuse s deadline hc hs ho =>
    have hs : f.aggregator.stand = .sending s deadline := hs
    have ho : w.lane.input.offer s = .refused := ho
    have hplaced : f.placed? (.aggregate .send) = none := by
      simp only [placed?, hs, hin, ho]
    rw [hplaced]
    exact .stop (by rw [← hstand, hs]; exact nofun)
  | halt hc hs => exact .stop (hstand ▸ hs)

end

/-! ## 3. Steps -/

section

variable {now : Nat} {cancelled : Bool} {f g : Flow} {r r' : Subscribers} {stage : Stage} {w : Way}
  {move : Move} {out : List Outcome}

/-- A move that leaves the way as it is. -/
theorem effect_of_frame (hw : f.way stage = some w) (hm : move.of? stage = none)
    (hp : f.placed? move = none) (hg : g.way stage = f.way stage) :
    ∃ w', g.way stage = some w' ∧
      w.Effect w' (f.placed? move) (f.begun? stage move) (f.handled? stage move)
        (f.missed stage move) := by
  rw [hp, begun?_of_none hm, handled?_of_none hm, missed_of_none hm]
  exact ⟨w, hg.trans hw, .elsewhere⟩

/-- What the registry answers the streaming stage is noted elsewhere. -/
theorem way_note (f : Flow) (os : List (Registry.Outcome Party)) :
    (f.note os).1.way stage = f.way stage := by
  obtain ⟨delivered, closing, h⟩ := note_only f os
  rw [h]
  cases stage <;> rfl

/-- What the fan-out does by itself. -/
theorem relay_of_isOwn {m : FanOut.Move (Snapshot Float)} {fo fo' : FanOut (Snapshot Float)}
    {es : List Event} {i : Nat} {l : FanOut.Lane (Snapshot Float)} (hm : isOwn m = true)
    (h : fo.step m = some (fo', es)) (hl : fo.lane i = some l) :
    ∃ l', fo'.lane i = some l' ∧ l.Relay l' := by
  cases m with
  | read =>
    obtain ⟨fo₁, hr, e⟩ := Option.map_eq_some_iff.mp h
    cases e
    exact FanOut.relay_of_read hr hl
  | offer j =>
    obtain ⟨fo₁, hr, e⟩ := Option.map_eq_some_iff.mp h
    cases e
    exact FanOut.relay_of_offer hr hl
  | settle => exact FanOut.relay_of_settle h hl
  | send | close | receive | drop => cases hm

/-- **Every step has an effect on the way to a stage**, with the snapshots that it places, and
that the stage begins to handle, has handled and misses. -/
theorem way_of_step (h : f.step now cancelled r move = some (g, r', out))
    (hw : f.way stage = some w) :
    ∃ w', g.way stage = some w' ∧
      w.Effect w' (f.placed? move) (f.begun? stage move) (f.handled? stage move)
        (f.missed stage move) := by
  cases effect_of_step h with
  | serveEnds | tick | bring | breakOff | join | saveEnds | close =>
    exact effect_of_frame hw rfl rfl (by cases stage <;> rfl)
  | aggregate m a input es ha =>
    have hstep : Aggregation.step now ⟨f.aggregator, f.fanOut.input, cancelled⟩ (.own m) =
        some (⟨a, input, cancelled⟩, es) := by
      rw [Aggregation.step, ha]
      rfl
    rw [begun?_of_none rfl, handled?_of_none rfl, missed_of_none rfl]
    exact effect_of_aggregate (Aggregation.effect_of_step hstep) rfl rfl (by cases stage <;> rfl) hw
  | relay m fanOut es hm hf =>
    obtain ⟨hstand, hlane, hcons⟩ := way_eq_some_iff.mp hw
    obtain ⟨lane, hl, hr⟩ := relay_of_isOwn hm hf hlane
    rw [begun?_of_none rfl, handled?_of_none rfl, missed_of_none rfl]
    refine ⟨{ w with lane }, ?_, .relay lane hr⟩
    rw [way_eq_some_iff]
    exact ⟨hstand, hl, by cases stage <;> exact hcons⟩
  | storage m g es hs =>
    have hW := works_of_stepStorage hs
    cases stage with
    | storage => exact effect_of_works rfl hW hw
    | streaming => exact effect_of_frame hw rfl rfl (way_of_works_other hW (by decide))
  | streaming m g r' es hs =>
    have hW := works_of_stepStreaming hs
    cases stage with
    | storage => exact effect_of_frame hw rfl rfl (way_of_works_other hW (by decide))
    | streaming => exact effect_of_works rfl hW hw
  | subscribers m r' os hm hs => exact effect_of_frame hw rfl rfl (way_note f os)

end

end Vitals.Flow
