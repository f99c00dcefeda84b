import Vitals.Pipeline.Flow
import Vitals.Proofs.Window.Aggregation
import Vitals.Proofs.FanOut.Lane
import Vitals.Proofs.Pipeline.Consumer

/-!
# The way of snapshots to a stage

A snapshot goes from the aggregator through the fan-out to the hand of a stage. Of a flow with all
its parts, a stage sees only this way. This file fixes

* `Flow.Way`, this view, and `Way.Effect`, everything that can happen to it; what happens to the
  other stage, to scrapes, saves and subscribers does not show (`effect_of_step`);
* `Way.Passes`, the invariant: what was placed in the aggregator's channel is what the stage began
  to handle and what is still on the way; what it began is what it handled to the end and what it
  has in hand; and a stage that has drained handled all there is and ever will be, up to what it
  missed.

Main statement: every effect keeps the invariant (`passes_of_effect`).
-/

namespace Vitals.Flow

/-! ## 1. What a move tells -/

/-- The consumer of a stage. -/
def consumerOf (f : Flow) : Stage → Consumer (Snapshot Float)
  | .storage => f.storage
  | .streaming => f.streaming

/-- The move of the consumer of a stage, if a move is one. -/
def Move.of? (stage : Stage) : Move → Option Consumer.Move
  | .storage move => if stage = .storage then some move else none
  | .streaming move => if stage = .streaming then some move else none
  | _ => none

/-- The snapshot that a move places in the channel of the aggregator. -/
def placed? (f : Flow) : Move → Option (Snapshot Float)
  | .aggregate .send =>
    match f.aggregator.stand with
    | .sending snapshot _ =>
      match f.fanOut.input.offer snapshot with
      | .accepted _ => some snapshot
      | _ => none
    | _ => none
  | _ => none

/-- The snapshot that a stage takes and begins to handle with a move. -/
def begun? (f : Flow) (stage : Stage) (move : Move) : Option (Snapshot Float) := do
  let input ← f.inputOf stage
  Consumer.taken? input (← move.of? stage)

/-- The snapshot whose handling by a stage comes to its end with a move. -/
def handled? (f : Flow) (stage : Stage) (move : Move) : Option (Snapshot Float) := do
  (f.consumerOf stage).completed? (← move.of? stage)

/-- The snapshots that are left in the channel of a stage when it counts as drained with a move. -/
def missed (f : Flow) (stage : Stage) (move : Move) : List (Snapshot Float) :=
  match f.inputOf stage, move.of? stage with
  | some input, some m => Consumer.missed input m
  | _, _ => []

section

variable {f : Flow} {stage : Stage} {move : Move}

theorem begun?_of_none (h : move.of? stage = none) : f.begun? stage move = none := by
  rw [begun?, h]
  cases f.inputOf stage <;> rfl

theorem handled?_of_none (h : move.of? stage = none) : f.handled? stage move = none := by
  rw [handled?, h]
  rfl

theorem missed_of_none (h : move.of? stage = none) : f.missed stage move = [] := by
  rw [missed, h]
  cases f.inputOf stage <;> rfl

theorem missed_of_some {m : Consumer.Move} {input : Channel (Snapshot Float)}
    (h : move.of? stage = some m) (hi : f.inputOf stage = some input) :
    f.missed stage move = Consumer.missed input m := by
  rw [missed, h, hi]

theorem begun?_of_some {m : Consumer.Move} {input : Channel (Snapshot Float)}
    (h : move.of? stage = some m) (hi : f.inputOf stage = some input) :
    f.begun? stage move = Consumer.taken? input m := by
  rw [begun?, h, hi]
  rfl

theorem handled?_of_some {m : Consumer.Move} (h : move.of? stage = some m) :
    f.handled? stage move = (f.consumerOf stage).completed? m := by
  rw [handled?, h]
  rfl

end

/-! ## 2. Ways -/

/-- What lies between the aggregator and the hand of a stage. -/
structure Way where
  stand : Aggregator.Stand Float
  lane : FanOut.Lane (Snapshot Float)
  consumer : Consumer (Snapshot Float)

/-- The way to a stage. -/
def way (f : Flow) (stage : Stage) : Option Way :=
  (f.fanOut.lane (branchOf stage)).map fun lane => ⟨f.aggregator.stand, lane, f.consumerOf stage⟩

theorem way_eq_some_iff {f : Flow} {stage : Stage} {w : Way} : f.way stage = some w ↔
    f.aggregator.stand = w.stand ∧ f.fanOut.lane (branchOf stage) = some w.lane ∧
      f.consumerOf stage = w.consumer := by
  unfold way
  rw [Option.map_eq_some_iff]
  constructor
  · rintro ⟨l, hl, rfl⟩
    exact ⟨rfl, hl, rfl⟩
  · rintro ⟨hs, hl, hc⟩
    exact ⟨w.lane, hl, by rw [hs, hc]⟩

namespace Way

/-- The way after its channel to the stage was changed. -/
def setOutput (w : Way) (c : Channel (Snapshot Float)) : Way :=
  { w with lane := { w.lane with branch := { w.lane.branch with output := c } } }

def setInput (w : Way) (c : Channel (Snapshot Float)) : Way :=
  { w with lane := { w.lane with input := c } }

/-- **Everything that can happen on a way**, with the snapshots that are placed, begun, handled and
missed. -/
inductive Effect (w : Way) : Way → Option (Snapshot Float) → Option (Snapshot Float) →
    Option (Snapshot Float) → List (Snapshot Float) → Prop where
  /-- It happens elsewhere. -/
  | elsewhere : Effect w w none none none []
  /-- A window of the aggregator ends. -/
  | fire (stand : Aggregator.Stand Float) (hs : w.stand ≠ .stopped) (h : stand ≠ .stopped) :
      Effect w { w with stand } none none none []
  | place (s : Snapshot Float) (deadline : Nat) (stand : Aggregator.Stand Float)
      (c : Channel (Snapshot Float)) (hs : w.stand = .sending s deadline) (h : stand ≠ .stopped)
      (ho : w.lane.input.offer s = .accepted c) :
      Effect w { w.setInput c with stand } (some s) none none []
  /-- The aggregator stops. -/
  | stop (hs : w.stand ≠ .stopped) :
      Effect w { w.setInput w.lane.input.closeSender with stand := .stopped } none none none []
  | relay (lane : FanOut.Lane (Snapshot Float)) (h : w.lane.Relay lane) :
      Effect w { w with lane } none none none []
  /-- The stage makes a move. -/
  | work (c : Consumer (Snapshot Float)) (output : Channel (Snapshot Float))
      (b d : Option (Snapshot Float)) (m : List (Snapshot Float))
      (h : w.consumer.Handles w.lane.branch.output c output b d m) :
      Effect w { w.setOutput output with consumer := c } none b d m

section

variable {w w' : Way} {p b d : Option (Snapshot Float)} {m : List (Snapshot Float)}

/-- A stage that has ended stays as it ended. -/
theorem Effect.ending?_of_ended {how : Consumer.Ending} (h : w.Effect w' p b d m)
    (he : w.consumer.ending? = some how) : w'.consumer.ending? = some how := by
  cases h with
  | elsewhere | fire | place | stop | relay => exact he
  | work c output _ _ _ hc =>
    cases hc with
    | turns hend => exact hend.trans he
    | takes _ _ hn | completes _ hn | ends _ hn => exact nomatch hn.symm.trans he

/-- Only a stage with nothing in its hand begins. -/
theorem Effect.held?_of_begun {s : Snapshot Float} (h : w.Effect w' p (some s) d m) :
    w.consumer.ending? = none ∧ w.consumer.held? = none := by
  cases h with
  | work c output _ _ _ hc =>
    cases hc with
    | takes _ _ hn hh => exact ⟨hn, hh⟩

end

/-! ## 3. The invariant -/

/-- **What becomes of the snapshots on a way.** -/
structure Passes (w : Way) (placed begun handled missed : List (Snapshot Float)) : Prop where
  carries : w.lane.Carries placed begun
  /-- The aggregator's channel is open until the aggregator stops. -/
  opened : w.lane.input.senderAlive = false ↔ w.stand = .stopped
  /-- The stage's channel has a receiver until the stage ends. -/
  attended : w.lane.branch.output.receiverAlive = true ↔ w.consumer.ending? = none
  inHand : w.consumer.ending? = none → begun = handled ++ w.consumer.held?.toList
  inOrder : handled <+: begun
  attentive : w.consumer.ending? ≠ some .drained → missed = []
  drained : w.consumer.ending? = some .drained → placed = handled ++ missed ∧ w.stand = .stopped

section

variable {w w' : Way} {placed begun handled missed : List (Snapshot Float)}
  {p b d : Option (Snapshot Float)} {m : List (Snapshot Float)}

theorem Passes.opened_of_ne (h : w.Passes placed begun handled missed) (hs : w.stand ≠ .stopped) :
    w.lane.input.senderAlive = true := by
  cases ho : w.lane.input.senderAlive with
  | true => rfl
  | false => exact absurd (h.opened.mp ho) hs

theorem Passes.place {s : Snapshot Float} {deadline : Nat} {stand : Aggregator.Stand Float}
    {c : Channel (Snapshot Float)} (h : w.Passes placed begun handled missed)
    (hs : w.stand = .sending s deadline) (hne : stand ≠ .stopped)
    (ho : w.lane.input.offer s = .accepted c) :
    { w.setInput c with stand }.Passes (placed ++ [s]) begun handled missed := by
  have hns : w.stand ≠ .stopped := by
    rw [hs]
    exact nofun
  have hopen := h.opened_of_ne hns
  have hc : c.senderAlive = true := by
    rw [(Channel.eq_of_offer ho).2]
    exact hopen
  refine ⟨?_, ?_, h.attended, h.inHand, h.inOrder, h.attentive,
    fun hd => absurd (h.drained hd).2 hns⟩
  · have hcar := FanOut.Lane.carries_of_effect h.carries (.send s c hopen ho)
    rw [List.append_nil] at hcar
    exact hcar
  · refine ⟨fun hf => ?_, fun e => absurd e hne⟩
    rw [show c.senderAlive = false from hf] at hc
    cases hc

theorem Passes.stop (h : w.Passes placed begun handled missed) (hs : w.stand ≠ .stopped) :
    { w.setInput w.lane.input.closeSender with stand := .stopped }.Passes
      placed begun handled missed := by
  refine ⟨?_, ⟨fun _ => rfl, fun _ => rfl⟩, h.attended, h.inHand, h.inOrder, h.attentive,
    fun hd => absurd (h.drained hd).2 hs⟩
  have hcar := FanOut.Lane.carries_of_effect h.carries .close
  rw [List.append_nil, List.append_nil] at hcar
  exact hcar

/-- **The stage keeps the invariant**: if it counts as drained, it has handled all that was placed,
but for what is left in its channel. -/
theorem Passes.work {c : Consumer (Snapshot Float)} {output : Channel (Snapshot Float)}
    (h : w.Passes placed begun handled missed)
    (hc : w.consumer.Handles w.lane.branch.output c output b d m) :
    { w.setOutput output with consumer := c }.Passes
      placed (begun ++ b.toList) (handled ++ d.toList) (missed ++ m) := by
  have hcarries := h.carries
  cases hc <;> simp only [Option.toList_none, Option.toList_some, List.append_nil]
  case turns he hh =>
    refine ⟨h.carries, h.opened, ?_, ?_, h.inOrder, ?_, ?_⟩
    · show _ ↔ c.ending? = none
      rw [he]
      exact h.attended
    · show c.ending? = none → begun = handled ++ c.held?.toList
      rw [he, hh]
      exact h.inHand
    · show c.ending? ≠ some .drained → missed = []
      rw [he]
      exact h.attentive
    · show c.ending? = some .drained → _
      rw [he]
      exact h.drained
  case takes s hn hh hn' hh' hp =>
    have hbegun := h.inHand hn
    rw [hh, Option.toList_none, List.append_nil] at hbegun
    have hcar := FanOut.Lane.carries_of_effect h.carries (.receive s output hp)
    rw [List.append_nil] at hcar
    refine ⟨hcar, h.opened, ⟨fun _ => hn', fun _ => ?_⟩, fun _ => ?_,
      h.inOrder.trans (List.prefix_append _ _), fun _ => h.attentive (by simp [hn]),
      fun hd => nomatch hn'.symm.trans hd⟩
    · show output.receiverAlive = true
      rw [Channel.eq_of_poll hp]
      exact h.attended.mpr hn
    · show begun ++ [s] = handled ++ c.held?.toList
      rw [hh', Option.toList_some, hbegun]
  case completes s hn hh hn' hh' =>
    have hbegun := h.inHand hn
    rw [hh, Option.toList_some] at hbegun
    refine ⟨h.carries, h.opened, ⟨fun _ => hn', fun _ => h.attended.mpr hn⟩, fun _ => ?_, ?_,
      fun _ => h.attentive (by simp [hn]), fun hd => nomatch hn'.symm.trans hd⟩
    · show begun = handled ++ [s] ++ c.held?.toList
      rw [hh', Option.toList_none, List.append_nil, hbegun]
    · exact hbegun ▸ List.prefix_rfl
  case ends how hn he hd =>
    have hnone : missed = [] := h.attentive (by simp [hn])
    have hends : c.ending? ≠ none := by simp [he]
    have hcar := FanOut.Lane.carries_of_effect h.carries .drop
    rw [List.append_nil, List.append_nil] at hcar
    refine ⟨hcar, h.opened, ⟨nofun, fun hn' => absurd hn' hends⟩, fun hn' => absurd hn' hends,
      h.inOrder, fun hne => ?_, fun hdr => ?_⟩
    · rw [hnone, if_neg fun hhow => hne (he.trans (congrArg some hhow))]
      rfl
    · have hhow : how = .drained := Option.some.inj (he.symm.trans hdr)
      obtain ⟨hheld, hclosed⟩ := hd hhow
      obtain ⟨hall, hsource⟩ := h.carries.eq_of_closed (h.attended.mpr hn) hclosed
      have hbegun := h.inHand hn
      rw [hheld, Option.toList_none, List.append_nil] at hbegun
      refine ⟨?_, h.opened.mp hsource⟩
      rw [hall, hbegun, hnone, if_pos hhow, List.nil_append]

/-- **Every effect keeps the invariant.** -/
theorem passes_of_effect (h : w.Passes placed begun handled missed) (he : w.Effect w' p b d m) :
    w'.Passes (placed ++ p.toList) (begun ++ b.toList) (handled ++ d.toList) (missed ++ m) := by
  cases he with
  | work c output _ _ _ hc =>
    rw [Option.toList_none, List.append_nil]
    exact h.work hc
  | elsewhere => simpa using h
  | fire stand hs hne =>
    simp only [Option.toList_none, List.append_nil]
    refine ⟨h.carries, ?_, h.attended, h.inHand, h.inOrder, h.attentive,
      fun hd => absurd (h.drained hd).2 hs⟩
    have := h.opened_of_ne hs
    exact ⟨fun ho => (by rw [this] at ho; cases ho), fun e => absurd e hne⟩
  | place s deadline stand c hs hne ho =>
    simp only [Option.toList_none, Option.toList_some, List.append_nil]
    exact h.place hs hne ho
  | stop hs =>
    simp only [Option.toList_none, List.append_nil]
    exact h.stop hs
  | relay lane hr =>
    simp only [Option.toList_none, List.append_nil]
    refine ⟨FanOut.Lane.carries_of_relay h.carries hr, ?_, ?_, h.inHand, h.inOrder, h.attentive,
      h.drained⟩
    · rw [hr.senderAlive_input]
      exact h.opened
    · rw [hr.receiverAlive_branch]
      exact h.attended

end

end Way

end Vitals.Flow
