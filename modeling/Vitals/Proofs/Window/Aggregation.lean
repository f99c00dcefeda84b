import Vitals.Window.Aggregator
import Vitals.Proofs.Course

/-!
# An aggregator at work

An aggregator does not run alone: someone pushes samples, someone takes snapshots out of its
channel or lets them lie, and someone signals the shutdown. This file fixes

* `Aggregation`, an aggregator with its channel and the shutdown, and `Aggregation.step`, in which
  its own moves and those of the world come in any order;
* `Effect`, everything that a step can do, with `effect_of_step`: all that is proved about a step
  goes through it, so that no later proof opens `Aggregator.step`;
* what a course tells about its samples and snapshots: those that were `pushed`, those that were
  `placed` in the channel, and those that were `discarded` on the way to it.
-/

namespace Vitals

/-- An aggregator with the channel that it sends to. -/
structure Aggregation (ν : Type) where
  aggregator : Aggregator ν
  output : Channel (Snapshot ν)
  /-- Whether the shutdown was signalled. -/
  cancelled : Bool := false

namespace Aggregation

variable {ν : Type} [Averageable ν]

/-! ## 1. Moves -/

inductive Move (ν : Type) where
  | own (move : Aggregator.Move ν)
  /-- The receiver takes the oldest snapshot. -/
  | receive
  /-- The receiver goes away. -/
  | drop
  /-- Someone signals the shutdown. -/
  | cancel

/-- An aggregator that starts at an instant, with room for `capacity` snapshots. -/
def start (warmup steady : Duration) (capacity now : Nat) : Aggregation ν :=
  { aggregator := Aggregator.start warmup steady now, output := Channel.new capacity }

/-- The effect of a move at an instant, if it is possible. -/
def step (now : Nat) (s : Aggregation ν) : Move ν → Option (Aggregation ν × List Event)
  | .own move =>
    (s.aggregator.step now s.cancelled s.output move).map fun (aggregator, output, es) =>
      ({ s with aggregator, output }, es)
  | .receive =>
    match s.output.poll with
    | .item _ rest => some ({ s with output := rest }, [])
    | _ => none
  | .drop => some ({ s with output := s.output.dropReceiver }, [])
  | .cancel => some ({ s with cancelled := true }, [])

/-! ## 2. What a step can do -/

/-- **Everything that a step can do.** -/
inductive Effect (now : Nat) (s : Aggregation ν) : Move ν → Aggregation ν → Prop where
  | push (x : Sample ν) :
      Effect now s (.own (.push x)) { s with aggregator := s.aggregator.push x }
  /-- A window ends without a sample. -/
  | pass (stamp : Moment) (deadline : Nat) (hc : s.cancelled = false)
      (hs : s.aggregator.stand = .waiting deadline) (hd : deadline ≤ now)
      (hp : s.aggregator.pending = 0) :
      Effect now s (.own (.fire stamp)) { s with
        aggregator := { s.aggregator with
          stand := .waiting (deadline + s.aggregator.length s.aggregator.phase) } }
  /-- A window ends, and its snapshot waits for room. -/
  | close (stamp : Moment) (deadline : Nat) (hc : s.cancelled = false)
      (hs : s.aggregator.stand = .waiting deadline) (hd : deadline ≤ now)
      (hp : s.aggregator.pending ≠ 0) :
      Effect now s (.own (.fire stamp)) { s with
        aggregator := { s.aggregator with
          window := Accumulator.empty
          stand := .sending
            ⟨stamp, s.aggregator.pending, s.aggregator.window.metrics⟩ deadline } }
  /-- The snapshot that waits is placed in the channel. -/
  | place (snapshot : Snapshot ν) (deadline : Nat) (rest : Channel (Snapshot ν))
      (hc : s.cancelled = false) (hs : s.aggregator.stand = .sending snapshot deadline)
      (ho : s.output.offer snapshot = .accepted rest) :
      Effect now s (.own .send) { s with
        aggregator := { s.aggregator with
          phase := .steady
          stand := .waiting (deadline + s.aggregator.length .steady) }
        output := rest }
  /-- There is no receiver for the snapshot that waits. -/
  | refuse (snapshot : Snapshot ν) (deadline : Nat) (hc : s.cancelled = false)
      (hs : s.aggregator.stand = .sending snapshot deadline)
      (ho : s.output.offer snapshot = .refused) :
      Effect now s (.own .send) { s with
        aggregator := { s.aggregator with stand := .stopped }
        output := s.output.closeSender }
  /-- The shutdown is seen. -/
  | halt (hc : s.cancelled = true) (hs : s.aggregator.stand ≠ .stopped) :
      Effect now s (.own .halt) { s with
        aggregator := { s.aggregator with stand := .stopped }
        output := s.output.closeSender }
  | receive (snapshot : Snapshot ν) (rest : Channel (Snapshot ν))
      (ho : s.output.poll = .item snapshot rest) :
      Effect now s .receive { s with output := rest }
  | drop : Effect now s .drop { s with output := s.output.dropReceiver }
  | cancel : Effect now s .cancel { s with cancelled := true }

omit [Averageable ν] in
theorem isStopped_eq_true_iff (a : Aggregator ν) : a.isStopped = true ↔ a.stand = .stopped := by
  unfold Aggregator.isStopped
  split <;> simp_all

theorem effect_of_fire {now : Nat} {s : Aggregation ν} {stamp : Moment} {a : Aggregator ν}
    (hc : s.cancelled = false) (h : s.aggregator.fire now stamp = some a) :
    Effect now s (.own (.fire stamp)) { s with aggregator := a } := by
  unfold Aggregator.fire at h
  split at h
  · rename_i deadline hs
    split at h
    · rename_i hd
      by_cases hp : s.aggregator.window.count = 0
      · rw [Accumulator.take_of_count_eq_zero hp] at h
        cases h
        exact .pass stamp deadline hc hs hd hp
      · rw [Accumulator.take_of_count_ne_zero hp] at h
        cases h
        exact .close stamp deadline hc hs hd hp
    · cases h
  · cases h

theorem effect_of_send {now : Nat} {s : Aggregation ν} {a : Aggregator ν}
    {output : Channel (Snapshot ν)} {es : List Event} (hc : s.cancelled = false)
    (h : s.aggregator.send s.output = some (a, output, es)) :
    Effect now s (.own .send) { s with aggregator := a, output := output } := by
  unfold Aggregator.send at h
  split at h
  · rename_i snapshot deadline hs
    split at h
    · rename_i rest ho
      cases h
      exact .place snapshot deadline _ hc hs ho
    · cases h
    · rename_i ho
      cases h
      exact .refuse snapshot deadline hc hs ho
  · cases h

/-- **A step does nothing else.** -/
theorem effect_of_step {now : Nat} {s t : Aggregation ν} {move : Move ν} {out : List Event}
    (h : s.step now move = some (t, out)) : Effect now s move t := by
  cases move with
  | own move =>
    obtain ⟨⟨a, output, es⟩, ha, e⟩ := Option.map_eq_some_iff.mp h
    cases e
    cases move with
    | push x =>
      cases ha
      exact .push x
    | fire stamp =>
      simp only [Aggregator.step] at ha
      split at ha
      · cases ha
      · rename_i hc
        obtain ⟨a', ha', e⟩ := Option.map_eq_some_iff.mp ha
        cases e
        exact effect_of_fire (Bool.eq_false_iff.mpr hc) ha'
    | send =>
      simp only [Aggregator.step] at ha
      split at ha
      · cases ha
      · rename_i hc
        exact effect_of_send (Bool.eq_false_iff.mpr hc) ha
    | halt =>
      simp only [Aggregator.step] at ha
      split at ha
      · rename_i hc
        cases ha
        rw [Bool.and_eq_true, Bool.not_eq_true', ← Bool.not_eq_true, isStopped_eq_true_iff] at hc
        exact .halt hc.1 hc.2
      · cases ha
  | receive =>
    simp only [step] at h
    split at h
    · rename_i snapshot rest ho
      cases h
      exact .receive snapshot rest ho
    · cases h
  | drop =>
    cases h
    exact .drop
  | cancel =>
    cases h
    exact .cancel

/-! ## 3. What a course tells -/

/-- One step of an aggregator at work. -/
abbrev Step (ν : Type) : Type :=
  Transition (Aggregation ν) (Move ν) Event

/-- The sample that a step pushes. -/
def Step.pushed? (t : Step ν) : Option (Sample ν) :=
  match t.move with
  | .own (.push x) => some x
  | _ => none

/-- The snapshot that a step places in the channel. -/
def Step.placed? (t : Step ν) : Option (Snapshot ν) :=
  match t.move, t.before.aggregator.stand with
  | .own .send, .sending snapshot _ =>
    match t.before.output.offer snapshot with
    | .accepted _ => some snapshot
    | _ => none
  | _, _ => none

/-- The snapshot that still waited for room when a step stopped the aggregator. -/
def Step.discarded? (t : Step ν) : Option (Snapshot ν) :=
  match t.before.aggregator.stand, t.after.aggregator.stand with
  | .sending snapshot _, .stopped => some snapshot
  | _, _ => none

/-- The samples pushed so far, in the order in which they were folded. -/
def pushed (ts : List (Step ν)) : List (Sample ν) :=
  ts.filterMap Step.pushed?

/-- The snapshots placed in the channel so far. -/
def placed (ts : List (Step ν)) : List (Snapshot ν) :=
  ts.filterMap Step.placed?

/-- The snapshots of closed windows that never came into the channel and never will. -/
def discarded (ts : List (Step ν)) : List (Snapshot ν) :=
  ts.filterMap Step.discarded?

section

variable (ts : List (Step ν)) (t : Step ν)

omit [Averageable ν] in
theorem pushed_snoc : pushed (ts ++ [t]) = pushed ts ++ t.pushed?.toList :=
  filterMap_snoc _ ts t

omit [Averageable ν] in
theorem placed_snoc : placed (ts ++ [t]) = placed ts ++ t.placed?.toList :=
  filterMap_snoc _ ts t

omit [Averageable ν] in
theorem discarded_snoc : discarded (ts ++ [t]) = discarded ts ++ t.discarded?.toList :=
  filterMap_snoc _ ts t

end

end Aggregation

/-- The snapshot of a closed window that waits for room in the channel. -/
def Aggregator.underWay {ν : Type} (a : Aggregator ν) : List (Snapshot ν) :=
  match a.stand with
  | .sending snapshot _ => [snapshot]
  | _ => []

end Vitals
