import Mathlib.Algebra.GroupWithZero.Nat
import Vitals.Proofs.Window.Aggregation

/-!
# What becomes of samples

Closing a window empties it, and only then is its snapshot sent. So a pushed sample is in the open
window, in the snapshot that waits for room, or in a snapshot that was placed in the channel, with
one exception: an aggregator that sees the shutdown while a snapshot waits for room stops at once,
and that snapshot is in none of these places. This file proves

* `samples_accounted`: with the discarded snapshot counted in, no sample is lost on any course;
  without it, samples are missing exactly on the courses that discard one, and as long as the
  channel has a receiver only the shutdown makes the aggregator do so;
* `shutdown_discards_samples`: a course with a receiver that reads on which a sample is missing.
-/

namespace Vitals.Aggregation

variable {ν : Type} [Averageable ν]

/-- The number of samples in snapshots. -/
def samplesOf (l : List (Snapshot ν)) : Nat :=
  (l.map Snapshot.samples).sum

omit [Averageable ν] in
@[simp] theorem samplesOf_nil : samplesOf ([] : List (Snapshot ν)) = 0 := rfl

omit [Averageable ν] in
@[simp] theorem samplesOf_append (l m : List (Snapshot ν)) :
    samplesOf (l ++ m) = samplesOf l + samplesOf m := by
  simp [samplesOf]

omit [Averageable ν] in
@[simp] theorem samplesOf_singleton (x : Snapshot ν) : samplesOf [x] = x.samples := by
  simp [samplesOf]

omit [Averageable ν] in
/-- Snapshots with samples in them account for none only if there are none. -/
theorem samplesOf_eq_zero_iff {l : List (Snapshot ν)} (h : ∀ x ∈ l, 0 < x.samples) :
    samplesOf l = 0 ↔ l = [] := by
  cases l with
  | nil => exact ⟨fun _ => rfl, fun _ => rfl⟩
  | cons x l =>
    have hx := h x List.mem_cons_self
    refine ⟨fun e => ?_, fun e => by cases e⟩
    simp only [samplesOf, List.map_cons, List.sum_cons] at e
    omega

/-! ## 1. The invariant -/

/-- **Where the samples of a course are.** -/
structure Accounted (ts : List (Step ν)) (s : Aggregation ν) : Prop where
  total : (pushed ts).length =
    samplesOf (placed ts) + samplesOf s.aggregator.underWay + s.aggregator.pending
      + samplesOf (discarded ts)
  full : ∀ x ∈ s.aggregator.underWay ++ discarded ts, 0 < x.samples
  /-- A snapshot is discarded only when the aggregator stops. -/
  last : s.aggregator.stand ≠ .stopped → discarded ts = []
  single : (discarded ts).length ≤ 1
  cause : discarded ts ≠ [] → s.cancelled = true ∨ s.output.receiverAlive = false

theorem accounted_start (warmup steady : Duration) (capacity now : Nat) :
    Accounted [] (start warmup steady capacity now : Aggregation ν) where
  total := rfl
  full _ hx := absurd hx List.not_mem_nil
  last _ := rfl
  single := Nat.zero_le 1
  cause h := absurd rfl h

section Step

variable {now : Nat} {ts : List (Step ν)} {s t : Aggregation ν} {move : Move ν} {out : List Event}

omit [Averageable ν] in
/-- A step that leaves the timer task where it stands discards nothing. -/
theorem discarded?_of_stand_eq (h : t.aggregator.stand = s.aggregator.stand) :
    Step.discarded? ⟨now, s, move, t, out⟩ = none := by
  cases hs : s.aggregator.stand <;> simp [Step.discarded?, h, hs]

omit [Averageable ν] in
/-- A step that neither pushes nor places a sample and discards none keeps the accounts. -/
theorem Accounted.keep (hI : Accounted ts s) (hpu : Step.pushed? ⟨now, s, move, t, out⟩ = none)
    (hpl : Step.placed? ⟨now, s, move, t, out⟩ = none)
    (hst : t.aggregator.stand = s.aggregator.stand ∨
      t.aggregator.underWay = [] ∧ s.aggregator.underWay = [] ∧ s.aggregator.stand ≠ .stopped)
    (hp : t.aggregator.pending = s.aggregator.pending)
    (hc : s.cancelled = true ∨ s.output.receiverAlive = false →
      t.cancelled = true ∨ t.output.receiverAlive = false) :
    Accounted (ts ++ [⟨now, s, move, t, out⟩]) t := by
  have hu : t.aggregator.underWay = s.aggregator.underWay := by
    rcases hst with h | ⟨h1, h2, -⟩
    · simp only [Aggregator.underWay, h]
    · rw [h1, h2]
  have hd : Step.discarded? ⟨now, s, move, t, out⟩ = none := by
    rcases hst with h | ⟨-, h, -⟩
    · exact discarded?_of_stand_eq h
    · cases hs : s.aggregator.stand <;> simp_all [Step.discarded?, Aggregator.underWay]
  have hl : t.aggregator.stand ≠ .stopped → s.aggregator.stand ≠ .stopped := by
    rcases hst with h | ⟨-, -, h⟩
    · exact fun ht hs => ht (h.trans hs)
    · exact fun _ => h
  refine ⟨?_, ?_, ?_, ?_, ?_⟩ <;> simp only [pushed_snoc, placed_snoc, discarded_snoc, hpu, hpl, hd,
    Option.toList_none, List.append_nil, hu, hp]
  · exact hI.total
  · exact hI.full
  · exact fun ht => hI.last (hl ht)
  · exact hI.single
  · exact fun h => hc (hI.cause h)

omit [Averageable ν] in
/-- A step that stops the aggregator discards what waited for room. -/
theorem Accounted.stop (hI : Accounted ts s) (hs : s.aggregator.stand ≠ .stopped)
    (hpu : Step.pushed? ⟨now, s, move, t, out⟩ = none)
    (hpl : Step.placed? ⟨now, s, move, t, out⟩ = none)
    (hst : t.aggregator.stand = .stopped) (hp : t.aggregator.pending = s.aggregator.pending)
    (hc : t.cancelled = true ∨ t.output.receiverAlive = false) :
    Accounted (ts ++ [⟨now, s, move, t, out⟩]) t := by
  have hu : t.aggregator.underWay = [] := by simp only [Aggregator.underWay, hst]
  have hd : (Step.discarded? ⟨now, s, move, t, out⟩).toList = s.aggregator.underWay := by
    cases hs' : s.aggregator.stand <;> simp [Step.discarded?, Aggregator.underWay, hs', hst]
  have hnone : discarded ts = [] := hI.last hs
  have htotal := hI.total
  have hfull := hI.full
  rw [hnone] at htotal hfull
  refine ⟨?_, ?_, ?_, ?_, fun _ => hc⟩ <;> simp only [pushed_snoc, placed_snoc, discarded_snoc,
    hpu, hpl, hd, Option.toList_none, List.append_nil, hu, hp, hnone, List.nil_append]
  · rw [htotal, samplesOf_nil]
    omega
  · rwa [List.append_nil] at hfull
  · exact fun ht => absurd hst ht
  · cases hs' : s.aggregator.stand <;> simp [Aggregator.underWay, hs']

/-- **Every step keeps the accounts.** -/
theorem accounted_step (hI : Accounted ts s) (he : Effect now s move t) :
    Accounted (ts ++ [⟨now, s, move, t, out⟩]) t := by
  have htotal := hI.total
  cases he with
  | push x =>
    have hd : Step.discarded? ⟨now, s, .own (.push x), { s with aggregator := s.aggregator.push x },
        out⟩ = none := discarded?_of_stand_eq rfl
    refine ⟨?_, ?_, ?_, ?_, ?_⟩ <;> rw [discarded_snoc, hd, Option.toList_none, List.append_nil]
    · have hpl : Step.placed? ⟨now, s, .own (.push x),
          { s with aggregator := s.aggregator.push x }, out⟩ = none := rfl
      have hp : (s.aggregator.push x).pending = s.aggregator.pending + 1 := rfl
      have hu : (s.aggregator.push x).underWay = s.aggregator.underWay := rfl
      rw [pushed_snoc, placed_snoc, hpl, hp, hu, List.length_append, htotal]
      simp only [Step.pushed?, Option.toList_some, List.length_singleton, Option.toList_none,
        List.append_nil]
      omega
    · exact hI.full
    · exact hI.last
    · exact hI.single
    · exact hI.cause
  | pass stamp deadline hc hs hd hp =>
    refine hI.keep rfl rfl (.inr ⟨rfl, ?_, ?_⟩) rfl id
    · simp only [Aggregator.underWay, hs]
    · simp only [hs, ne_eq, reduceCtorEq, not_false_eq_true]
  | close stamp deadline hc hs hd hp =>
    -- the samples go from the open window to the snapshot that waits
    have hn : s.aggregator.underWay = [] := by simp only [Aggregator.underWay, hs]
    have hnone : discarded ts = [] := hI.last (by simp [hs])
    rw [hn, hnone] at htotal
    refine ⟨?_, ?_, ?_, ?_, ?_⟩ <;> simp only [discarded_snoc, Step.discarded?, hs,
      Option.toList_none, List.append_nil, hnone]
    · simp only [pushed_snoc, placed_snoc, Step.pushed?, Step.placed?, Option.toList_none,
        List.append_nil, htotal, Aggregator.underWay, samplesOf_singleton, samplesOf_nil]
      simp only [Aggregator.pending, Accumulator.count_empty]
      omega
    · intro x hx
      rw [List.mem_singleton.mp hx]
      exact Nat.pos_of_ne_zero hp
    · exact fun _ => trivial
    · exact Nat.zero_le 1
    · exact fun h => absurd rfl h
  | place snapshot deadline rest hc hs ho =>
    have hu : s.aggregator.underWay = [snapshot] := by simp only [Aggregator.underWay, hs]
    have hnone : discarded ts = [] := hI.last (by simp [hs])
    rw [hu, hnone] at htotal
    refine ⟨?_, ?_, ?_, ?_, ?_⟩ <;> simp only [discarded_snoc, Step.discarded?, hs,
      Option.toList_none, List.append_nil, hnone]
    · simp only [pushed_snoc, placed_snoc, Step.pushed?, Step.placed?, hs, ho, Option.toList_none,
        Option.toList_some, List.append_nil, htotal, Aggregator.underWay, Aggregator.pending,
        samplesOf_append, samplesOf_singleton, samplesOf_nil]
      omega
    · exact fun x hx => absurd hx List.not_mem_nil
    · exact fun _ => trivial
    · exact Nat.zero_le 1
    · exact fun h => absurd rfl h
  | refuse snapshot deadline hc hs ho =>
    have hr : s.output.receiverAlive = false := (Channel.offer_eq_refused_iff _ _).mp ho
    refine hI.stop (by simp [hs]) rfl ?_ rfl rfl (.inr hr)
    simp only [Step.placed?, hs, ho]
  | halt hc hs => exact hI.stop hs rfl rfl rfl rfl (.inl hc)
  | receive snapshot rest ho =>
    refine hI.keep rfl rfl (.inl rfl) rfl (Or.imp_right fun h => ?_)
    rw [Channel.eq_of_poll ho]
    exact h
  | drop => exact hI.keep rfl rfl (.inl rfl) rfl fun _ => .inr rfl
  | cancel => exact hI.keep rfl rfl (.inl rfl) rfl fun _ => .inl rfl

end Step

/-- **The accounts of every course are in order.** -/
theorem accounted_of_course {warmup steady : Duration} {capacity start₀ now : Nat}
    {ts : List (Step ν)} {s : Aggregation ν}
    (h : Course step start₀ (start warmup steady capacity start₀) ts now s) : Accounted ts s := by
  induction h with
  | start => exact accounted_start warmup steady capacity start₀
  | step _ hs ih => exact accounted_step ih (effect_of_step hs)
  | wait _ _ ih => exact ih

/-! ## 2. What is lost -/

/-- **A sample is missing exactly if a snapshot was discarded.** On every course, whatever is
pushed, however the receiver reads or stalls, and whenever the shutdown comes: the samples pushed
are those of the snapshots placed in the channel, of the snapshot that waits for room, of the open
window, and of the snapshots discarded. So none is missing from the first three places exactly if
no snapshot was discarded. At most one is, as the last thing the aggregator does, and only because
it saw the shutdown while that snapshot waited, unless its channel has no receiver. -/
theorem samples_accounted {warmup steady : Duration} {capacity start₀ now : Nat}
    {ts : List (Step ν)} {s : Aggregation ν}
    (h : Course step start₀ (start warmup steady capacity start₀) ts now s) :
    (pushed ts).length = samplesOf (placed ts) + samplesOf s.aggregator.underWay
        + s.aggregator.pending + samplesOf (discarded ts) ∧
      ((pushed ts).length = samplesOf (placed ts) + samplesOf s.aggregator.underWay
        + s.aggregator.pending ↔ discarded ts = []) ∧
      (discarded ts).length ≤ 1 ∧
      (discarded ts ≠ [] → s.aggregator.isStopped = true ∧
        (s.cancelled = true ∨ s.output.receiverAlive = false)) := by
  have hI := accounted_of_course h
  have htotal := hI.total
  have hzero : samplesOf (discarded ts) = 0 ↔ discarded ts = [] :=
    samplesOf_eq_zero_iff fun x hx => hI.full x (List.mem_append_right _ hx)
  refine ⟨htotal, ?_, hI.single, fun hne => ⟨?_, hI.cause hne⟩⟩
  · rw [← hzero]
    omega
  · rw [isStopped_eq_true_iff]
    exact Classical.byContradiction fun hs => hne (hI.last hs)

theorem shortWindow_lt : 100 < UInt64.size * 1000000000 := by
  decide

/-- Windows of a hundred nanoseconds, for the two courses below. -/
def shortWindow : Duration :=
  ⟨100, shortWindow_lt⟩

/-- A sample that carries no group. -/
def bareSample : Sample Float :=
  ⟨⟨0⟩, {}⟩

/-- A course on which both windows come through: the receiver makes room in time. -/
theorem samples_accounted_read_in_time :
    ∃ (ts : List (Step Float)) (now : Nat) (s : Aggregation Float),
      Course step 0 (start shortWindow shortWindow 1 0) ts now s ∧ discarded ts = [] ∧
      (pushed ts).length = samplesOf (placed ts) + samplesOf s.aggregator.underWay
        + s.aggregator.pending ∧
      samplesOf (placed ts) = 3 ∧ s.aggregator.isStopped = true := by
  have h : Course step 0 (start shortWindow shortWindow 1 0) _ _ _ :=
    course_of_drive [(10, .own (.push bareSample)), (100, .own (.fire ⟨0⟩)),
      (100, .own .send), (110, .own (.push bareSample)), (110, .own (.push bareSample)),
      (200, .own (.fire ⟨1⟩)), (210, .receive), (210, .own .send), (260, .cancel),
      (260, .own .halt)] rfl
  exact ⟨_, _, _, h, rfl, (samples_accounted h).2.1.mpr rfl, rfl, rfl⟩

/-- **A sample can vanish though the receiver stays**: it reads late, and the shutdown comes while
the second window's snapshot waits for room. -/
theorem shutdown_discards_samples :
    ∃ (ts : List (Step Float)) (now : Nat) (s : Aggregation Float),
      Course step 0 (start shortWindow shortWindow 1 0) ts now s ∧
      s.aggregator.isStopped = true ∧ s.output.receiverAlive = true ∧
      (pushed ts).length ≠ samplesOf (placed ts) + s.aggregator.pending := by
  have h : Course step 0 (start shortWindow shortWindow 1 0) _ _ _ :=
    course_of_drive [(10, .own (.push bareSample)), (100, .own (.fire ⟨0⟩)),
      (100, .own .send), (110, .own (.push bareSample)), (200, .own (.fire ⟨1⟩)),
      (260, .cancel), (260, .own .halt), (261, .receive)] rfl
  refine ⟨_, _, _, h, rfl, rfl, ?_⟩
  decide

end Vitals.Aggregation
