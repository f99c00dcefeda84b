import Mathlib.Data.List.Forall2
import Vitals.Proofs.Window.Accounting

/-!
# Windows partition the samples

Samples are pushed at any time, also while the timer task waits for room and afterwards closes
several windows that are overdue, one right after another. This file cuts the sequence of pushed
samples wherever a window was closed. It fixes

* `Step.closed?`, the snapshot of the window that a step closes, and `cut`, the pushed samples in
  the segments of the closed windows and those that are pending;
* `Segmented`, the invariant: the segments, laid end to end with the pending samples, are the
  samples pushed, and the closed windows are their averages, in order;
* `Partition`, what a course says of its windows.

Main statement: every course of an aggregator partitions its samples (`windows_partition`).
-/

namespace Vitals

/-! ## 1. Averages of samples -/

namespace Accumulator

variable {ν : Type} [Averageable ν]

/-- A snapshot is the average of samples. -/
def IsMean (x : Snapshot ν) (ss : List (Sample ν)) : Prop :=
  (ofSamples ss).mean x.timestamp = some x

theorem ofSamples_snoc (ss : List (Sample ν)) (s : Sample ν) :
    ofSamples (ss ++ [s]) = (ofSamples ss).fold s := by
  rw [ofSamples, List.foldl_append]
  rfl

theorem isMean_mk {ss : List (Sample ν)} (h : ss ≠ []) (stamp : Moment) :
    IsMean ⟨stamp, ss.length, (ofSamples ss).metrics⟩ ss := by
  have hne : ss.length ≠ 0 := fun e => h (List.length_eq_zero_iff.mp e)
  rw [IsMean, mean, count_ofSamples, if_neg hne]

/-- The average of samples tells how many they are, and there is none of no samples. -/
theorem IsMean.samples {x : Snapshot ν} {ss : List (Sample ν)} (h : IsMean x ss) :
    x.samples = ss.length ∧ ss ≠ [] := by
  unfold IsMean mean at h
  rw [count_ofSamples] at h
  split at h
  · cases h
  · rename_i hne
    refine ⟨?_, fun e => hne (List.length_eq_zero_iff.mpr e)⟩
    rw [← Option.some.inj h]

end Accumulator

namespace Aggregation

variable {ν : Type} [Averageable ν]

/-! ## 2. Segments -/

/-- The snapshot of the window that a step closes. -/
def Step.closed? (t : Step ν) : Option (Snapshot ν) :=
  match t.before.aggregator.stand, t.after.aggregator.stand with
  | .waiting _, .sending snapshot _ => some snapshot
  | _, _ => none

/-- A sequence of samples, cut into segments. -/
structure Segments (ν : Type) where
  /-- The segments of the closed windows, the oldest first. -/
  closed : List (List (Sample ν)) := []
  /-- The samples since. -/
  pending : List (Sample ν) := []

/-- The segments after one more step. -/
def Segments.next (c : Segments ν) (t : Step ν) : Segments ν :=
  match t.closed? with
  | some _ => ⟨c.closed ++ [c.pending], []⟩
  | none => { c with pending := c.pending ++ t.pushed?.toList }

/-- The samples pushed so far, cut wherever a window was closed. -/
def cut (ts : List (Step ν)) : Segments ν :=
  ts.foldl Segments.next {}

section

variable (ts : List (Step ν)) (t : Step ν)

omit [Averageable ν] in
theorem cut_snoc : cut (ts ++ [t]) = (cut ts).next t := by
  rw [cut, List.foldl_append]
  rfl

variable {t}

omit [Averageable ν] in
theorem cut_of_closed {x : Snapshot ν} (h : t.closed? = some x) :
    cut (ts ++ [t]) = ⟨(cut ts).closed ++ [(cut ts).pending], []⟩ := by
  rw [cut_snoc, Segments.next, h]

omit [Averageable ν] in
theorem cut_of_pushed {x : Sample ν} (h : t.closed? = none) (hp : t.pushed? = some x) :
    cut (ts ++ [t]) = ⟨(cut ts).closed, (cut ts).pending ++ [x]⟩ := by
  rw [cut_snoc, Segments.next, h, hp]
  rfl

omit [Averageable ν] in
theorem cut_of_none (h : t.closed? = none) (hp : t.pushed? = none) : cut (ts ++ [t]) = cut ts := by
  rw [cut_snoc, Segments.next, h, hp]
  simp

end

/-! ## 3. The invariant -/

/-- The snapshots of the windows closed so far: those that were placed, the one that waits for
room, and the one that was discarded. -/
def closed (ts : List (Step ν)) (s : Aggregation ν) : List (Snapshot ν) :=
  placed ts ++ s.aggregator.underWay ++ discarded ts

/-- **The windows of a course are segments of its samples.** -/
structure Segmented (ts : List (Step ν)) (s : Aggregation ν) : Prop where
  whole : (cut ts).closed.flatten ++ (cut ts).pending = pushed ts
  /-- The open window holds what was pushed since the last one was closed. -/
  window : s.aggregator.window = .ofSamples (cut ts).pending
  means : List.Forall₂ Accumulator.IsMean (closed ts s) (cut ts).closed

theorem segmented_start (warmup steady : Duration) (capacity now : Nat) :
    Segmented [] (start warmup steady capacity now : Aggregation ν) where
  whole := rfl
  window := rfl
  means := .nil

section

variable {now : Nat} {ts : List (Step ν)} {s t : Aggregation ν} {move : Move ν} {out : List Event}

omit [Averageable ν] in
/-- A step closes a window only where it comes to wait for room. -/
theorem closed?_of_underWay (h : t.aggregator.underWay = []) :
    Step.closed? ⟨now, s, move, t, out⟩ = none := by
  unfold Step.closed?
  split
  · rename_i snapshot deadline _ ht
    have ht : t.aggregator.stand = .sending snapshot deadline := ht
    simp [Aggregator.underWay, ht] at h
  · rfl

omit [Averageable ν] in
theorem closed?_of_stand_eq (h : t.aggregator.stand = s.aggregator.stand) :
    Step.closed? ⟨now, s, move, t, out⟩ = none := by
  cases hs : s.aggregator.stand <;> simp [Step.closed?, h, hs]

/-- A step that neither pushes a sample nor closes a window keeps the segments, as long as it
leaves the snapshots of the closed windows as they are. -/
theorem Segmented.keep (hI : Segmented ts s)
    (hpu : Step.pushed? ⟨now, s, move, t, out⟩ = none)
    (hcl : Step.closed? ⟨now, s, move, t, out⟩ = none)
    (hw : t.aggregator.window = s.aggregator.window)
    (hc : closed (ts ++ [⟨now, s, move, t, out⟩]) t = closed ts s) :
    Segmented (ts ++ [⟨now, s, move, t, out⟩]) t := by
  have hcut := cut_of_none ts hcl hpu
  refine ⟨?_, ?_, ?_⟩
  · rw [hcut, pushed_snoc, hpu, hI.whole]
    exact (List.append_nil _).symm
  · rw [hcut, hw]
    exact hI.window
  · rw [hcut, hc]
    exact hI.means

omit [Averageable ν] in
/-- The snapshots of the closed windows stay if none is placed and the timer task stands as it
stood. -/
theorem closed_of_stand_eq (hpl : Step.placed? ⟨now, s, move, t, out⟩ = none)
    (hst : t.aggregator.stand = s.aggregator.stand) :
    closed (ts ++ [⟨now, s, move, t, out⟩]) t = closed ts s := by
  have hd : Step.discarded? ⟨now, s, move, t, out⟩ = none := discarded?_of_stand_eq hst
  have hu : t.aggregator.underWay = s.aggregator.underWay := by
    simp only [Aggregator.underWay, hst]
  rw [closed, closed, placed_snoc, discarded_snoc, hpl, hd, hu]
  simp

omit [Averageable ν] in
/-- A snapshot that waits when the aggregator stops is discarded. -/
theorem closed_of_stop (hpl : Step.placed? ⟨now, s, move, t, out⟩ = none)
    (hst : t.aggregator.stand = .stopped) (hd : discarded ts = []) :
    closed (ts ++ [⟨now, s, move, t, out⟩]) t = closed ts s := by
  have hu : t.aggregator.underWay = [] := by simp only [Aggregator.underWay, hst]
  have hdis : (Step.discarded? ⟨now, s, move, t, out⟩).toList = s.aggregator.underWay := by
    cases hs : s.aggregator.stand <;> simp [Step.discarded?, Aggregator.underWay, hs, hst]
  rw [closed, closed, placed_snoc, discarded_snoc, hpl, hdis, hu, hd]
  simp

/-- **Every step keeps the segments.** -/
theorem segmented_step (hA : Accounted ts s) (hI : Segmented ts s) (he : Effect now s move t) :
    Segmented (ts ++ [⟨now, s, move, t, out⟩]) t := by
  cases he with
  | push x =>
    have hopen : Step.closed? ⟨now, s, .own (.push x),
        { s with aggregator := s.aggregator.push x }, out⟩ = none := closed?_of_stand_eq rfl
    have hpl : Step.placed? ⟨now, s, .own (.push x),
        { s with aggregator := s.aggregator.push x }, out⟩ = none := rfl
    have hcut := cut_of_pushed ts hopen rfl
    refine ⟨?_, ?_, ?_⟩
    · rw [hcut, pushed_snoc, ← hI.whole, List.append_assoc]
      rfl
    · rw [hcut, Accumulator.ofSamples_snoc, ← hI.window]
      rfl
    · rw [hcut, closed_of_stand_eq hpl rfl]
      exact hI.means
  | pass stamp deadline hc hs hd hp =>
    have hu : s.aggregator.underWay = [] := by simp only [Aggregator.underWay, hs]
    refine hI.keep rfl (closed?_of_underWay rfl) rfl ?_
    rw [closed, closed, placed_snoc, discarded_snoc, hu]
    simp [Step.placed?, Step.discarded?, hs, Aggregator.underWay]
  | close stamp deadline hc hs hd hp =>
    have hu : s.aggregator.underWay = [] := by simp only [Aggregator.underWay, hs]
    have hnone : discarded ts = [] := hA.last (by simp [hs])
    have hne : (cut ts).pending ≠ [] := by
      intro e
      rw [Aggregator.pending, hI.window, e] at hp
      exact hp rfl
    have hcount : s.aggregator.pending = (cut ts).pending.length := by
      rw [Aggregator.pending, hI.window, Accumulator.count_ofSamples]
    have hclosed : Step.closed? ⟨now, s, .own (.fire stamp), { s with
        aggregator := { s.aggregator with
          window := Accumulator.empty
          stand := .sending
            ⟨stamp, s.aggregator.pending, s.aggregator.window.metrics⟩ deadline } }, out⟩ =
        some ⟨stamp, s.aggregator.pending, s.aggregator.window.metrics⟩ := by
      simp only [Step.closed?, hs]
    have hcut := cut_of_closed ts hclosed
    refine ⟨?_, ?_, ?_⟩
    · rw [hcut, pushed_snoc, ← hI.whole]
      simp [Step.pushed?]
    · rw [hcut]
      rfl
    · have hmeans := hI.means
      rw [closed, hu, hnone, List.append_nil, List.append_nil] at hmeans
      rw [hcut, closed, placed_snoc, discarded_snoc, hnone]
      simp only [Step.placed?, Step.discarded?, hs, Aggregator.underWay, Option.toList_none,
        List.append_nil]
      refine List.rel_append hmeans (.cons ?_ .nil)
      rw [hcount, hI.window]
      exact Accumulator.isMean_mk hne stamp
  | place snapshot deadline rest hc hs ho =>
    have hu : s.aggregator.underWay = [snapshot] := by simp only [Aggregator.underWay, hs]
    have hnone : discarded ts = [] := hA.last (by simp [hs])
    refine hI.keep rfl (closed?_of_underWay rfl) rfl ?_
    rw [closed, closed, placed_snoc, discarded_snoc, hu, hnone]
    simp [Step.placed?, Step.discarded?, hs, ho, Aggregator.underWay]
  | refuse snapshot deadline hc hs ho =>
    refine hI.keep rfl (closed?_of_underWay rfl) rfl (closed_of_stop ?_ rfl (hA.last (by simp [hs])))
    simp only [Step.placed?, hs, ho]
  | halt hc hs =>
    exact hI.keep rfl (closed?_of_underWay rfl) rfl (closed_of_stop rfl rfl (hA.last hs))
  | receive | drop | cancel =>
    exact hI.keep rfl (closed?_of_stand_eq rfl) rfl (closed_of_stand_eq rfl rfl)

/-- **The windows of every course are segments of its samples.** -/
theorem segmented_of_course {warmup steady : Duration} {capacity start₀ : Nat}
    (h : Course step start₀ (start warmup steady capacity start₀) ts now s) : Segmented ts s := by
  induction h with
  | start => exact segmented_start warmup steady capacity start₀
  | step h hs ih => exact segmented_step (accounted_of_course h) ih (effect_of_step hs)
  | wait _ _ ih => exact ih

/-! ## 4. After the shutdown -/

/-- The shutdown is for good, and nothing is placed after it. -/
theorem Effect.cancelled (he : Effect now s move t) (hc : s.cancelled = true) :
    t.cancelled = true ∧ Step.placed? ⟨now, s, move, t, out⟩ = none := by
  cases he with
  | place snapshot deadline rest hn =>
    rw [hn] at hc
    cases hc
  | refuse snapshot deadline hn =>
    rw [hn] at hc
    cases hc
  | push | pass | close | halt | receive | drop => exact ⟨hc, rfl⟩
  | cancel => exact ⟨rfl, rfl⟩

theorem placed_of_cancelled {start₀ : Nat} {s₀ : Aggregation ν}
    (h : Course step start₀ s₀ ts now s) {front back : List (Step ν)} {u : Step ν}
    (e : ts = front ++ u :: back) (hu : u.move = .cancel) :
    s.cancelled = true ∧ placed ts = placed front := by
  induction h generalizing back with
  | start => simp at e
  | wait _ _ ih => exact ih e
  | step h hs ih =>
    rcases snoc_eq_append_cons e with ⟨rfl, rfl, -⟩ | ⟨back, -, rfl⟩
    · cases hu
      rw [placed_snoc]
      cases effect_of_step hs
      exact ⟨rfl, List.append_nil _⟩
    · obtain ⟨hc, hp⟩ := ih rfl
      obtain ⟨hc', hnone⟩ := (effect_of_step hs).cancelled hc
      refine ⟨hc', ?_⟩
      rw [placed_snoc, hnone, hp]
      exact List.append_nil _

/-! ## 5. Partitions -/

/-- A window without samples ends: nothing is said of it, and everything but the deadline stays. -/
theorem Effect.idle {stamp : Moment} (he : Effect now s (.own (.fire stamp)) t)
    (hp : s.aggregator.pending = 0) : t.aggregator.window = s.aggregator.window ∧
      t.aggregator.underWay = [] ∧ t.output = s.output := by
  cases he with
  | pass _ deadline hc hs hd => exact ⟨rfl, rfl, rfl⟩
  | close _ deadline hc hs hd hne => exact absurd hp hne

end

/-- Two lists whose members correspond, place by place. -/
theorem exists_of_forall₂ {α β : Type} {R : α → β → Prop} {l : List α} {m : List β}
    (h : List.Forall₂ R l m) {k : Nat} {a : α} (ha : l[k]? = some a) :
    ∃ b, m[k]? = some b ∧ R a b := by
  obtain ⟨hk, rfl⟩ := List.getElem?_eq_some_iff.mp ha
  have hk' : k < m.length := h.length_eq ▸ hk
  exact ⟨m[k], List.getElem?_eq_getElem hk', h.get hk hk'⟩

/-- **What a course says of its windows.** -/
structure Partition (ts : List (Step ν)) (s : Aggregation ν) : Prop where
  /-- The segments of the closed windows and the pending samples make up the samples pushed, -/
  whole : (cut ts).closed.flatten ++ (cut ts).pending = pushed ts
  /-- no segment is empty, -/
  filled : ∀ segment ∈ (cut ts).closed, segment ≠ []
  /-- and the open window is that of the pending samples. -/
  pending : s.aggregator.window = .ofSamples (cut ts).pending ∧
    s.aggregator.pending = (cut ts).pending.length
  /-- The snapshots placed in the channel are the averages of the first segments, one each. -/
  placed : ∀ (k : Nat) (x : Snapshot ν), (Aggregation.placed ts)[k]? = some x →
    ∃ segment, (cut ts).closed[k]? = some segment ∧ Accumulator.IsMean x segment ∧
      x.samples = segment.length
  /-- The only other closed window is the one whose snapshot waits for room or was discarded. -/
  others : (cut ts).closed.length = (Aggregation.placed ts).length
    + (s.aggregator.underWay.length + (discarded ts).length)
  /-- A window that ends without a sample brings nothing. -/
  idle : ∀ t ∈ ts, ∀ stamp, t.move = .own (.fire stamp) → t.before.aggregator.pending = 0 →
    t.after.aggregator.window = t.before.aggregator.window ∧ t.after.aggregator.underWay = [] ∧
      t.after.output = t.before.output
  /-- After the shutdown nothing is placed. -/
  shut : ∀ front t back, ts = front ++ t :: back → t.move = .cancel →
    Aggregation.placed ts = Aggregation.placed front

/-- **Windows partition the samples.** On every course, whatever is pushed and when, however the
receiver reads or stalls, and whenever windows end or the shutdown comes, the samples lie in the
windows as `Partition` says. -/
theorem windows_partition {warmup steady : Duration} {capacity start₀ now : Nat}
    {ts : List (Step ν)} {s : Aggregation ν}
    (h : Course step start₀ (start warmup steady capacity start₀) ts now s) : Partition ts s := by
  have hI := segmented_of_course h
  have hmeans := hI.means
  have hlength := hmeans.length_eq
  rw [closed, List.append_assoc, List.length_append, List.length_append] at hlength
  refine ⟨hI.whole, fun segment hmem => ?_, ⟨hI.window, ?_⟩, fun k x hx => ?_, hlength.symm,
    fun t hmem stamp hm hp => ?_, fun front t back e hm => (placed_of_cancelled h e hm).2⟩
  · obtain ⟨k, hk⟩ := List.getElem?_of_mem hmem
    obtain ⟨x, -, hx⟩ := exists_of_forall₂ hmeans.flip hk
    exact (show Accumulator.IsMean x segment from hx).samples.2
  · rw [Aggregator.pending, hI.window, Accumulator.count_ofSamples]
  · have hx' : (closed ts s)[k]? = some x := by
      obtain ⟨hk, -⟩ := List.getElem?_eq_some_iff.mp hx
      rw [closed, List.append_assoc, List.getElem?_append_left hk, hx]
    obtain ⟨segment, hsegment, hmean⟩ := exists_of_forall₂ hmeans hx'
    exact ⟨segment, hsegment, hmean, hmean.samples.1⟩
  · obtain ⟨front, back, e⟩ := List.append_of_mem hmem
    have he := effect_of_step (h.split e).2
    rw [hm] at he
    exact he.idle hp

/-- A course on which the second snapshot waits for room past the end of the third window, and the
fourth window ends without a sample. -/
theorem windows_partition_overdue :
    ∃ (ts : List (Step Float)) (now : Nat) (s : Aggregation Float),
      Course step 0 (start shortWindow shortWindow 1 0) ts now s ∧
      (cut ts).closed.map List.length = [1, 2, 1] ∧ s.aggregator.pending = 1 ∧
      (placed ts).map Snapshot.samples = [1, 2, 1] ∧ Partition ts s := by
  have h : Course step 0 (start shortWindow shortWindow 1 0) _ _ _ :=
    course_of_drive [(10, .own (.push bareSample)), (100, .own (.fire ⟨0⟩)), (100, .own .send),
      (110, .own (.push bareSample)), (110, .own (.push bareSample)), (200, .own (.fire ⟨1⟩)),
      (250, .own (.push bareSample)), (310, .receive), (310, .own .send),
      (310, .own (.fire ⟨2⟩)), (320, .receive), (320, .own .send), (400, .own (.fire ⟨3⟩)),
      (410, .own (.push bareSample)), (420, .cancel), (420, .own .halt)] rfl
  exact ⟨_, _, _, h, rfl, rfl, rfl, windows_partition h⟩

end Aggregation

end Vitals
