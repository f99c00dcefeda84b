import Mathlib.Data.List.Induction
import Mathlib.Data.List.Perm.Basic
import Vitals.Proofs.Window.Partition

/-!
# What the snapshot of a window averages

An accumulator is folded into, asked for the mean of its window, and taken, in any order. This file
says what its answers are, field by field and without the running sums. It fixes

* `averages`, the averages of samples: a numeric group over the samples that carry it, each field
  added up in the order of the samples; of the other groups the last one seen;
* `Call` and `run`, the calls of an accumulator with their answers, and `sinceTake`, the samples
  folded since the last call that took a snapshot;
* `IsExact`, an addition that does not depend on the order, and `Averaging`, what all calls make
  of an accumulator.

Main statement: whatever was called before, the snapshot is that of the samples folded since the
last one was taken (`windows_averaged`).
-/

namespace Vitals

/-! ## 1. Averages -/

section

variable {ν : Type} [Averageable ν]

/-- Values added up in their order, from zero on. -/
def total (xs : List ν) : ν :=
  xs.foldl Averageable.add Averageable.zero

/-- The average of one field of a group. -/
def averageOf {γ : Type} (field : γ → ν) (gs : List γ) : ν :=
  Averageable.div (total (gs.map field)) gs.length

omit [Averageable ν] in
/-- The values of a group in the samples that carry it, in their order. -/
def carried {γ : Type} (group : Metrics ν → Option γ) (ss : List (Sample ν)) : List γ :=
  ss.filterMap fun s => group s.metrics

/-- What is made of groups, if there are any. -/
def ofAny {γ : Type} (f : List γ → γ) : List γ → Option γ
  | [] => none
  | g :: gs => some (f (g :: gs))

def LoadAverage.average (ls : List (LoadAverage ν)) : LoadAverage ν :=
  ⟨averageOf (·.one) ls, averageOf (·.five) ls, averageOf (·.fifteen) ls⟩

def CpuUsage.average (us : List (CpuUsage ν)) : CpuUsage ν :=
  ⟨averageOf (·.busyPercent) us, averageOf (·.idlePercent) us⟩

def DiskUsage.average (ds : List (DiskUsage ν)) : DiskUsage ν :=
  ⟨averageOf (·.kbPerTransfer) ds, averageOf (·.mbPerSecond) ds,
    averageOf (·.transfersPerSecond) ds⟩

/-- **The averages of samples.** -/
def averages (ss : List (Sample ν)) : Metrics ν where
  loadAverage := ofAny LoadAverage.average (carried (·.loadAverage) ss)
  cpuUsage := ofAny CpuUsage.average (carried (·.cpuUsage) ss)
  diskUsage := ofAny DiskUsage.average (carried (·.diskUsage) ss)
  networkTalkers := (carried (·.networkTalkers) ss).getLast?
  fileSystems := (carried (·.fileSystems) ss).getLast?

/-- A field that is added up with its group. -/
theorem total_field {γ : Type} [Averageable γ] (field : γ → ν)
    (hzero : field Averageable.zero = Averageable.zero)
    (hadd : ∀ x y, field (Averageable.add x y) = Averageable.add (field x) (field y))
    (gs : List γ) : field (total gs) = total (gs.map field) := by
  rw [total, total, ← hzero, List.foldl_map]
  exact (List.foldl_hom field fun x y => (hadd x y).symm).symm

theorem LoadAverage.div_total (ls : List (LoadAverage ν)) :
    Averageable.div (total ls) ls.length = LoadAverage.average ls := by
  show LoadAverage.mk (Averageable.div (total ls).one _) (Averageable.div (total ls).five _)
    (Averageable.div (total ls).fifteen _) = _
  rw [total_field LoadAverage.one rfl fun _ _ => rfl,
    total_field LoadAverage.five rfl fun _ _ => rfl,
    total_field LoadAverage.fifteen rfl fun _ _ => rfl]
  rfl

theorem CpuUsage.div_total (us : List (CpuUsage ν)) :
    Averageable.div (total us) us.length = CpuUsage.average us := by
  show CpuUsage.mk (Averageable.div (total us).busyPercent _)
    (Averageable.div (total us).idlePercent _) = _
  rw [total_field CpuUsage.busyPercent rfl fun _ _ => rfl,
    total_field CpuUsage.idlePercent rfl fun _ _ => rfl]
  rfl

theorem DiskUsage.div_total (ds : List (DiskUsage ν)) :
    Averageable.div (total ds) ds.length = DiskUsage.average ds := by
  show DiskUsage.mk (Averageable.div (total ds).kbPerTransfer _)
    (Averageable.div (total ds).mbPerSecond _)
    (Averageable.div (total ds).transfersPerSecond _) = _
  rw [total_field DiskUsage.kbPerTransfer rfl fun _ _ => rfl,
    total_field DiskUsage.mbPerSecond rfl fun _ _ => rfl,
    total_field DiskUsage.transfersPerSecond rfl fun _ _ => rfl]
  rfl

/-! ## 2. The window of samples -/

namespace Accumulator

omit [Averageable ν] in
theorem carried_snoc {γ : Type} (group : Metrics ν → Option γ) (ss : List (Sample ν))
    (s : Sample ν) : carried group (ss ++ [s]) = carried group ss ++ (group s.metrics).toList :=
  filterMap_snoc _ ss s

/-- A sum that every sample is folded into is the sum of the groups carried. -/
theorem sum_ofSamples {γ : Type} [Averageable γ] (sum : Accumulator ν → Sum γ)
    (group : Metrics ν → Option γ) (hempty : sum empty = Sum.empty)
    (hfold : ∀ a s, sum (fold a s) = (sum a).addIf (group s.metrics)) (ss : List (Sample ν)) :
    sum (ofSamples ss) = ⟨total (carried group ss), (carried group ss).length⟩ := by
  induction ss using List.reverseRecOn with
  | nil => exact hempty
  | append_singleton ss s ih =>
    rw [ofSamples_snoc, hfold, ih, carried_snoc]
    cases group s.metrics with
    | none => simp [Sum.addIf]
    | some g => simp [Sum.addIf, total]

/-- A value that every sample replaces if it carries one is the last one carried. -/
theorem last_ofSamples {γ : Type} (last : Accumulator ν → Option γ)
    (group : Metrics ν → Option γ) (hempty : last empty = none)
    (hfold : ∀ a s, last (fold a s) = (group s.metrics).or (last a)) (ss : List (Sample ν)) :
    last (ofSamples ss) = (carried group ss).getLast? := by
  induction ss using List.reverseRecOn with
  | nil => exact hempty
  | append_singleton ss s ih =>
    rw [ofSamples_snoc, hfold, ih, carried_snoc]
    cases group s.metrics with
    | none => simp
    | some g => simp

theorem mean_sum {γ : Type} [Averageable γ] {average : List γ → γ}
    (h : ∀ gs : List γ, Averageable.div (total gs) gs.length = average gs) (gs : List γ) :
    Sum.mean ⟨total gs, gs.length⟩ = ofAny average gs := by
  cases gs with
  | nil => rfl
  | cons g gs => simp [Sum.mean, ofAny, ← h]

/-- **The metrics of a window are the averages of its samples.** -/
theorem metrics_ofSamples (ss : List (Sample ν)) : (ofSamples ss).metrics = averages ss := by
  have hload := sum_ofSamples (ν := ν) Accumulator.loadAverage Metrics.loadAverage rfl
    (fun _ _ => rfl) ss
  have hcpu := sum_ofSamples (ν := ν) Accumulator.cpuUsage Metrics.cpuUsage rfl
    (fun _ _ => rfl) ss
  have hdisk := sum_ofSamples (ν := ν) Accumulator.diskUsage Metrics.diskUsage rfl
    (fun _ _ => rfl) ss
  have htalkers := last_ofSamples (ν := ν) Accumulator.networkTalkers Metrics.networkTalkers rfl
    (fun _ _ => rfl) ss
  have hsystems := last_ofSamples (ν := ν) Accumulator.fileSystems Metrics.fileSystems rfl
    (fun _ _ => rfl) ss
  rw [metrics, averages, hload, hcpu, hdisk, htalkers, hsystems, mean_sum LoadAverage.div_total,
    mean_sum CpuUsage.div_total, mean_sum DiskUsage.div_total]

theorem mean_ofSamples_eq_none_iff (ss : List (Sample ν)) (now : Moment) :
    (ofSamples ss).mean now = none ↔ ss = [] := by
  rw [mean, count_ofSamples, ← List.length_eq_zero_iff]
  split
  · rename_i h
    exact iff_of_true rfl h
  · rename_i h
    exact iff_of_false (Option.some_ne_none _) h

theorem eq_of_mean_ofSamples {ss : List (Sample ν)} {now : Moment} {x : Snapshot ν}
    (h : (ofSamples ss).mean now = some x) : x = ⟨now, ss.length, averages ss⟩ := by
  rw [mean, count_ofSamples, metrics_ofSamples] at h
  split at h
  · cases h
  · exact (Option.some.inj h).symm

/-! ## 3. Calls -/

omit [Averageable ν] in
/-- What can be asked of an accumulator. -/
inductive Call (ν : Type) where
  | fold (s : Sample ν)
  | mean (now : Moment)
  | take (now : Moment)

/-- The accumulator after a call, and the answer. -/
def call (a : Accumulator ν) : Call ν → Accumulator ν × Option (Snapshot ν)
  | .fold s => (a.fold s, none)
  | .mean now => (a, a.mean now)
  | .take now => ((a.take now).2, (a.take now).1)

/-- The calls of an accumulator, made from the start, with their answers. -/
def run (cs : List (Call ν)) : Accumulator ν × List (Call ν × Option (Snapshot ν)) :=
  cs.foldl (fun (a, answered) c => ((a.call c).1, answered ++ [(c, (a.call c).2)])) (empty, [])

omit [Averageable ν] in
/-- The samples folded since the last call that took a snapshot, after one more call. -/
def keep (ss : List (Sample ν)) : Call ν × Option (Snapshot ν) → List (Sample ν)
  | (.fold s, _) => ss ++ [s]
  | (.take _, some _) => []
  | _ => ss

omit [Averageable ν] in
/-- The samples folded since the last call that took a snapshot. -/
def sinceTake (answered : List (Call ν × Option (Snapshot ν))) : List (Sample ν) :=
  answered.foldl keep []

/-- The samples of the window that some calls have left open. -/
def window (cs : List (Call ν)) : List (Sample ν) :=
  sinceTake (run cs).2

section

variable (cs : List (Call ν)) (c : Call ν)

theorem run_snoc : run (cs ++ [c]) =
    (((run cs).1.call c).1, (run cs).2 ++ [(c, ((run cs).1.call c).2)]) := by
  rw [run, List.foldl_append]
  rfl

theorem window_snoc : window (cs ++ [c]) = keep (window cs) (c, ((run cs).1.call c).2) := by
  rw [window, run_snoc, sinceTake, List.foldl_append]
  rfl

/-- A call keeps the accumulator that of its samples. -/
theorem call_ofSamples (ss : List (Sample ν)) :
    ((ofSamples ss).call c).1 = ofSamples (keep ss (c, ((ofSamples ss).call c).2)) := by
  cases c with
  | fold s => exact (ofSamples_snoc ss s).symm
  | mean now => rfl
  | take now =>
    simp only [call, take]
    cases (ofSamples ss).mean now <;> rfl

/-- **An accumulator holds the samples folded since the last snapshot was taken.** -/
theorem run_eq_ofSamples : (run cs).1 = ofSamples (window cs) := by
  induction cs using List.reverseRecOn with
  | nil => rfl
  | append_singleton cs c ih =>
    rw [window_snoc, run_snoc, ih]
    exact call_ofSamples c (window cs)

end

/-! ## 4. Exact arithmetic -/

end Accumulator

variable (ν) in
/-- An addition that does not depend on the order. -/
structure IsExact : Prop where
  comm : ∀ x y : ν, Averageable.add x y = Averageable.add y x
  assoc : ∀ x y z : ν,
    Averageable.add (Averageable.add x y) z = Averageable.add x (Averageable.add y z)

theorem IsExact.total_perm (h : IsExact ν) {xs ys : List ν} (hp : xs.Perm ys) :
    total xs = total ys := by
  have hright : RightCommutative (Averageable.add : ν → ν → ν) :=
    ⟨fun x y z => by rw [h.assoc, h.comm y z, ← h.assoc]⟩
  exact hp.foldl_eq Averageable.zero

theorem IsExact.averageOf_perm (h : IsExact ν) {γ : Type} (field : γ → ν) {gs gs' : List γ}
    (hp : gs.Perm gs') : averageOf field gs = averageOf field gs' := by
  rw [averageOf, averageOf, h.total_perm (hp.map field), hp.length_eq]

omit [Averageable ν] in
theorem ofAny_perm {γ : Type} {f : List γ → γ} {gs gs' : List γ} (hf : f gs = f gs')
    (hp : gs.Perm gs') : ofAny f gs = ofAny f gs' := by
  cases gs with
  | nil => rw [hp.nil_eq]
  | cons g gs =>
    cases gs' with
    | nil => exact absurd hp.eq_nil (List.cons_ne_nil g gs)
    | cons g' gs' => exact congrArg some hf

omit [Averageable ν] in
/-- The numeric groups of two metrics agree. -/
structure Metrics.SameNumbers (m m' : Metrics ν) : Prop where
  loadAverage : m.loadAverage = m'.loadAverage
  cpuUsage : m.cpuUsage = m'.cpuUsage
  diskUsage : m.diskUsage = m'.diskUsage

/-- **In exact arithmetic the numeric groups do not depend on the order of the samples.** -/
theorem IsExact.averages_perm (h : IsExact ν) {ss ss' : List (Sample ν)} (hp : ss.Perm ss') :
    (averages ss).SameNumbers (averages ss') where
  loadAverage := by
    have hc : (carried (·.loadAverage) ss).Perm (carried (·.loadAverage) ss') := hp.filterMap _
    refine ofAny_perm ?_ hc
    rw [LoadAverage.average, LoadAverage.average, h.averageOf_perm (·.one) hc,
      h.averageOf_perm (·.five) hc, h.averageOf_perm (·.fifteen) hc]
  cpuUsage := by
    have hc : (carried (·.cpuUsage) ss).Perm (carried (·.cpuUsage) ss') := hp.filterMap _
    refine ofAny_perm ?_ hc
    rw [CpuUsage.average, CpuUsage.average, h.averageOf_perm (·.busyPercent) hc,
      h.averageOf_perm (·.idlePercent) hc]
  diskUsage := by
    have hc : (carried (·.diskUsage) ss).Perm (carried (·.diskUsage) ss') := hp.filterMap _
    refine ofAny_perm ?_ hc
    rw [DiskUsage.average, DiskUsage.average, h.averageOf_perm (·.kbPerTransfer) hc,
      h.averageOf_perm (·.mbPerSecond) hc, h.averageOf_perm (·.transfersPerSecond) hc]

/-! ## 5. The answers of an accumulator -/

namespace Accumulator

/-- **What an accumulator answers after some calls.** -/
structure Averaging (cs : List (Call ν)) : Prop where
  /-- There is no snapshot exactly if nothing was folded since the last one was taken. -/
  none_iff : ∀ now, ((run cs).1.call (.mean now)).2 = none ↔ window cs = []
  /-- A snapshot counts and averages the samples folded since. -/
  snapshot : ∀ now x, ((run cs).1.call (.mean now)).2 = some x →
    x = ⟨now, (window cs).length, averages (window cs)⟩
  /-- To take a snapshot gives the same one, -/
  take : ∀ now, ((run cs).1.call (.take now)).2 = ((run cs).1.call (.mean now)).2
  /-- and then the accumulator is as at the start. -/
  reset : ∀ now, (run (cs ++ [.take now])).1 = empty
  /-- To ask for the mean changes nothing. -/
  unchanged : ∀ now, (run (cs ++ [.mean now])).1 = (run cs).1
  /-- In exact arithmetic the order of the samples has no bearing on the numbers. -/
  order : IsExact ν → ∀ cs', (window cs).Perm (window cs') → ∀ now x x',
    (run cs).1.mean now = some x → (run cs').1.mean now = some x' →
      x.metrics.SameNumbers x'.metrics

/-- **Every snapshot averages the samples folded since the last one was taken**, whatever was
folded, asked and taken before. -/
theorem windows_averaged (cs : List (Call ν)) : Averaging cs where
  none_iff now := by
    rw [run_eq_ofSamples]
    exact mean_ofSamples_eq_none_iff (window cs) now
  snapshot now x h := by
    rw [run_eq_ofSamples] at h
    exact eq_of_mean_ofSamples h
  take now := by
    simp only [call, Accumulator.take]
    cases (run cs).1.mean now <;> rfl
  reset now := by
    rw [run_snoc, run_eq_ofSamples]
    simp only [call, Accumulator.take]
    cases hm : (ofSamples (window cs)).mean now with
    | none =>
      rw [(mean_ofSamples_eq_none_iff _ _).mp hm]
      rfl
    | some x => rfl
  unchanged now := by
    rw [run_snoc]
    rfl
  order hexact cs' hp now x x' hx hx' := by
    rw [run_eq_ofSamples] at hx hx'
    rw [eq_of_mean_ofSamples hx, eq_of_mean_ofSamples hx']
    exact hexact.averages_perm hp

end Accumulator

end

/-- Rational numbers are averaged exactly. -/
instance : Averageable Rat where
  zero := 0
  add x y := x + y
  div x n := x / n

theorem isExact_rat : IsExact Rat :=
  ⟨Rat.add_comm, Rat.add_assoc⟩

end Vitals
