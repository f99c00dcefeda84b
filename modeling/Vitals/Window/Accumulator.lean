import Vitals.Sample

/-!
# Averaging over a window

The accumulator folds the samples of one window. Numeric groups are summed field by field in the
order of the samples and divided by the number of samples that carried the group; top talkers and
file systems cannot be averaged and keep the last value seen. This file fixes

* `Averageable`, what averaging needs of a type of numbers;
* `Sum`, a running sum with the number of its terms;
* `Accumulator`, with `fold`, `mean` and `take`.
-/

namespace Vitals

/-! ## 1. Numbers that can be averaged -/

/-- A type of numbers with a zero, an addition, and the division by a count. -/
class Averageable (ν : Type) where
  zero : ν
  add : ν → ν → ν
  /-- `div x n` is `x` divided by `n`. -/
  div : ν → Nat → ν

instance : Averageable Float where
  zero := 0.0
  add x y := x + y
  div x n := x / Float.ofNat n

/-! ## 2. Sums -/

/-- The sums of the fields of one numeric group, and the number of samples that carried it. -/
structure Sum (γ : Type) where
  total : γ
  count : Nat
  deriving Repr, Inhabited

section

variable {ν : Type} [Averageable ν]

open Averageable

def LoadAverage.zero : LoadAverage ν := ⟨Averageable.zero, Averageable.zero, Averageable.zero⟩

def LoadAverage.add (x y : LoadAverage ν) : LoadAverage ν :=
  ⟨Averageable.add x.one y.one, Averageable.add x.five y.five,
    Averageable.add x.fifteen y.fifteen⟩

def LoadAverage.div (x : LoadAverage ν) (n : Nat) : LoadAverage ν :=
  ⟨Averageable.div x.one n, Averageable.div x.five n, Averageable.div x.fifteen n⟩

def CpuUsage.zero : CpuUsage ν := ⟨Averageable.zero, Averageable.zero⟩

def CpuUsage.add (x y : CpuUsage ν) : CpuUsage ν :=
  ⟨Averageable.add x.busyPercent y.busyPercent, Averageable.add x.idlePercent y.idlePercent⟩

def CpuUsage.div (x : CpuUsage ν) (n : Nat) : CpuUsage ν :=
  ⟨Averageable.div x.busyPercent n, Averageable.div x.idlePercent n⟩

def DiskUsage.zero : DiskUsage ν := ⟨Averageable.zero, Averageable.zero, Averageable.zero⟩

def DiskUsage.add (x y : DiskUsage ν) : DiskUsage ν :=
  ⟨Averageable.add x.kbPerTransfer y.kbPerTransfer, Averageable.add x.mbPerSecond y.mbPerSecond,
    Averageable.add x.transfersPerSecond y.transfersPerSecond⟩

def DiskUsage.div (x : DiskUsage ν) (n : Nat) : DiskUsage ν :=
  ⟨Averageable.div x.kbPerTransfer n, Averageable.div x.mbPerSecond n,
    Averageable.div x.transfersPerSecond n⟩

end

instance {ν : Type} [Averageable ν] : Averageable (LoadAverage ν) where
  zero := LoadAverage.zero
  add := LoadAverage.add
  div := LoadAverage.div

instance {ν : Type} [Averageable ν] : Averageable (CpuUsage ν) where
  zero := CpuUsage.zero
  add := CpuUsage.add
  div := CpuUsage.div

instance {ν : Type} [Averageable ν] : Averageable (DiskUsage ν) where
  zero := DiskUsage.zero
  add := DiskUsage.add
  div := DiskUsage.div

namespace Sum

variable {γ : Type} [Averageable γ]

def empty : Sum γ := ⟨Averageable.zero, 0⟩

/-- Adds the group of a sample, if the sample carries it. -/
def addIf (s : Sum γ) : Option γ → Sum γ
  | none => s
  | some x => ⟨Averageable.add s.total x, s.count + 1⟩

/-- The average, if there was anything to average. -/
def mean (s : Sum γ) : Option γ :=
  if s.count = 0 then none else some (Averageable.div s.total s.count)

end Sum

/-! ## 3. The accumulator -/

/-- The samples of a window, folded. -/
structure Accumulator (ν : Type) where
  loadAverage : Sum (LoadAverage ν)
  cpuUsage : Sum (CpuUsage ν)
  diskUsage : Sum (DiskUsage ν)
  networkTalkers : Option TopTalkers
  fileSystems : Option (List FileSystemUsage)
  /-- The number of samples folded. -/
  count : Nat
  deriving Repr, Inhabited

namespace Accumulator

variable {ν : Type} [Averageable ν]

/-- The accumulator of a window that has just begun. -/
def empty : Accumulator ν :=
  ⟨Sum.empty, Sum.empty, Sum.empty, none, none, 0⟩

omit [Averageable ν] in
/-- Whether no sample was folded. -/
def isEmpty (a : Accumulator ν) : Bool :=
  a.count == 0

/-- Folds the groups of a sample into the window. -/
def fold (a : Accumulator ν) (s : Sample ν) : Accumulator ν where
  loadAverage := a.loadAverage.addIf s.metrics.loadAverage
  cpuUsage := a.cpuUsage.addIf s.metrics.cpuUsage
  diskUsage := a.diskUsage.addIf s.metrics.diskUsage
  networkTalkers := s.metrics.networkTalkers.or a.networkTalkers
  fileSystems := s.metrics.fileSystems.or a.fileSystems
  count := a.count + 1

/-- The averages of the window. -/
def metrics (a : Accumulator ν) : Metrics ν where
  loadAverage := a.loadAverage.mean
  cpuUsage := a.cpuUsage.mean
  diskUsage := a.diskUsage.mean
  networkTalkers := a.networkTalkers
  fileSystems := a.fileSystems

/-- The snapshot of the window so far, stamped `now`; there is none of an empty window. -/
def mean (a : Accumulator ν) (now : Moment) : Option (Snapshot ν) :=
  if a.count = 0 then none else some ⟨now, a.count, a.metrics⟩

/-- The snapshot of the window and the window that follows it. -/
def take (a : Accumulator ν) (now : Moment) : Option (Snapshot ν) × Accumulator ν :=
  match a.mean now with
  | none => (none, a)
  | some s => (some s, empty)

/-- The window of the given samples. -/
def ofSamples (ss : List (Sample ν)) : Accumulator ν :=
  ss.foldl fold empty

@[simp] theorem count_empty : (empty : Accumulator ν).count = 0 := rfl

@[simp] theorem count_fold (a : Accumulator ν) (s : Sample ν) :
    (a.fold s).count = a.count + 1 := rfl

theorem count_foldl (a : Accumulator ν) (ss : List (Sample ν)) :
    (ss.foldl fold a).count = a.count + ss.length := by
  induction ss generalizing a with
  | nil => rfl
  | cons s ss ih =>
    rw [List.foldl_cons, ih, count_fold, List.length_cons]
    omega

@[simp] theorem count_ofSamples (ss : List (Sample ν)) :
    (ofSamples ss : Accumulator ν).count = ss.length := by
  simp [ofSamples, count_foldl]

theorem take_of_count_eq_zero {a : Accumulator ν} (h : a.count = 0) (now : Moment) :
    a.take now = (none, a) := by
  simp [take, mean, h]

theorem take_of_count_ne_zero {a : Accumulator ν} (h : a.count ≠ 0) (now : Moment) :
    a.take now = (some ⟨now, a.count, a.metrics⟩, empty) := by
  simp [take, mean, h]

end Accumulator

end Vitals
