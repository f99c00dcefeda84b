/-!
# Points in time

Samples and snapshots are stamped with wall-clock time. A `Moment` counts nanoseconds from the Unix
epoch and may lie before it; files and records carry `Moment.unixNanos`, which is zero there.
-/

namespace Vitals

/-- A point in wall-clock time, in nanoseconds from the Unix epoch. -/
structure Moment where
  sinceEpoch : Int
  deriving DecidableEq, Repr, Inhabited

/-- Nanoseconds since the epoch; zero for every moment before it. -/
def Moment.unixNanos (t : Moment) : Nat :=
  t.sinceEpoch.toNat

/-- The moment a number of nanoseconds after the epoch. -/
def Moment.ofUnixNanos (n : Nat) : Moment :=
  ⟨n⟩

@[simp] theorem Moment.unixNanos_ofUnixNanos (n : Nat) : (Moment.ofUnixNanos n).unixNanos = n := by
  simp [Moment.unixNanos, Moment.ofUnixNanos]

theorem Moment.unixNanos_of_neg {t : Moment} (h : t.sinceEpoch < 0) : t.unixNanos = 0 := by
  simp only [Moment.unixNanos]
  omega

/-- A moment not before the epoch is the one its nanoseconds name. -/
theorem Moment.ofUnixNanos_unixNanos {t : Moment} (h : 0 ≤ t.sinceEpoch) :
    Moment.ofUnixNanos t.unixNanos = t := by
  cases t
  simp only [Moment.unixNanos, Moment.ofUnixNanos, Moment.mk.injEq] at *
  omega

end Vitals
