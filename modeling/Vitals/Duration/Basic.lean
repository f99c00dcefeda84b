import Vitals.Numeral

/-!
# Durations

A span of time in nanoseconds, shorter than `2 ^ 64` seconds. This file fixes the type, its parts,
and `brief`, the form durations have in events: the largest of `s`, `ms`, `µs` and `ns` that leaves
something in front of the point, and as many decimals as are needed.
-/

namespace Vitals

structure Duration where
  nanos : Nat
  lt : nanos < UInt64.size * 1000000000
  deriving DecidableEq, Repr

namespace Duration

instance : Inhabited Duration := ⟨⟨0, by decide⟩⟩

/-- The duration of a number of nanoseconds, if it is not too long. -/
def ofNanos? (n : Nat) : Option Duration :=
  if h : n < UInt64.size * 1000000000 then some ⟨n, h⟩ else none

/-- Whole seconds. -/
def seconds (d : Duration) : Nat :=
  d.nanos / 1000000000

/-- The nanoseconds beyond the whole seconds. -/
def subsecond (d : Duration) : Nat :=
  d.nanos % 1000000000

/-- The duration of a number of seconds. -/
def ofSeconds (s : UInt64) : Duration :=
  ⟨s.toNat * 1000000000, Nat.mul_lt_mul_of_pos_right s.toNat_lt_size (by decide)⟩

def isZero (d : Duration) : Bool :=
  d.nanos == 0

theorem seconds_lt (d : Duration) : d.seconds < UInt64.size := by
  have := d.lt
  simp only [seconds]
  omega

theorem subsecond_lt (d : Duration) : d.subsecond < 1000000000 :=
  Nat.mod_lt _ (by decide)

theorem seconds_subsecond (d : Duration) : d.seconds * 1000000000 + d.subsecond = d.nanos := by
  simp only [seconds, subsecond]
  omega

theorem ofNanos?_nanos (d : Duration) : ofNanos? d.nanos = some d :=
  dif_pos d.lt

/-! ## Brief texts -/

/-- The decimals of `n / 10 ^ places`, for `n` below that, without trailing zeros and with the
point in front; nothing for zero. -/
def decimals (places n : Nat) : List Char :=
  let ds := Numeral.digits n
  let padded := List.replicate (places - ds.length) '0' ++ ds
  let kept := (padded.reverse.dropWhile (· = '0')).reverse
  if kept = [] then [] else '.' :: kept

/-- The form of a duration in events. -/
def brief (d : Duration) : String :=
  let scaled (places : Nat) (unit : String) : String :=
    let one := Nat.pow 10 places
    String.ofList (Numeral.digits (d.nanos / one) ++ decimals places (d.nanos % one)) ++ unit
  if 1000000000 ≤ d.nanos then scaled 9 "s"
  else if 1000000 ≤ d.nanos then scaled 6 "ms"
  else if 1000 ≤ d.nanos then scaled 3 "µs"
  else scaled 0 "ns"

end Duration

end Vitals
