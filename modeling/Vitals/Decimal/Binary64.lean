/-!
# Binary floating-point numbers, taken apart

A measured value is a 64-bit floating-point number. This file fixes how its bits read:

* `Shape`, the three kinds of values: not a number, infinite, and `± m · 2 ^ e` with natural `m`;
* `Shape.ofFloat`, the kind of a value, read off its sign, exponent and fraction fields;
* `Interval`, the reals that round to a positive finite value, in quarters of its last place.
-/

namespace Vitals.Decimal

/-- What the bits of a floating-point number stand for. -/
inductive Shape where
  | notANumber
  | infinite (negative : Bool)
  /-- The number `significand · 2 ^ exponent`, negated if `negative`. -/
  | finite (negative : Bool) (significand : Nat) (exponent : Int)
  deriving DecidableEq, Repr

/-- The leading digit of a normal significand, which is not stored: `2 ^ 52`. -/
def hiddenBit : Nat :=
  4503599627370496

/-- The kind of value that a 64-bit word stands for. The sign is the first bit, the exponent the
next eleven. -/
def Shape.ofWord (word : Nat) : Shape :=
  let negative := decide (9223372036854775808 ≤ word)
  let field : Nat := word / hiddenBit % 2048
  let fraction : Nat := word % hiddenBit
  if field = 2047 then
    if fraction = 0 then .infinite negative else .notANumber
  else if field = 0 then .finite negative fraction (-1074)
  else .finite negative (hiddenBit + fraction) ((field : Int) - 1075)

def Shape.ofFloat (x : Float) : Shape :=
  .ofWord x.toBits.toNat

/-- The reals that round to one positive finite value, as multiples of a common unit. -/
structure Interval where
  /-- The value itself, in units. -/
  centre : Nat
  low : Nat
  high : Nat
  /-- A unit is `1 / scale`. -/
  scale : Nat
  /-- Whether both ends belong to the interval. -/
  closed : Bool
  deriving DecidableEq, Repr

/-- The interval of `m · 2 ^ e`, in units of a quarter of the last place. Below a power of two the
numbers lie twice as dense, so there the lower half-gap is halved; the ends round to the even
neighbour, so they belong to the interval of an even `m`. -/
def Interval.around (m : Nat) (e : Int) : Interval :=
  let up := Nat.pow 2 (e - 2).toNat
  let low := if m = hiddenBit ∧ -1074 < e then 4 * m - 1 else 4 * m - 2
  ⟨4 * m * up, low * up, (4 * m + 2) * up, Nat.pow 2 (2 - e).toNat, m % 2 == 0⟩

/-- Whether the number `a / b` lies in the interval. -/
def Interval.contains (i : Interval) (a b : Nat) : Bool :=
  if i.closed then decide (i.low * b ≤ a * i.scale) && decide (a * i.scale ≤ i.high * b)
  else decide (i.low * b < a * i.scale) && decide (a * i.scale < i.high * b)

end Vitals.Decimal
