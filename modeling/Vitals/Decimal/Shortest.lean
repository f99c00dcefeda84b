import Vitals.Numeral
import Vitals.Decimal.Binary64

/-!
# The shortest decimal that reads back

A floating-point number is written with the fewest significant digits that still round to it, and
among the decimals of that length with the one nearest to it; an exact tie goes to the even last
digit. This file fixes

* `Scientific`, a decimal `coefficient · 10 ^ exponent`;
* `shortest`, the search for it: for one digit, two digits, … the two neighbours of the value on
  the grid of that many digits are tried, all in exact arithmetic. If a point of a grid rounds to
  the value, so does one of the two neighbours, hence the first grid with a hit is the shortest;
* `Layout`, the exponents that are written positionally, and `write`, the text.
-/

namespace Vitals.Decimal

open Vitals.Numeral

/-! ## 1. The search -/

/-- The decimal `coefficient · 10 ^ exponent`. -/
structure Scientific where
  coefficient : Nat
  exponent : Int
  deriving DecidableEq, Repr

/-- The number of decimal digits of `n`. -/
def digitCount (n : Nat) : Nat :=
  (digits n).length

/-- Removes the zeros at the end of the coefficient. -/
def Scientific.trim (s : Scientific) : Scientific :=
  if s.coefficient ≠ 0 ∧ s.coefficient % 10 = 0 then
    Scientific.trim ⟨s.coefficient / 10, s.exponent + 1⟩
  else s
termination_by s.coefficient
decreasing_by
  rename_i h
  exact Nat.div_lt_self (Nat.pos_of_ne_zero h.1) (by decide)

/-- How many places the decimal point of `a / b` moves to the right until the number reaches one;
`fuel` bounds the search. -/
def leadingPlace (a b : Nat) : Nat → Nat
  | 0 => 0
  | fuel + 1 => if b ≤ a then 0 else leadingPlace (a * 10) b fuel + 1

/-- The exponent of the leading digit of `a / b`. -/
def leadingExponent (a b : Nat) : Int :=
  if b ≤ a then (digitCount (a / b) : Int) - 1 else -(leadingPlace a b 400 : Nat)

/-- The better of the two neighbours of the value on the grid of multiples of `10 ^ p`, if one
of them rounds to the value. -/
def Interval.onGrid (i : Interval) (p : Int) : Option Scientific :=
  let up := Nat.pow 10 p.toNat
  let down := Nat.pow 10 (-p).toNat
  let below := i.centre * down / (i.scale * up)
  let twice := 2 * (i.centre * down)
  let middle := (2 * below + 1) * (i.scale * up)
  let lower := if i.contains (below * up) down then some (Scientific.mk below p) else none
  let upper :=
    if i.contains ((below + 1) * up) down then some (Scientific.mk (below + 1) p) else none
  match lower, upper with
  | some l, some u =>
    if twice < middle then some l
    else if middle < twice then some u
    else if below % 2 = 0 then some l else some u
  | some l, none => some l
  | none, u => u

/-- Tries the grids of `17 - more`, … , 17 digits. -/
def Interval.search (i : Interval) (top : Int) : Nat → Scientific
  | 0 => (i.onGrid (top - 16)).getD ⟨i.centre / i.scale, 0⟩
  | more + 1 => (i.onGrid (top - (16 - (more + 1 : Nat)))).getD (i.search top more)

/-- The shortest decimal that rounds to `m · 2 ^ e`. -/
def shortest (m : Nat) (e : Int) : Scientific :=
  if m = 0 then ⟨0, 0⟩
  else
    let i := Interval.around m e
    (i.search (leadingExponent i.centre i.scale) 16).trim

/-! ## 2. The text -/

/-- The exponents of the leading digit for which a number is written positionally. -/
structure Layout where
  lowest : Int
  highest : Int
  deriving DecidableEq, Repr

/-- An exponent, with its sign. -/
def writeExponent (e : Int) : List Char :=
  'e' :: (if e < 0 then '-' else '+') :: digits e.natAbs

/-- The fraction behind the point: never empty. -/
def writeFraction (ds : List Char) : List Char :=
  '.' :: (if ds = [] then ['0'] else ds)

/-- A run of digits whose first one has the place `10 ^ e`, written positionally. -/
def writePositional (ds : List Char) (e : Int) : List Char :=
  if e < 0 then '0' :: writeFraction (List.replicate ((-e).toNat - 1) '0' ++ ds)
  else
    let padded := ds ++ List.replicate (e.toNat + 1 - ds.length) '0'
    padded.take (e.toNat + 1) ++ writeFraction (padded.drop (e.toNat + 1))

/-- A run of digits whose first one has the place `10 ^ e`, written with an exponent. -/
def writeScientific (ds : List Char) (e : Int) : List Char :=
  match ds with
  | [d] => d :: writeExponent e
  | d :: rest => d :: '.' :: rest ++ writeExponent e
  | [] => writeExponent e

/-- The text of a decimal. -/
def Layout.write (layout : Layout) (s : Scientific) : List Char :=
  let ds := digits s.coefficient
  let e := s.exponent + (ds.length : Int) - 1
  if layout.lowest ≤ e ∧ e ≤ layout.highest then writePositional ds e else writeScientific ds e

/-- The text of a finite floating-point number; the sign of a zero is kept. Values that are no
number have no text. -/
def Layout.writeFloat? (layout : Layout) (x : Float) : Option (List Char) :=
  match Shape.ofFloat x with
  | .finite negative m e =>
    some ((if negative then ['-'] else []) ++ layout.write (shortest m e))
  | _ => none

end Vitals.Decimal
