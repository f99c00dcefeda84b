import Vitals.Numeral
import Vitals.Json.Value

/-!
# JSON numbers

How the number at the front of a text is read. A number without fraction and exponent that fits
stays whole. Every other number becomes the product of its leading digits, as many as fit in 64
bits, and a power of ten; digits beyond them only move the power. The product is one rounding of
the digits and one multiplication or division by a power of ten, so its last bit may differ from
the nearest value; that is the reading that records are specified by. This file fixes

* `leadingDigits` and `skipDigits`, the two ways digits are consumed;
* `scale`, the product, with an out-of-range result refused;
* `readNumber`, the grammar.
-/

namespace Vitals.Json

open Vitals.Numeral

/-! ## 1. Digits -/

/-- Whether a text goes on with a digit. -/
def startsWithDigit : List Char → Bool
  | [] => false
  | c :: _ => isDigit c

/-- Reads digits onto `v` as long as the value stays below `2 ^ 64`. Gives the value, the number
of digits read, and the rest. -/
def leadingDigits : Nat → List Char → Nat × Nat × List Char
  | v, [] => (v, 0, [])
  | v, c :: cs =>
    if isDigit c ∧ v * 10 + digitValue c < UInt64.size then
      let (w, n, rest) := leadingDigits (v * 10 + digitValue c) cs
      (w, n + 1, rest)
    else (v, 0, c :: cs)

/-- Drops the digits in front and counts them. -/
def skipDigits : List Char → Nat × List Char
  | [] => (0, [])
  | c :: cs => if isDigit c then ((skipDigits cs).1 + 1, (skipDigits cs).2) else (0, c :: cs)

/-! ## 2. The product -/

/-- The power of ten `10 ^ n`, rounded, for `n ≤ 308`. -/
def powerOfTen (n : Nat) : Float :=
  Float.ofScientific 1 false n

/-- `x · 10 ^ e`, or nothing when the result is out of range. An exponent below the table of
powers is reached in steps of 308; zero stays zero whatever the exponent. -/
def scale (x : Float) (e : Int) : Option Float :=
  if e.natAbs ≤ 308 then
    if 0 ≤ e then
      let y := x * powerOfTen e.natAbs
      if y.isInf then none else some y
    else some (x / powerOfTen e.natAbs)
  else if x == 0 then some x
  else if 0 ≤ e then none
  else scale (x / powerOfTen 308) (e + 308)
termination_by e.natAbs
decreasing_by omega

/-- The real number with the given sign, leading digits and exponent. -/
def realNumber (negative : Bool) (v : Nat) (e : Int) (rest : List Char) :
    Except Flaw (Number × List Char) :=
  match scale (Float.ofNat v) e with
  | none => .error .malformed
  | some x => .ok (.real (if negative then -x else x), rest)

/-! ## 3. The grammar -/

/-- The largest exponent that is read digit by digit. -/
def exponentLimit : Nat := 2147483647

/-- Reads the digits of an exponent onto `v`; nothing when it grows beyond the limit. -/
def exponentDigits : Nat → List Char → Option Nat × List Char
  | v, [] => (some v, [])
  | v, c :: cs =>
    if isDigit c then
      if v * 10 + digitValue c ≤ exponentLimit then exponentDigits (v * 10 + digitValue c) cs
      else (none, (skipDigits cs).2)
    else (some v, c :: cs)

/-- The exponent behind `e`. An exponent beyond the limit makes the number zero, or out of range
if it is positive and the digits are not zero. -/
def readExponent (negative : Bool) (v : Nat) (e : Int) (cs : List Char) :
    Except Flaw (Number × List Char) :=
  let (down, cs) : Bool × List Char := match cs with
    | '+' :: cs => (false, cs)
    | '-' :: cs => (true, cs)
    | cs => (false, cs)
  if cs = [] then .error .ended
  else if !startsWithDigit cs then .error .malformed
  else match exponentDigits 0 cs with
    | (none, rest) =>
      if v ≠ 0 ∧ !down then .error .malformed
      else .ok (.real (if negative then -0.0 else 0.0), rest)
    | (some n, rest) =>
      let total : Int := if down then e - n else e + n
      realNumber negative v (max (-2147483648) (min total 2147483647)) rest

/-- What follows the digits: an exponent, or the end of the number. -/
def readTail (negative : Bool) (v : Nat) (e : Int) (cs : List Char) :
    Except Flaw (Number × List Char) :=
  match cs with
  | 'e' :: cs => readExponent negative v e cs
  | 'E' :: cs => readExponent negative v e cs
  | cs => realNumber negative v e cs

/-- The fraction behind the point; it has at least one digit. -/
def readFraction (negative : Bool) (v : Nat) (e : Int) (cs : List Char) :
    Except Flaw (Number × List Char) :=
  let (w, n, rest) := leadingDigits v cs
  if startsWithDigit rest then readTail negative w (e - n) (skipDigits rest).2
  else if n = 0 then if rest = [] then .error .ended else .error .malformed
  else readTail negative w (e - n) rest

/-- A number that ends behind its whole digits. -/
def wholeNumber (negative : Bool) (v : Nat) : Number :=
  if !negative then .natural v
  else if 0 < v ∧ v ≤ 9223372036854775808 then .negative v
  else .real (-Float.ofNat v)

/-- What follows whole digits that all fit. -/
def afterWhole (negative : Bool) (v : Nat) (cs : List Char) :
    Except Flaw (Number × List Char) :=
  match cs with
  | '.' :: cs => readFraction negative v 0 cs
  | 'e' :: cs => readExponent negative v 0 cs
  | 'E' :: cs => readExponent negative v 0 cs
  | cs => .ok (wholeNumber negative v, cs)

/-- The number behind its sign: no leading zeros. -/
def readUnsigned (negative : Bool) (cs : List Char) : Except Flaw (Number × List Char) :=
  match cs with
  | [] => .error .ended
  | '0' :: rest => if startsWithDigit rest then .error .malformed else afterWhole negative 0 rest
  | c :: rest =>
    if !isDigit c then .error .malformed
    else
      let (v, _, rest) := leadingDigits (digitValue c) rest
      if startsWithDigit rest then
        let (n, rest) := skipDigits rest
        match rest with
        | '.' :: cs => readFraction negative v n cs
        | cs => readTail negative v n cs
      else afterWhole negative v rest

/-- The number at the front of a text that starts with a digit or a minus sign. -/
def readNumber (cs : List Char) : Except Flaw (Number × List Char) :=
  match cs with
  | '-' :: cs => readUnsigned true cs
  | cs => readUnsigned false cs

end Vitals.Json
