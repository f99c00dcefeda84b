import Vitals.Decimal.Shortest
import Vitals.Json.Text

/-!
# Writing JSON texts

The compact text of a value: no blanks, members in their order. This file fixes

* `realLayout`, the layout of real numbers: positional from `10 ^ -5` up to `10 ^ 15`, always with
  a fraction, and with an exponent otherwise;
* `Value.print`, the text of a value. A real that is no number is written as `null`.
-/

namespace Vitals.Json

open Vitals.Decimal

/-- Reals are written positionally when their leading digit has a place from `10 ^ -5` to
`10 ^ 15`. -/
def realLayout : Layout := ⟨-5, 15⟩

/-- The text of a real number. -/
def printReal (x : Float) : List Char :=
  (realLayout.writeFloat? x).getD ['n', 'u', 'l', 'l']

/-- The text of a number. -/
def Number.print : Number → List Char
  | .natural n => Numeral.digits n
  | .negative n => '-' :: Numeral.digits n
  | .real x => printReal x

mutual

/-- The text of a value. -/
def Value.print : Value → List Char
  | .null => ['n', 'u', 'l', 'l']
  | .bool true => ['t', 'r', 'u', 'e']
  | .bool false => ['f', 'a', 'l', 's', 'e']
  | .number n => n.print
  | .text s => quote s
  | .array items => '[' :: (printItems true items ++ [']'])
  | .object members => '{' :: (printMembers true members ++ ['}'])

/-- The items of an array; a comma stands in front of all but the `first`. -/
def printItems (first : Bool) : List Value → List Char
  | [] => []
  | v :: vs => (if first then [] else [',']) ++ v.print ++ printItems false vs

/-- The members of an object; a comma stands in front of all but the `first`. -/
def printMembers (first : Bool) : List (String × Value) → List Char
  | [] => []
  | (key, v) :: ms =>
    (if first then [] else [',']) ++ quote key ++ ':' :: v.print ++ printMembers false ms

end

end Vitals.Json
