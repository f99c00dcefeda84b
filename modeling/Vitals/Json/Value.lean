/-!
# JSON values

Records are JSON texts. This file fixes what such a text stands for:

* `Number`, which keeps whole numbers apart from the others, because counters accept only the
  former; a negative zero is a real number;
* `Value`, the values; an object keeps its members in order, repeated keys included;
* `Flaw`, the two ways a text can fail to be one: it ends too early, or it is malformed.
-/

namespace Vitals.Json

inductive Number where
  /-- A whole number from 0 on, below `2 ^ 64`. -/
  | natural (n : Nat)
  /-- The whole number `-n`, with `0 < n ≤ 2 ^ 63`. -/
  | negative (n : Nat)
  | real (x : Float)
  deriving Repr, Inhabited

/-- The measured value that a number stands for. -/
def Number.toFloat : Number → Float
  | .natural n => Float.ofNat n
  | .negative n => -Float.ofNat n
  | .real x => x

inductive Value where
  | null
  | bool (b : Bool)
  | number (n : Number)
  | text (s : String)
  | array (items : List Value)
  | object (members : List (String × Value))
  deriving Repr, Inhabited

/-- Why a text is no JSON text. -/
inductive Flaw where
  /-- More was to come. -/
  | ended
  | malformed
  deriving DecidableEq, Repr, Inhabited

/-- The blanks of JSON: space, tab, line feed and carriage return. -/
def isBlank (c : Char) : Bool :=
  c == ' ' || c == '\n' || c == '\t' || c == '\r'

/-- Drops the blanks in front. -/
def skipBlanks : List Char → List Char
  | [] => []
  | c :: cs => if isBlank c then skipBlanks cs else c :: cs

theorem skipBlanks_length (cs : List Char) : (skipBlanks cs).length ≤ cs.length := by
  induction cs with
  | nil => simp [skipBlanks]
  | cons c cs ih =>
    rw [skipBlanks]
    split
    · exact Nat.le_trans ih (by simp)
    · exact Nat.le_refl _

theorem skipBlanks_cons {c : Char} (h : isBlank c = false) (cs : List Char) :
    skipBlanks (c :: cs) = c :: cs := by
  simp [skipBlanks, h]

end Vitals.Json
