/-!
# Decimal numerals

The natural numbers that file names, records and settings carry are written in the ten ASCII
digits, without sign and without leading zeros. This file fixes

* `digits`, the numeral of a number, and `value`, the number a run of digits stands for;
* `parse?`, which reads a whole text as a numeral and refuses anything else;
* `Unsigned.parse`, the reader of the settings: one leading `+` is allowed, the result stays
  below a bound, and each way to fail has its own cause.

Main statements: reading what was written gives the number back (`parse?_digits`, and
`parse_digits` below a bound), and two numbers with one numeral are equal (`digits_inj`).
-/

namespace Vitals.Numeral

/-! ## 1. Digits -/

/-- The ten digits, written out: the digit of `d` is the character `d` places after `0`. -/
def digit (d : Nat) : Char :=
  Char.ofNat (48 + d)

/-- What a digit counts. -/
def digitValue (c : Char) : Nat :=
  c.toNat - 48

/-- The ASCII digits; no digit of another script is one. -/
def isDigit (c : Char) : Bool :=
  decide (48 ≤ c.toNat ∧ c.toNat ≤ 57)

theorem digit_spec : ∀ d, d < 10 → isDigit (digit d) = true ∧ digitValue (digit d) = d := by
  decide

theorem isDigit_digit {d : Nat} (h : d < 10) : isDigit (digit d) = true :=
  (digit_spec d h).1

theorem digitValue_digit {d : Nat} (h : d < 10) : digitValue (digit d) = d :=
  (digit_spec d h).2

/-! ## 2. Writing -/

/-- The numeral of a number: no leading zeros, and `0` for zero. -/
def digits (n : Nat) : List Char :=
  if n < 10 then [digit n] else digits (n / 10) ++ [digit (n % 10)]
termination_by n

/-- The number a run of digits stands for. -/
def value (cs : List Char) : Nat :=
  cs.foldl (fun v c => v * 10 + digitValue c) 0

theorem digits_ne_nil (n : Nat) : digits n ≠ [] := by
  rw [digits]
  split <;> simp

theorem isDigit_of_mem_digits (n : Nat) : ∀ c ∈ digits n, isDigit c = true := by
  induction n using Nat.strongRecOn with
  | ind n ih =>
    intro c hc
    rw [digits] at hc
    split at hc
    · rename_i h
      simp only [List.mem_singleton] at hc
      exact hc ▸ isDigit_digit h
    · rename_i h
      rcases List.mem_append.1 hc with hc | hc
      · exact ih (n / 10) (by omega) c hc
      · simp only [List.mem_singleton] at hc
        exact hc ▸ isDigit_digit (Nat.mod_lt n (by decide))

theorem value_append (cs : List Char) (c : Char) :
    value (cs ++ [c]) = value cs * 10 + digitValue c := by
  simp [value, List.foldl_append]

/-- **A numeral stands for the number it was written for.** -/
theorem value_digits (n : Nat) : value (digits n) = n := by
  induction n using Nat.strongRecOn with
  | ind n ih =>
    rw [digits]
    split
    · rename_i h
      simp [value, digitValue_digit h]
    · rename_i h
      rw [value_append, ih (n / 10) (by omega), digitValue_digit (Nat.mod_lt n (by decide))]
      omega

theorem digits_inj {m n : Nat} (h : digits m = digits n) : m = n := by
  rw [← value_digits m, ← value_digits n, h]

/-! ## 3. Reading -/

/-- Reads a whole text as a numeral; leading zeros are allowed, an empty text is none. -/
def parse? (cs : List Char) : Option Nat :=
  if cs ≠ [] ∧ cs.all isDigit then some (value cs) else none

/-- **Reading what was written gives the number back.** -/
theorem parse?_digits (n : Nat) : parse? (digits n) = some n := by
  have hd : (digits n).all isDigit = true := List.all_eq_true.2 (isDigit_of_mem_digits n)
  simp [parse?, digits_ne_nil, hd, value_digits]

/-- The numeral of a number, as a string. -/
def text (n : Nat) : String :=
  String.ofList (digits n)

end Vitals.Numeral

namespace Vitals.Unsigned

open Vitals.Numeral

/-! ## 4. Bounded numbers in settings -/

/-- Why a text is no number below a bound. -/
inductive Fault where
  /-- There is no digit and no sign at all. -/
  | empty
  /-- A character is no digit. -/
  | invalidDigit
  /-- The number reaches the bound. -/
  | tooLarge
  deriving DecidableEq, Repr

/-- The wording of a fault. -/
def Fault.message : Fault → String
  | .empty => "cannot parse integer from empty string"
  | .invalidDigit => "invalid digit found in string"
  | .tooLarge => "number too large to fit in target type"

/-- Reads digits onto the value read so far. A character that is no digit is reported before
the overflow it would cause; an overflow at an earlier digit wins over both. -/
def accumulate (bound : Nat) : Nat → List Char → Except Fault Nat
  | v, [] => .ok v
  | v, c :: cs =>
    if isDigit c then
      if v * 10 + digitValue c < bound then accumulate bound (v * 10 + digitValue c) cs
      else .error .tooLarge
    else .error .invalidDigit

/-- Reads a number below `bound`, with at most one `+` in front. -/
def parse (bound : Nat) : List Char → Except Fault Nat
  | [] => .error .empty
  | ['+'] => .error .invalidDigit
  | '+' :: cs => accumulate bound 0 cs
  | cs => accumulate bound 0 cs

/-- Digits onto a value never make it smaller. -/
theorem le_foldl_digits (cs : List Char) (v : Nat) :
    v ≤ cs.foldl (fun v c => v * 10 + digitValue c) v := by
  induction cs generalizing v with
  | nil => exact Nat.le_refl v
  | cons c cs ih =>
    have h := ih (v * 10 + digitValue c)
    rw [List.foldl_cons]
    omega

theorem accumulate_of_digits {bound : Nat} {cs : List Char} {v : Nat}
    (hd : ∀ c ∈ cs, isDigit c = true)
    (hb : cs.foldl (fun v c => v * 10 + digitValue c) v < bound) :
    accumulate bound v cs = .ok (cs.foldl (fun v c => v * 10 + digitValue c) v) := by
  induction cs generalizing v with
  | nil => rfl
  | cons c cs ih =>
    rw [List.foldl_cons] at hb ⊢
    have hv : v * 10 + digitValue c < bound := Nat.lt_of_le_of_lt (le_foldl_digits cs _) hb
    rw [accumulate, if_pos (hd c List.mem_cons_self), if_pos hv]
    exact ih (fun c hc => hd c (List.mem_cons_of_mem _ hc)) hb

theorem parse_of_digits {bound : Nat} {cs : List Char} (hne : cs ≠ [])
    (hd : ∀ c ∈ cs, isDigit c = true) (hb : value cs < bound) : parse bound cs = .ok (value cs) := by
  have ha : accumulate bound 0 cs = .ok (value cs) := accumulate_of_digits hd hb
  have hplus : isDigit '+' ≠ true := by decide
  unfold parse
  split
  · exact absurd rfl hne
  · exact absurd (hd '+' List.mem_cons_self) hplus
  · exact absurd (hd '+' List.mem_cons_self) hplus
  · exact ha

/-- **Reading what was written gives the number back**, as long as it is below the bound. -/
theorem parse_digits {bound n : Nat} (h : n < bound) : parse bound (digits n) = .ok n := by
  have hv := value_digits n
  rw [parse_of_digits (digits_ne_nil n) (isDigit_of_mem_digits n) (hv.symm ▸ h), hv]

/-- Words of 64 bits. -/
abbrev bound64 : Nat := UInt64.size

/-- Words of 128 bits. -/
abbrev bound128 : Nat := 340282366920938463463374607431768211456

end Vitals.Unsigned
