import Vitals.Log.FileName

/-!
# What names of log files tell

A reader of the log sees nothing but names. This file proves that they tell all that was put into
them: two files begun or put aside at different times have different names (`active_inj`,
`rotated_inj`), no name is both that of an open file and that of one put aside
(`active_ne_rotated`), and the time of creation can be read off either (`createdAt?_active`,
`createdAt?_rotated`). `names_unambiguous` is the whole of it.
-/

namespace Vitals.Log.FileName

open Vitals.Numeral

/-! ## 1. Numerals before a dash -/

theorem ne_dash_of_isDigit {c : Char} (h : isDigit c = true) : c ≠ '-' := by
  intro e
  rw [e] at h
  exact absurd h (by decide)

/-- The part of a text in front of the first dash. -/
theorem takeWhile_ne_dash {ds : List Char} (h : ∀ c ∈ ds, c ≠ '-') {rest : List Char}
    (hr : rest = [] ∨ rest.head? = some '-') : (ds ++ rest).takeWhile (· ≠ '-') = ds := by
  rw [List.takeWhile_append_of_pos fun c hc => decide_eq_true (h c hc)]
  cases rest with
  | nil => simp
  | cons c cs =>
    rcases hr with hr | hr
    · cases hr
    · simp_all

theorem takeWhile_digits (n : Nat) {rest : List Char} (hr : rest = [] ∨ rest.head? = some '-') :
    (digits n ++ rest).takeWhile (· ≠ '-') = digits n :=
  takeWhile_ne_dash (fun c hc => ne_dash_of_isDigit (isDigit_of_mem_digits n c hc)) hr

/-! ## 2. Different files, different names -/

theorem active_inj {c c' : Nat} (h : active c = active c') : c = c' := by
  have h := List.append_cancel_left h
  exact digits_inj (List.cons.inj h).2

theorem rotated_inj {c p c' p' : Nat} (h : rotated c p = rotated c' p') : c = c' ∧ p = p' := by
  simp only [rotated, active, List.append_assoc, List.cons_append] at h
  have h := (List.cons.inj (List.append_cancel_left h)).2
  -- both numerals end at the first dash
  have hc : digits c = digits c' := calc
    digits c = (digits c ++ '-' :: digits p).takeWhile (· ≠ '-') :=
      (takeWhile_digits c (.inr rfl)).symm
    _ = (digits c' ++ '-' :: digits p').takeWhile (· ≠ '-') := by rw [h]
    _ = digits c' := takeWhile_digits c' (.inr rfl)
  rw [hc] at h
  exact ⟨digits_inj hc, digits_inj (List.cons.inj (List.append_cancel_left h)).2⟩

theorem active_ne_rotated (c c' p : Nat) : active c ≠ rotated c' p := by
  intro h
  simp only [rotated, active, List.append_assoc, List.cons_append] at h
  have h := (List.cons.inj (List.append_cancel_left h)).2
  have hmem : '-' ∈ digits c := by
    rw [h]
    exact List.mem_append_right _ List.mem_cons_self
  exact ne_dash_of_isDigit (isDigit_of_mem_digits c '-' hmem) rfl

/-! ## 3. The time of creation -/

theorem after?_append (front rest : List Char) : after? front (front ++ rest) = some rest := by
  induction front with
  | nil => rfl
  | cons f fs ih =>
    rw [List.cons_append, after?, if_pos rfl]
    exact ih

theorem createdAt?_of_digits {c : Nat} (h : c < Unsigned.bound128) {rest : List Char}
    (hr : rest = [] ∨ rest.head? = some '-') : createdAt? (active c ++ rest) = some c := by
  have e : active c ++ rest = (stem ++ ['-']) ++ (digits c ++ rest) := by
    simp only [active, List.append_assoc, List.cons_append, List.nil_append]
  rw [createdAt?, e, after?_append, Option.bind_eq_bind, Option.bind_some, takeWhile_digits c hr,
    Unsigned.parse_digits h]
  rfl

/-- **An open file's name tells when it was begun.** -/
theorem createdAt?_active {c : Nat} (h : c < Unsigned.bound128) :
    createdAt? (active c) = some c := by
  have h := @createdAt?_of_digits c h [] (.inl rfl)
  rwa [List.append_nil] at h

/-- **So does the name of a file that was put aside.** -/
theorem createdAt?_rotated {c : Nat} (h : c < Unsigned.bound128) (p : Nat) :
    createdAt? (rotated c p) = some c :=
  createdAt?_of_digits h (.inr rfl)

/-! ## 4. All that a name tells -/

/-- **Names are unambiguous.** Whatever times two files were begun and put aside at, the time of
creation can be read off either kind of name as long as it has 128 bits, names of one kind are equal
only for equal times, and no name is of both kinds. -/
theorem names_unambiguous {c : Nat} (hc : c < Unsigned.bound128) (p c' p' : Nat) :
    createdAt? (active c) = some c ∧ createdAt? (rotated c p) = some c ∧
      (active c = active c' ↔ c = c') ∧
      (rotated c p = rotated c' p' ↔ c = c' ∧ p = p') ∧
      active c ≠ rotated c' p' := by
  refine ⟨createdAt?_active hc, createdAt?_rotated hc p, ⟨active_inj, ?_⟩, ⟨rotated_inj, ?_⟩,
    active_ne_rotated c c' p'⟩
  · rintro rfl
    rfl
  · rintro ⟨rfl, rfl⟩
    rfl

/-- The last time of 128 bits, in two names that differ only in where the second dash stands. -/
theorem names_unambiguous_last :
    createdAt? (rotated 340282366920938463463374607431768211455 12) =
        some 340282366920938463463374607431768211455 ∧
      rotated 340282366920938463463374607431768211455 12 ≠
        rotated 34028236692093846346337460743176821145 512 := by
  obtain ⟨-, hcreated, -, hrotated, -⟩ :=
    @names_unambiguous 340282366920938463463374607431768211455 (by decide) 12
      34028236692093846346337460743176821145 512
  refine ⟨hcreated, fun h => ?_⟩
  exact absurd (hrotated.mp h).1 (by decide)

end Vitals.Log.FileName
