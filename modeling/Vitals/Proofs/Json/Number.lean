import Vitals.Json.Printer
import Vitals.Json.Reading
import Vitals.Proofs.Decimal.Rounding
import Vitals.Proofs.Decimal.Shortest

/-!
# Numbers that are written are read

Whole numbers and finite real numbers have texts that the grammar of numbers takes in whole, and no
real number that was written is refused as out of range when it is read. This file fixes

* `EndsNumber`, what may stand behind a number;
* `Whole`, the runs of digits without a leading zero.

Main statements: a whole number reads back as itself (`readNumber_digits`); the text of a decimal
is read as its leading digits and a power of ten (`readUnsigned_write`); every finite real number
is read back as some real number, whatever follows (`readNumber_printReal`).
-/

namespace Vitals.Json

open Vitals.Numeral Vitals.Decimal

/-! ## 1. Runs of digits -/

/-- A text that does not go on with the number in front of it. -/
def EndsNumber (rest : List Char) : Prop :=
  ∀ c ∈ rest.head?, isDigit c = false ∧ c ≠ '.' ∧ c ≠ 'e' ∧ c ≠ 'E'

theorem EndsNumber.startsWithDigit {rest : List Char} (h : EndsNumber rest) :
    startsWithDigit rest = false := by
  cases rest with
  | nil => rfl
  | cons c cs => exact (h c rfl).1

/-- The digits in front of a text count what they stand for. -/
theorem foldl_digits_lt {ds : List Char} (hd : ∀ c ∈ ds, isDigit c = true) (v : Nat) :
    ds.foldl (fun v c => v * 10 + digitValue c) v < (v + 1) * 10 ^ ds.length := by
  induction ds generalizing v with
  | nil => simp
  | cons c cs ih =>
    have hc : digitValue c < 10 := by
      have := of_decide_eq_true (hd c List.mem_cons_self)
      unfold digitValue
      omega
    have hcs := ih (fun c hc => hd c (List.mem_cons_of_mem _ hc)) (v * 10 + digitValue c)
    have hstep : (v * 10 + digitValue c + 1) * 10 ^ cs.length ≤
        (v + 1) * 10 ^ (c :: cs).length := by
      rw [List.length_cons, Nat.pow_succ', ← Nat.mul_assoc]
      exact Nat.mul_le_mul_right _ (by omega)
    rw [List.foldl_cons]
    omega

theorem value_lt {ds : List Char} (hd : ∀ c ∈ ds, isDigit c = true) :
    value ds < 10 ^ ds.length := by
  have := foldl_digits_lt hd 0
  rwa [Nat.zero_add, Nat.one_mul] at this

theorem value_append_list (xs ys : List Char) :
    value (xs ++ ys) = ys.foldl (fun v c => v * 10 + digitValue c) (value xs) := by
  rw [value, List.foldl_append]
  rfl

theorem value_zeros (n : Nat) : value (List.replicate n '0') = 0 := by
  induction n with
  | zero => rfl
  | succ n ih =>
    rw [List.replicate_succ', value_append, ih]
    rfl

/-- **Digits are read to the last one as long as they fit.** -/
theorem leadingDigits_append {ds rest : List Char} {v : Nat} (hd : ∀ c ∈ ds, isDigit c = true)
    (hv : ds.foldl (fun v c => v * 10 + digitValue c) v < UInt64.size)
    (hr : startsWithDigit rest = false) :
    leadingDigits v (ds ++ rest) =
      (ds.foldl (fun v c => v * 10 + digitValue c) v, ds.length, rest) := by
  induction ds generalizing v with
  | nil =>
    cases rest with
    | nil => rfl
    | cons c cs =>
      have hc : isDigit c = false := hr
      simp [leadingDigits, hc]
  | cons c cs ih =>
    rw [List.foldl_cons] at hv
    have hle := Unsigned.le_foldl_digits cs (v * 10 + digitValue c)
    have hfits : isDigit c = true ∧ v * 10 + digitValue c < UInt64.size :=
      ⟨hd c List.mem_cons_self, by omega⟩
    rw [List.cons_append, leadingDigits, if_pos hfits,
      ih (fun c hc => hd c (List.mem_cons_of_mem _ hc)) hv]
    rfl

/-! ## 2. Whole numbers -/

/-- A run of digits, at least one, without leading zeros. -/
structure Whole (ds : List Char) : Prop where
  ne_nil : ds ≠ []
  digits : ∀ c ∈ ds, isDigit c = true
  zero : ∀ cs, ds = '0' :: cs → cs = []

theorem whole_singleton {c : Char} (h : isDigit c = true) : Whole [c] := by
  refine ⟨by simp, ?_, ?_⟩
  · intro x hx
    rw [List.mem_singleton.1 hx]
    exact h
  · intro cs hcs
    exact (List.cons.inj hcs).2.symm

/-- A numeral has no leading zeros. -/
theorem whole_digits (n : Nat) : Whole (Numeral.digits n) := by
  induction n using Nat.strongRecOn with
  | ind n ih =>
    by_cases h : n < 10
    · rw [Numeral.digits, if_pos h]
      exact whole_singleton (isDigit_digit h)
    · refine ⟨digits_ne_nil n, isDigit_of_mem_digits n, ?_⟩
      intro cs hcs
      rw [Numeral.digits, if_neg h] at hcs
      have hw := ih (n / 10) (by omega)
      obtain ⟨c, more, hc⟩ := List.exists_cons_of_ne_nil hw.ne_nil
      rw [hc, List.cons_append] at hcs
      obtain ⟨rfl, -⟩ := List.cons.inj hcs
      -- the digits in front would be a single zero
      have hzero : n / 10 = 0 := by
        have := value_digits (n / 10)
        rw [hc, hw.zero more hc] at this
        exact this.symm
      omega

/-- **Whole digits that fit are read to the last one.** -/
theorem readUnsigned_whole {ds rest : List Char} (negative : Bool) (h : Whole ds)
    (hv : value ds < UInt64.size) (hr : startsWithDigit rest = false) :
    readUnsigned negative (ds ++ rest) = afterWhole negative (value ds) rest := by
  obtain ⟨c, cs, rfl⟩ := List.exists_cons_of_ne_nil h.ne_nil
  have hc := h.digits c List.mem_cons_self
  have hvalue : value (c :: cs) = cs.foldl (fun v c => v * 10 + digitValue c) (digitValue c) := by
    simp [value]
  rw [List.cons_append]
  unfold readUnsigned
  split
  · rename_i heq
    exact absurd heq (by simp)
  · rename_i more heq
    obtain ⟨rfl, rfl⟩ := List.cons.inj heq
    obtain rfl := h.zero cs rfl
    rw [List.nil_append, if_neg (by simp [hr])]
    rfl
  · rename_i c' more hne heq
    obtain ⟨rfl, rfl⟩ := List.cons.inj heq
    rw [hvalue] at hv ⊢
    rw [if_neg (by simp [hc]),
      leadingDigits_append (fun c hc => h.digits c (List.mem_cons_of_mem _ hc)) hv hr]
    simp [hr]

theorem EndsNumber.afterWhole {rest : List Char} (h : EndsNumber rest) (negative : Bool) (v : Nat) :
    afterWhole negative v rest = .ok (wholeNumber negative v, rest) := by
  unfold Json.afterWhole
  split
  · exact absurd rfl (h '.' rfl).2.1
  · exact absurd rfl (h 'e' rfl).2.2.1
  · exact absurd rfl (h 'E' rfl).2.2.2
  · rfl

/-- What is read as a number without a sign does not start with one. -/
theorem readNumber_of_readUnsigned {cs : List Char} {r : Number × List Char}
    (h : readUnsigned false cs = .ok r) : readNumber cs = .ok r := by
  unfold readNumber
  split
  · have hminus : Except.error Flaw.malformed = Except.ok r := h
    exact absurd hminus (by simp)
  · exact h

theorem Whole.startsWithDigit {ds : List Char} (h : Whole ds) (rest : List Char) :
    startsWithDigit (ds ++ rest) = true := by
  obtain ⟨c, cs, rfl⟩ := List.exists_cons_of_ne_nil h.ne_nil
  exact h.digits c List.mem_cons_self

/-- **A whole number reads back as itself.** -/
theorem readNumber_digits {n : Nat} (hn : n < UInt64.size) {rest : List Char}
    (hr : EndsNumber rest) :
    readNumber (Numeral.digits n ++ rest) = .ok (.natural n, rest) := by
  have hw := whole_digits n
  have hv : value (Numeral.digits n) < UInt64.size := by rwa [value_digits]
  refine readNumber_of_readUnsigned ?_
  rw [readUnsigned_whole false hw hv hr.startsWithDigit, hr.afterWhole, value_digits]
  rfl

/-! ## 3. Fractions and exponents -/

theorem EndsNumber.readTail {rest : List Char} (h : EndsNumber rest) (negative : Bool) (v : Nat)
    (e : Int) : readTail negative v e rest = realNumber negative v e rest := by
  unfold Json.readTail
  split
  · exact absurd rfl (h 'e' rfl).2.2.1
  · exact absurd rfl (h 'E' rfl).2.2.2
  · rfl

/-- **Whole digits with a fraction are read as one run of digits, the point moved behind them.** -/
theorem readUnsigned_fraction {ds fs rest : List Char} (negative : Bool) (h : Whole ds)
    (hne : fs ≠ []) (hd : ∀ c ∈ fs, isDigit c = true) (hv : value (ds ++ fs) < UInt64.size)
    (hr : startsWithDigit rest = false) :
    readUnsigned negative (ds ++ '.' :: (fs ++ rest)) =
      readTail negative (value (ds ++ fs)) (-fs.length) rest := by
  rw [value_append_list] at hv ⊢
  have hds : value ds < UInt64.size := by
    have := Unsigned.le_foldl_digits fs (value ds)
    omega
  rw [readUnsigned_whole negative h hds rfl]
  show readFraction negative (value ds) 0 (fs ++ rest) = _
  have hlen : fs.length ≠ 0 := by
    intro h0
    exact hne (List.length_eq_zero_iff.1 h0)
  unfold readFraction
  rw [leadingDigits_append hd hv hr]
  simp [hr, hlen]

theorem exponentDigits_append {ds rest : List Char} {v : Nat} (hd : ∀ c ∈ ds, isDigit c = true)
    (hv : ds.foldl (fun v c => v * 10 + digitValue c) v ≤ exponentLimit)
    (hr : startsWithDigit rest = false) :
    exponentDigits v (ds ++ rest) =
      (some (ds.foldl (fun v c => v * 10 + digitValue c) v), rest) := by
  induction ds generalizing v with
  | nil =>
    cases rest with
    | nil => rfl
    | cons c cs =>
      have hc : isDigit c = false := hr
      simp [exponentDigits, hc]
  | cons c cs ih =>
    rw [List.foldl_cons] at hv
    have hle := Unsigned.le_foldl_digits cs (v * 10 + digitValue c)
    have hfits : v * 10 + digitValue c ≤ exponentLimit := by omega
    rw [List.cons_append, exponentDigits, if_pos (hd c List.mem_cons_self), if_pos hfits,
      ih (fun c hc => hd c (List.mem_cons_of_mem _ hc)) hv]
    rfl

/-- **An exponent that was written is added.** -/
theorem readTail_writeExponent {rest : List Char} (negative : Bool) (v : Nat) {e x : Int}
    (he : -1000 ≤ e ∧ e ≤ 1000) (hx : -1000 ≤ x ∧ x ≤ 1000) (hr : EndsNumber rest) :
    readTail negative v e (writeExponent x ++ rest) = realNumber negative v (e + x) rest := by
  obtain ⟨n, hn⟩ : ∃ n, n = x.natAbs := ⟨_, rfl⟩
  have hw := whole_digits n
  have hread : exponentDigits 0 (Numeral.digits n ++ rest) = (some n, rest) := by
    have hvalue : (Numeral.digits n).foldl (fun v c => v * 10 + digitValue c) 0 = n :=
      value_digits n
    have hv : (Numeral.digits n).foldl (fun v c => v * 10 + digitValue c) 0 ≤ exponentLimit := by
      rw [hvalue]
      unfold exponentLimit
      omega
    rw [exponentDigits_append hw.digits hv hr.startsWithDigit, hvalue]
  have hstart := hw.startsWithDigit rest
  have hne : Numeral.digits n ++ rest ≠ [] := by simp [hw.ne_nil]
  show readExponent negative v e
    ((if x < 0 then '-' else '+') :: Numeral.digits x.natAbs ++ rest) = _
  rw [← hn, List.cons_append]
  unfold readExponent
  by_cases hneg : x < 0
  · have htotal : max (-2147483648) (min (e - (n : Int)) 2147483647) = e + x := by omega
    simp [hneg, hne, hstart, hread, htotal]
  · have htotal : max (-2147483648) (min (e + (n : Int)) 2147483647) = e + x := by omega
    simp [hneg, hne, hstart, hread, htotal]

/-! ## 4. Decimals -/

/-- The text is read as the number with these leading digits and this exponent, whatever ends
it. -/
def ReadsAs (cs : List Char) (v : Nat) (e : Int) : Prop :=
  ∀ negative rest, EndsNumber rest →
    readUnsigned negative (cs ++ rest) = realNumber negative v e rest

theorem isDigit_zeros {n : Nat} : ∀ c ∈ List.replicate n '0', isDigit c = true := by
  intro c hc
  rw [(List.mem_replicate.1 hc).2]
  rfl

theorem isDigit_append {xs ys : List Char} (hx : ∀ c ∈ xs, isDigit c = true)
    (hy : ∀ c ∈ ys, isDigit c = true) : ∀ c ∈ xs ++ ys, isDigit c = true := by
  intro c hc
  rcases List.mem_append.1 hc with hc | hc
  · exact hx c hc
  · exact hy c hc

/-- The digits before the point do not start with a zero, a single one apart. -/
theorem Whole.take_padded {ds : List Char} (h : Whole ds) (n : Nat) {k : Nat} (hk : 0 < k)
    (hzero : value ds ≠ 0 ∨ k = 1) : Whole ((ds ++ List.replicate n '0').take k) := by
  obtain ⟨d, more, rfl⟩ := List.exists_cons_of_ne_nil h.ne_nil
  obtain ⟨k, rfl⟩ : ∃ j, k = j + 1 := ⟨k - 1, by omega⟩
  rw [List.cons_append, List.take_succ_cons]
  refine ⟨by simp, ?_, ?_⟩
  · intro c hc
    refine isDigit_append h.digits (isDigit_zeros (n := n)) c ?_
    rw [List.cons_append]
    rcases List.mem_cons.1 hc with rfl | hc
    · exact List.mem_cons_self
    · exact List.mem_cons_of_mem _ (List.mem_of_mem_take hc)
  · intro cs hcs
    obtain ⟨rfl, rfl⟩ := List.cons.inj hcs
    have hlone : value ('0' :: more) = 0 := by
      rw [h.zero more rfl]
      rfl
    have hk0 : k = 0 := by
      have hk1 := hzero.resolve_left (fun hne => hne hlone)
      omega
    rw [hk0, List.take_zero]

theorem readsAs_fraction {ds fs : List Char} (h : Whole ds) (hne : fs ≠ [])
    (hd : ∀ c ∈ fs, isDigit c = true) (hv : value (ds ++ fs) < UInt64.size) :
    ReadsAs (ds ++ '.' :: fs) (value (ds ++ fs)) (-fs.length) := by
  intro negative rest hr
  rw [List.append_assoc, List.cons_append,
    readUnsigned_fraction negative h hne hd hv hr.startsWithDigit, hr.readTail]

/-- A number below one. -/
theorem readsAs_writePositional_of_neg {c : Nat} {e : Int} (hc : c < UInt64.size) (he : e < 0) :
    ∃ n : Nat, 0 < n ∧ ReadsAs (writePositional (Numeral.digits c) e) c (-n) := by
  obtain ⟨zeros, hzeros⟩ : ∃ zeros, zeros = List.replicate ((-e).toNat - 1) '0' := ⟨_, rfl⟩
  obtain ⟨fs, hfs⟩ : ∃ fs, fs = zeros ++ Numeral.digits c := ⟨_, rfl⟩
  have hne : fs ≠ [] := by simp [hfs, digits_ne_nil]
  have hd : ∀ x ∈ fs, isDigit x = true := by
    rw [hfs, hzeros]
    exact isDigit_append isDigit_zeros (isDigit_of_mem_digits c)
  have hvalue : value (['0'] ++ fs) = c := by
    rw [hfs, ← List.append_assoc, value_append_list, hzeros, List.singleton_append,
      ← List.replicate_succ, value_zeros]
    exact value_digits c
  have htext : writePositional (Numeral.digits c) e = ['0'] ++ '.' :: fs := by
    rw [writePositional, if_pos he, writeFraction, ← hzeros, ← hfs, if_neg hne]
    rfl
  refine ⟨fs.length, List.length_pos_of_ne_nil hne, ?_⟩
  rw [htext, ← hvalue]
  exact readsAs_fraction (whole_singleton rfl) hne hd (hvalue ▸ hc)

/-- A number from one on that is written positionally has few digits enough. -/
theorem readsAs_writePositional {c : Nat} {e : Int} (hc : c < UInt64.size) (hc0 : c ≠ 0 ∨ e = 0)
    (he : 0 ≤ e) (h15 : e ≤ 15) :
    ∃ v n : Nat, 0 < n ∧ ReadsAs (writePositional (Numeral.digits c) e) v (-n) := by
  obtain ⟨ds, hds⟩ : ∃ ds, ds = Numeral.digits c := ⟨_, rfl⟩
  have hw : Whole ds := hds ▸ whole_digits c
  have hvalue : value ds = c := hds ▸ value_digits c
  obtain ⟨k, hk⟩ : ∃ k, k = e.toNat + 1 := ⟨_, rfl⟩
  obtain ⟨padded, hp⟩ : ∃ padded, padded = ds ++ List.replicate (k - ds.length) '0' := ⟨_, rfl⟩
  have htext : writePositional ds e =
      padded.take k ++ '.' :: (if padded.drop k = [] then ['0'] else padded.drop k) := by
    rw [writePositional, if_neg (by omega), ← hk, ← hp]
    rfl
  have hwhole : Whole (padded.take k) := by
    rw [hp]
    exact hw.take_padded _ (by omega) (by omega)
  have hd : ∀ x ∈ padded, isDigit x = true := hp ▸ isDigit_append hw.digits isDigit_zeros
  rw [← hds, htext]
  split
  · have hzero : ∀ x ∈ ['0'], isDigit x = true := by simp [isDigit]
    have hfits : value (padded.take k ++ ['0']) < UInt64.size := by
      have hlen : (padded.take k ++ ['0']).length ≤ 17 := by
        rw [List.length_append, List.length_take, List.length_singleton]
        omega
      calc value (padded.take k ++ ['0'])
          < 10 ^ (padded.take k ++ ['0']).length := value_lt (isDigit_append hwhole.digits hzero)
        _ ≤ 10 ^ 17 := Nat.pow_le_pow_right (by decide) hlen
        _ < UInt64.size := by decide
    exact ⟨_, _, by decide, readsAs_fraction hwhole (by simp) hzero hfits⟩
  · rename_i hdrop
    -- digits behind the point are left only where no zero was added
    have hsame : padded = ds := by
      have hlen : k < padded.length := by
        by_contra hcon
        exact hdrop (List.drop_eq_nil_of_le (by omega))
      rw [hp, List.length_append, List.length_replicate] at hlen
      have hnone : k - ds.length = 0 := by omega
      rw [hp, hnone, List.replicate_zero, List.append_nil]
    have hfits : value (padded.take k ++ padded.drop k) < UInt64.size := by
      rw [List.take_append_drop, hsame, hvalue]
      exact hc
    have hdigits : ∀ x ∈ padded.drop k, isDigit x = true := by
      intro x hx
      exact hd x (List.mem_of_mem_drop hx)
    exact ⟨_, _, List.length_pos_of_ne_nil hdrop, readsAs_fraction hwhole hdrop hdigits hfits⟩

theorem length_digits_le {c : Nat} (hc : c < UInt64.size) : (Numeral.digits c).length ≤ 20 := by
  by_contra hcon
  have hcount : digitCount c = (Numeral.digits c).length := rfl
  have hc0 : c ≠ 0 := by
    rintro rfl
    rw [Numeral.digits] at hcon
    exact hcon (by decide)
  have hbig : 10 ^ 20 ≤ c :=
    calc 10 ^ 20 ≤ 10 ^ (digitCount c - 1) := Nat.pow_le_pow_right (by decide) (by omega)
      _ ≤ c := (digitCount_spec c).2 hc0
  have hsize : UInt64.size < 10 ^ 20 := by decide
  omega

/-- **A number with an exponent is read as it was written.** -/
theorem readsAs_writeScientific {c : Nat} {x : Int} (hc : c < UInt64.size)
    (hx : -500 ≤ x ∧ x ≤ 500) :
    ReadsAs (writeScientific (Numeral.digits c) (x + (Numeral.digits c).length - 1)) c x := by
  obtain ⟨ds, hds⟩ : ∃ ds, ds = Numeral.digits c := ⟨_, rfl⟩
  have hw : Whole ds := hds ▸ whole_digits c
  have hvalue : value ds = c := hds ▸ value_digits c
  have hlen : ds.length ≤ 20 := hds ▸ length_digits_le hc
  rw [← hds]
  intro negative rest hr
  match ds, hw with
  | [d], hw =>
    rw [hvalue.symm] at hc ⊢
    have hx1 : x + ([d].length : Int) - 1 = x := by
      simp
    rw [hx1]
    show readUnsigned negative ([d] ++ (writeExponent x ++ rest)) = _
    rw [readUnsigned_whole negative hw hc rfl]
    show readTail negative (value [d]) 0 (writeExponent x ++ rest) = _
    rw [readTail_writeExponent negative _ (by omega) (by omega) hr, Int.zero_add]
  | d :: d' :: fs, hw =>
    have hd := hw.digits
    obtain ⟨y, hy⟩ : ∃ y, y = x + ((d :: d' :: fs).length : Int) - 1 := ⟨_, rfl⟩
    have hsum : -((d' :: fs).length : Int) + y = x := by
      rw [hy]
      simp only [List.length_cons]
      omega
    simp only [List.length_cons] at hlen hy
    rw [hvalue.symm] at hc ⊢
    show readUnsigned negative (d :: '.' :: (d' :: fs) ++ writeExponent _ ++ rest) = _
    rw [show x + ((d :: d' :: fs).length : Int) - 1 = y by simp only [List.length_cons]; omega,
      List.append_assoc]
    show readUnsigned negative ([d] ++ '.' :: ((d' :: fs) ++ (writeExponent y ++ rest))) = _
    rw [readUnsigned_fraction negative (whole_singleton (hd d List.mem_cons_self)) (by simp)
      (fun c hc => hd c (List.mem_cons_of_mem _ hc)) hc rfl,
      readTail_writeExponent negative _ (by simp only [List.length_cons]; omega) (by omega) hr,
      hsum]
    rfl

/-- **The text of a decimal is read as its leading digits and a power of ten**; a power from one on
is that of the decimal. -/
theorem readsAs_write {s : Scientific} (hc : s.coefficient < UInt64.size)
    (hx : -500 ≤ s.exponent ∧ s.exponent ≤ 500) (hs : s.coefficient ≠ 0 ∨ s.exponent = 0) :
    ∃ v e, ReadsAs (realLayout.write s) v e ∧ (0 ≤ e → v = s.coefficient ∧ e = s.exponent) := by
  obtain ⟨e, he⟩ : ∃ e, e = s.exponent + ((Numeral.digits s.coefficient).length : Int) - 1 :=
    ⟨_, rfl⟩
  have htext : realLayout.write s =
      if -5 ≤ e ∧ e ≤ 15 then writePositional (Numeral.digits s.coefficient) e
      else writeScientific (Numeral.digits s.coefficient) e := by
    rw [he]
    rfl
  rw [htext]
  split
  · rename_i hrange
    by_cases hneg : e < 0
    · obtain ⟨n, hpos, hn⟩ := readsAs_writePositional_of_neg hc hneg
      exact ⟨_, _, hn, by omega⟩
    · have he0 : s.coefficient ≠ 0 ∨ e = 0 := by
        by_cases h0 : s.coefficient = 0
        · right
          rw [he, hs.resolve_left (fun h => h h0), h0, Numeral.digits]
          decide
        · exact .inl h0
      obtain ⟨v, n, hpos, hn⟩ := readsAs_writePositional hc he0 (by omega) hrange.2
      exact ⟨v, _, hn, by omega⟩
  · rw [he]
    exact ⟨_, _, readsAs_writeScientific hc hx, fun _ => ⟨rfl, rfl⟩⟩

/-! ## 5. The product -/

/-- A division is never out of range. -/
theorem exists_scale_of_neg (x : Float) {e : Int} (he : e < 0) : ∃ y, scale x e = some y := by
  obtain ⟨n, hn⟩ : ∃ n, n = e.natAbs := ⟨_, rfl⟩
  induction n using Nat.strongRecOn generalizing x e with
  | ind n ih =>
    rw [scale]
    split
    · rw [if_neg (by omega)]
      exact ⟨_, rfl⟩
    · split
      · exact ⟨_, rfl⟩
      · rw [if_neg (by omega)]
        exact ih (e + 308).natAbs (by omega) _ (by omega) rfl

theorem exists_scale_of_nonneg {x : Float} {n : Nat} (hn : n ≤ 308)
    (h : (x * powerOfTen n).isInf = false) : ∃ y, scale x n = some y := by
  rw [scale, if_pos (by omega), if_pos (by omega), Int.natAbs_natCast]
  simp [h]

/-! ## 6. Real numbers -/

/-- **A shortest decimal with an exponent from zero on is read as a number in range.** -/
theorem isInf_shortest_eq_false {m n : Nat} {e : Int} (hm : 0 < m) (h53 : m < 2 ^ 53)
    (hlow : -1074 ≤ e) (hhigh : e ≤ topPlace) (hn : (shortest m e).exponent = n) :
    n ≤ 308 ∧ (Float.ofNat (shortest m e).coefficient * powerOfTen n).isInf = false := by
  by_cases hmax : m = 2 ^ 53 - 1 ∧ e = topPlace
  · have hlargest : shortest m e = ⟨17976931348623157, 292⟩ := by
      rw [hmax.1, hmax.2]
      exact shortest_largest
    rw [hlargest] at hn ⊢
    have hn' : (292 : Int) = n := hn
    obtain rfl : n = 292 := by omega
    exact ⟨by decide, isInf_largest_eq_false⟩
  · obtain ⟨h17, -, -, hright⟩ := shortest_spec hm h53 hlow
    have hc0 := coefficient_shortest_ne_zero hm h53 hlow
    obtain ⟨c, hc⟩ : ∃ c, c = (shortest m e).coefficient := ⟨_, rfl⟩
    rw [Scientific.value, hn, ← hc, zpow_natCast] at hright
    rw [← hc] at h17 hc0 ⊢
    have hfits : c * 10 ^ n ≤ secondEnd := by
      exact_mod_cast le_trans hright (le_secondEnd h53 hhigh hmax)
    have hn308 : n ≤ 308 := by
      by_contra hcon
      have hten : 10 ^ 309 ≤ 10 ^ n := pow_le_pow_right₀ (by decide) (by omega)
      have hbig : secondEnd < c * 10 ^ n :=
        calc secondEnd < 10 ^ 309 := by decide +kernel
          _ ≤ 10 ^ n := hten
          _ ≤ c * 10 ^ n := Nat.le_mul_of_pos_left _ (Nat.pos_of_ne_zero hc0)
      omega
    exact ⟨hn308, isInf_scaled_eq_false hc0 h17 hn308 hfits⟩

/-- What is read of a shortest decimal is in range. -/
theorem exists_scale_shortest {m : Nat} {e : Int} (h53 : m < 2 ^ 53) (hlow : -1074 ≤ e)
    (hhigh : e ≤ topPlace) :
    ∃ v x y, ReadsAs (realLayout.write (shortest m e)) v x ∧
      scale (Float.ofNat v) x = some y := by
  obtain ⟨s, hs⟩ : ∃ s, s = shortest m e := ⟨_, rfl⟩
  obtain ⟨hc, hx, hzero, hscale⟩ : s.coefficient ≤ 10 ^ 17 ∧ -416 ≤ s.exponent ∧
      (s.coefficient ≠ 0 ∨ s.exponent = 0) ∧ ∀ n : Nat, s.exponent = n →
        n ≤ 308 ∧ (Float.ofNat s.coefficient * powerOfTen n).isInf = false := by
    by_cases hm : m = 0
    · rw [hs, shortest, if_pos hm]
      refine ⟨by decide, by decide, .inr rfl, fun n hn => ?_⟩
      obtain rfl : n = 0 := by
        have hn' : (0 : Int) = n := hn
        omega
      exact ⟨by decide, by decide +kernel⟩
    · have hpos : 0 < m := by omega
      obtain ⟨h17, h416, -, -⟩ := shortest_spec hpos h53 hlow
      rw [hs]
      exact ⟨h17, h416, .inl (coefficient_shortest_ne_zero hpos h53 hlow),
        fun n hn => isInf_shortest_eq_false hpos h53 hlow hhigh hn⟩
  have hfits : s.coefficient < UInt64.size := lt_of_le_of_lt hc (by decide)
  have hx308 : s.exponent ≤ 308 := by
    by_contra hcon
    have := (hscale s.exponent.toNat (by omega)).1
    omega
  obtain ⟨v, x, hread, hsame⟩ := readsAs_write hfits (by omega) hzero
  rw [← hs]
  by_cases hneg : x < 0
  · obtain ⟨y, hy⟩ := exists_scale_of_neg (Float.ofNat v) hneg
    exact ⟨v, x, y, hread, hy⟩
  · obtain ⟨rfl, rfl⟩ := hsame (by omega)
    obtain ⟨n, hn⟩ : ∃ n : Nat, s.exponent = n := ⟨s.exponent.toNat, by omega⟩
    obtain ⟨hn308, hinf⟩ := hscale n hn
    obtain ⟨y, hy⟩ := exists_scale_of_nonneg hn308 hinf
    exact ⟨s.coefficient, s.exponent, y, hread, hn ▸ hy⟩

/-- **Every finite real number is read back as some real number, whatever ends it.** -/
theorem readNumber_printReal {x : Float} (hx : x.isFinite = true) :
    ∃ y, ∀ rest, EndsNumber rest → readNumber (printReal x ++ rest) = .ok (.real y, rest) := by
  obtain ⟨negative, m, e, hshape, h53, hlow, hhigh⟩ := shape_of_isFinite hx
  obtain ⟨v, e', y, hread, hy⟩ := exists_scale_shortest h53 hlow hhigh
  have htext : printReal x =
      (if negative then ['-'] else []) ++ realLayout.write (shortest m e) := by
    rw [printReal, Layout.writeFloat?, hshape]
    rfl
  refine ⟨if negative then -y else y, fun rest hr => ?_⟩
  have hunsigned : readUnsigned negative (realLayout.write (shortest m e) ++ rest) =
      .ok (.real (if negative then -y else y), rest) := by
    rw [hread negative rest hr, realNumber, hy]
  rw [htext]
  cases negative with
  | true => exact hunsigned
  | false => exact readNumber_of_readUnsigned hunsigned

end Vitals.Json
