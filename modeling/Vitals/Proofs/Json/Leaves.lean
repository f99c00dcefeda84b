import Vitals.Proofs.Json.Number

/-!
# What the readers of numbers and strings take

A reader finds a value at the front of a text and leaves the rest. Where it stops depends on what it
has read, and at most on the character behind: the same piece of text is taken for the same value
wherever it stands. This file fixes

* `Takes`, that a reader takes a piece of text for a value, whatever follows;
* `IsLocal`, that everything a reader reads is a piece of text that it takes.

Main statements: the readers of numbers and of strings are local (`isLocal_readNumber`,
`isLocal_readString`).
-/

namespace Vitals.Json

open Vitals.Numeral

/-! ## 1. Local readers -/

section

variable {α : Type}

/-- A reader takes a piece of text for a value, in front of any text that may follow. -/
def Takes (read : List Char → Except Flaw (α × List Char)) (ends : List Char → Prop)
    (text : List Char) (a : α) : Prop :=
  ∀ rest, ends rest → read (text ++ rest) = .ok (a, rest)

/-- **Whatever a reader reads is a piece of text that it takes.** -/
def IsLocal (read : List Char → Except Flaw (α × List Char)) (ends : List Char → Prop) : Prop :=
  ∀ cs a rest, read cs = .ok (a, rest) → ∃ text, cs = text ++ rest ∧ Takes read ends text a

/-- Anything may follow. -/
def Anything (_ : List Char) : Prop := True

theorem IsLocal.takes {read : List Char → Except Flaw (α × List Char)} {ends : List Char → Prop}
    (h : IsLocal read ends) {text : List Char} {a : α} (hread : read text = .ok (a, [])) :
    Takes read ends text a := by
  obtain ⟨text', htext, htakes⟩ := h text a [] hread
  rw [List.append_nil] at htext
  exact htext ▸ htakes

theorem IsLocal.exists_text {read : List Char → Except Flaw (α × List Char)}
    {ends : List Char → Prop} (h : IsLocal read ends) (hnil : ends []) {cs : List Char} {a : α}
    {rest : List Char} (hread : read cs = .ok (a, rest)) :
    ∃ text, cs = text ++ rest ∧ read text = .ok (a, []) := by
  obtain ⟨text, htext, htakes⟩ := h cs a rest hread
  have halone := htakes [] hnil
  rw [List.append_nil] at halone
  exact ⟨text, htext, halone⟩

end

/-! ## 2. Runs of digits -/

/-- Every text starts with a run of digits, maybe an empty one. -/
theorem exists_digits (cs : List Char) : ∃ ds rest, cs = ds ++ rest ∧
    (∀ c ∈ ds, isDigit c = true) ∧ startsWithDigit rest = false := by
  induction cs with
  | nil => exact ⟨[], [], rfl, fun _ h => absurd h List.not_mem_nil, rfl⟩
  | cons c cs ih =>
    by_cases hc : isDigit c = true
    · obtain ⟨ds, rest, rfl, hds, hrest⟩ := ih
      exact ⟨c :: ds, rest, rfl, List.forall_mem_cons.mpr ⟨hc, hds⟩, hrest⟩
    · exact ⟨[], c :: cs, rfl, fun _ h => absurd h List.not_mem_nil, Bool.eq_false_iff.mpr hc⟩

section

variable {ds rest : List Char}

theorem startsWithDigit_append (hd : ∀ c ∈ ds, isDigit c = true)
    (hr : startsWithDigit rest = false) : startsWithDigit (ds ++ rest) = !ds.isEmpty := by
  cases ds with
  | nil => exact hr
  | cons c ds => exact hd c List.mem_cons_self

theorem skipDigits_append (hd : ∀ c ∈ ds, isDigit c = true) (hr : startsWithDigit rest = false) :
    skipDigits (ds ++ rest) = (ds.length, rest) := by
  induction ds with
  | nil =>
    cases rest with
    | nil => rfl
    | cons c cs =>
      have hc : isDigit c = false := hr
      simp [skipDigits, hc]
  | cons c ds ih =>
    obtain ⟨hc, hds⟩ := List.forall_mem_cons.mp hd
    simp [skipDigits, hc, ih hds]

/-- What is read of a run of digits does not depend on what follows it. -/
theorem leadingDigits_run (v : Nat) (hd : ∀ c ∈ ds, isDigit c = true)
    (hr : startsWithDigit rest = false) :
    leadingDigits v (ds ++ rest) =
      ((leadingDigits v ds).1, (leadingDigits v ds).2.1, (leadingDigits v ds).2.2 ++ rest) := by
  induction ds generalizing v with
  | nil =>
    cases rest with
    | nil => rfl
    | cons c cs =>
      have hc : isDigit c = false := hr
      simp [leadingDigits, hc]
  | cons c ds ih =>
    obtain ⟨hc, hds⟩ := List.forall_mem_cons.mp hd
    by_cases hfits : v * 10 + digitValue c < UInt64.size
    · simp [leadingDigits, hc, hfits, ih _ hds]
    · simp [leadingDigits, hc, hfits]

/-- The digits that do not fit are digits. -/
theorem isDigit_of_mem_leadingDigits (v : Nat) (hd : ∀ c ∈ ds, isDigit c = true) :
    ∀ c ∈ (leadingDigits v ds).2.2, isDigit c = true := by
  induction ds generalizing v with
  | nil => exact hd
  | cons c ds ih =>
    obtain ⟨hc, hds⟩ := List.forall_mem_cons.mp hd
    by_cases hfits : v * 10 + digitValue c < UInt64.size
    · simpa [leadingDigits, hc, hfits] using ih (v * 10 + digitValue c) hds
    · simpa [leadingDigits, hc, hfits] using hds

/-- If no digit was read, the first one did not fit. -/
theorem leadingDigits_of_read_none (v : Nat) (hne : ds ≠ []) (h : (leadingDigits v ds).2.1 = 0) :
    (leadingDigits v ds).2.2 ≠ [] := by
  cases ds with
  | nil => exact absurd rfl hne
  | cons c ds =>
    unfold leadingDigits at h ⊢
    split
    · rename_i hfits
      rw [if_pos hfits] at h
      cases h
    · exact List.cons_ne_nil c ds

theorem exponentDigits_run (v : Nat) (hd : ∀ c ∈ ds, isDigit c = true)
    (hr : startsWithDigit rest = false) :
    exponentDigits v (ds ++ rest) = ((exponentDigits v ds).1, rest) := by
  induction ds generalizing v with
  | nil =>
    cases rest with
    | nil => rfl
    | cons c cs =>
      have hc : isDigit c = false := hr
      simp [exponentDigits, hc]
  | cons c ds ih =>
    obtain ⟨hc, hds⟩ := List.forall_mem_cons.mp hd
    by_cases hfits : v * 10 + digitValue c ≤ exponentLimit
    · simp [exponentDigits, hc, hfits, ih _ hds]
    · simp [exponentDigits, hc, hfits, skipDigits_append hds hr]

end

/-! ## 3. Numbers -/

section

variable (negative : Bool) (v : Nat) (e : Int)

/-- The exponent behind its sign. -/
def exponentBehind (down : Bool) (cs : List Char) : Except Flaw (Number × List Char) :=
  if cs = [] then .error .ended
  else if !startsWithDigit cs then .error .malformed
  else match exponentDigits 0 cs with
    | (none, rest) =>
      if v ≠ 0 ∧ !down then .error .malformed
      else .ok (.real (if negative then -0.0 else 0.0), rest)
    | (some n, rest) =>
      let total : Int := if down then e - n else e + n
      realNumber negative v (max (-2147483648) (min total 2147483647)) rest

/-- An exponent without a sign. -/
theorem readExponent_of_ne {c : Char} (hplus : c ≠ '+') (hminus : c ≠ '-') (cs : List Char) :
    readExponent negative v e (c :: cs) = exponentBehind negative v e false (c :: cs) := by
  unfold readExponent exponentBehind
  split
  rename_i heq
  split at heq
  · rename_i h
    exact absurd (List.cons.inj h).1 hplus
  · rename_i h
    exact absurd (List.cons.inj h).1 hminus
  · cases heq
    rfl

theorem readExponent_digit {c : Char} (hc : isDigit c = true) (cs : List Char) :
    readExponent negative v e (c :: cs) = exponentBehind negative v e false (c :: cs) := by
  have hplus : c ≠ '+' := fun h => absurd hc (by rw [h]; decide)
  have hminus : c ≠ '-' := fun h => absurd hc (by rw [h]; decide)
  exact readExponent_of_ne negative v e hplus hminus cs

theorem realNumber_congr {n : Number} {cs rest : List Char}
    (h : realNumber negative v e cs = .ok (n, rest)) :
    cs = rest ∧ ∀ rest', realNumber negative v e rest' = .ok (n, rest') := by
  unfold realNumber at h ⊢
  split at h
  · cases h
  · cases h
    exact ⟨rfl, fun rest' => rfl⟩

theorem isLocal_exponentBehind (down : Bool) :
    IsLocal (exponentBehind negative v e down) EndsNumber := by
  intro cs n rest h
  obtain ⟨ds, rest₀, rfl, hd, hr⟩ := exists_digits cs
  cases ds with
  | nil =>
    unfold exponentBehind at h
    split at h
    · cases h
    · rw [List.nil_append, hr, Bool.not_false, if_pos rfl] at h
      cases h
  | cons c ds =>
    -- what is read of the digits is the same in front of any text that ends them
    have hrun : ∀ rest, startsWithDigit rest = false →
        exponentBehind negative v e down (c :: ds ++ rest) =
          match (exponentDigits 0 (c :: ds)).1 with
          | none =>
            if v ≠ 0 ∧ !down then .error .malformed
            else .ok (.real (if negative then -0.0 else 0.0), rest)
          | some n =>
            let total : Int := if down then e - n else e + n
            realNumber negative v (max (-2147483648) (min total 2147483647)) rest := by
      intro rest hrest
      have hstart : startsWithDigit (c :: ds ++ rest) = true := hd c List.mem_cons_self
      rw [exponentBehind, if_neg (by simp), hstart, exponentDigits_run 0 hd hrest]
      cases (exponentDigits 0 (c :: ds)).1 <;> rfl
    rw [hrun rest₀ hr] at h
    have hends : ∀ rest', EndsNumber rest' → startsWithDigit rest' = false :=
      fun _ hends => hends.startsWithDigit
    cases hx : (exponentDigits 0 (c :: ds)).1 with
    | none =>
      rw [hx] at h hrun
      simp only at h hrun
      split at h
      · cases h
      · rename_i hcond
        cases h
        refine ⟨c :: ds, rfl, fun rest' hends' => ?_⟩
        rw [hrun rest' (hends rest' hends'), if_neg hcond]
    | some k =>
      rw [hx] at h hrun
      obtain ⟨rfl, hany⟩ := realNumber_congr _ _ _ h
      exact ⟨c :: ds, rfl, fun rest' hends' => (hrun rest' (hends rest' hends')).trans (hany rest')⟩

theorem isLocal_readExponent : IsLocal (readExponent negative v e) EndsNumber := by
  intro cs n rest h
  by_cases hplus : ∃ cs', cs = '+' :: cs'
  · obtain ⟨cs', rfl⟩ := hplus
    obtain ⟨text, rfl, htakes⟩ := isLocal_exponentBehind negative v e false cs' n rest h
    exact ⟨'+' :: text, rfl, htakes⟩
  · by_cases hminus : ∃ cs', cs = '-' :: cs'
    · obtain ⟨cs', rfl⟩ := hminus
      obtain ⟨text, rfl, htakes⟩ := isLocal_exponentBehind negative v e true cs' n rest h
      exact ⟨'-' :: text, rfl, htakes⟩
    · -- without a sign there is a digit in front
      have hbehind : exponentBehind negative v e false cs = .ok (n, rest) := by
        cases cs with
        | nil => exact h
        | cons c cs =>
          have hp : c ≠ '+' := fun e => hplus ⟨cs, e ▸ rfl⟩
          have hm : c ≠ '-' := fun e => hminus ⟨cs, e ▸ rfl⟩
          rw [← readExponent_of_ne negative v e hp hm]
          exact h
      obtain ⟨text, rfl, htakes⟩ := isLocal_exponentBehind negative v e false cs n rest hbehind
      refine ⟨text, rfl, fun rest' hends => ?_⟩
      have hread := htakes rest' hends
      cases hcs : text ++ rest' with
      | nil =>
        rw [hcs] at hread
        cases hread
      | cons c cs' =>
        rw [hcs] at hread
        by_cases hc : isDigit c = true
        · rw [readExponent_digit negative v e hc, hread]
        · have herror : exponentBehind negative v e false (c :: cs') = .error .malformed := by
            simp [exponentBehind, startsWithDigit, hc]
          rw [herror] at hread
          cases hread

theorem isLocal_readTail : IsLocal (readTail negative v e) EndsNumber := by
  intro cs n rest h
  unfold readTail at h
  split at h
  · rename_i cs
    obtain ⟨text, rfl, htakes⟩ := isLocal_readExponent negative v e cs n rest h
    exact ⟨'e' :: text, rfl, htakes⟩
  · rename_i cs
    obtain ⟨text, rfl, htakes⟩ := isLocal_readExponent negative v e cs n rest h
    exact ⟨'E' :: text, rfl, htakes⟩
  · obtain ⟨rfl, hany⟩ := realNumber_congr negative v e h
    refine ⟨[], rfl, fun rest' hends => ?_⟩
    rw [List.nil_append, hends.readTail, hany]

/-- Digits of a fraction that do not fit change nothing. -/
theorem readFraction_run {ds rest : List Char} (hne : ds ≠ []) (hd : ∀ c ∈ ds, isDigit c = true)
    (hr : startsWithDigit rest = false) : readFraction negative v e (ds ++ rest) =
      readTail negative (leadingDigits v ds).1 (e - (leadingDigits v ds).2.1) rest := by
  have hleft := isDigit_of_mem_leadingDigits v hd
  have hnone := leadingDigits_of_read_none v hne
  unfold readFraction
  rw [leadingDigits_run v hd hr]
  generalize leadingDigits v ds = run at hleft hnone ⊢
  obtain ⟨w, n, more⟩ := run
  simp only [startsWithDigit_append hleft hr, skipDigits_append hleft hr]
  cases more with
  | nil =>
    have hn : n ≠ 0 := fun h => hnone h rfl
    simp [hn]
  | cons c more => rfl

/-- A fraction starts with a digit. -/
theorem readFraction_none {rest : List Char} (hr : startsWithDigit rest = false) :
    readFraction negative v e rest = if rest = [] then .error .ended else .error .malformed := by
  have hstop : leadingDigits v rest = (v, 0, rest) :=
    leadingDigits_run v (fun _ h => absurd h List.not_mem_nil) hr
  unfold readFraction
  rw [hstop]
  simp only [hr, Bool.false_eq_true, if_false, if_true]

/-- What stands behind a run of digits starts with none, also in front of another text. -/
theorem startsWithDigit_behind {text rest rest' : List Char}
    (hr : startsWithDigit (text ++ rest) = false) (hends : EndsNumber rest') :
    startsWithDigit (text ++ rest') = false := by
  cases text with
  | nil => exact hends.startsWithDigit
  | cons c text => exact hr

theorem isLocal_readFraction : IsLocal (readFraction negative v e) EndsNumber := by
  intro cs n rest h
  obtain ⟨ds, rest₀, rfl, hd, hr⟩ := exists_digits cs
  by_cases hne : ds = []
  · subst hne
    rw [List.nil_append, readFraction_none negative v e hr] at h
    split at h <;> cases h
  · rw [readFraction_run negative v e hne hd hr] at h
    obtain ⟨text, rfl, htakes⟩ := isLocal_readTail _ _ _ _ _ _ h
    refine ⟨ds ++ text, (List.append_assoc ..).symm, fun rest' hends => ?_⟩
    rw [List.append_assoc,
      readFraction_run negative v e hne hd (startsWithDigit_behind hr hends)]
    exact htakes rest' hends

/-- A reader that is local behind a first character is local with it. -/
theorem IsLocal.cons {α : Type} {read read' : List Char → Except Flaw (α × List Char)}
    {ends : List Char → Prop} (h : IsLocal read ends) (c : Char) {cs rest : List Char} {a : α}
    (hcons : ∀ cs, read' (c :: cs) = read cs) (hread : read' (c :: cs) = .ok (a, rest)) :
    ∃ text, c :: cs = text ++ rest ∧ Takes read' ends text a := by
  rw [hcons] at hread
  obtain ⟨text, rfl, htakes⟩ := h cs a rest hread
  exact ⟨c :: text, rfl, fun rest' hends => (hcons (text ++ rest')).trans (htakes rest' hends)⟩

theorem isLocal_afterWhole : IsLocal (afterWhole negative v) EndsNumber := by
  intro cs n rest h
  unfold afterWhole at h
  split at h
  · exact (isLocal_readFraction negative v 0).cons '.' (fun _ => rfl) h
  · exact (isLocal_readExponent negative v 0).cons 'e' (fun _ => rfl) h
  · exact (isLocal_readExponent negative v 0).cons 'E' (fun _ => rfl) h
  · cases h
    exact ⟨[], rfl, fun rest' hends => hends.afterWhole negative v⟩

/-- What follows whole digits that do not all fit. -/
def afterMore (moved : Nat) (cs : List Char) : Except Flaw (Number × List Char) :=
  match cs with
  | '.' :: cs => readFraction negative v moved cs
  | cs => readTail negative v moved cs

theorem afterMore_of_ne {moved : Nat} {cs : List Char} (h : ∀ c ∈ cs.head?, c ≠ '.') :
    afterMore negative v moved cs = readTail negative v moved cs := by
  unfold afterMore
  split
  · exact absurd rfl (h '.' rfl)
  · rfl

theorem isLocal_afterMore (moved : Nat) : IsLocal (afterMore negative v moved) EndsNumber := by
  intro cs n rest h
  by_cases hpoint : ∃ cs', cs = '.' :: cs'
  · obtain ⟨cs', rfl⟩ := hpoint
    exact (isLocal_readFraction negative v moved).cons '.' (fun _ => rfl) h
  · have hne : ∀ c ∈ cs.head?, c ≠ '.' := by
      rintro c hc rfl
      obtain ⟨cs', hcs⟩ := List.head?_eq_some_iff.mp hc
      exact hpoint ⟨cs', hcs⟩
    rw [afterMore_of_ne negative v hne] at h
    obtain ⟨text, rfl, htakes⟩ := isLocal_readTail negative v moved cs n rest h
    refine ⟨text, rfl, fun rest' hends => ?_⟩
    rw [afterMore_of_ne negative v ?_, htakes rest' hends]
    cases text with
    | nil => exact fun c hc => (hends c hc).2.1
    | cons c text => exact hne

/-- What is read of a run of whole digits does not depend on what follows it. -/
theorem readUnsigned_run {c : Char} {ds rest : List Char} (hc : isDigit c = true) (h0 : c ≠ '0')
    (hd : ∀ c ∈ ds, isDigit c = true) (hr : startsWithDigit rest = false) :
    readUnsigned negative (c :: (ds ++ rest)) =
      if (leadingDigits (digitValue c) ds).2.2 = [] then
        afterWhole negative (leadingDigits (digitValue c) ds).1 rest
      else afterMore negative (leadingDigits (digitValue c) ds).1
        (leadingDigits (digitValue c) ds).2.2.length rest := by
  have hleft := isDigit_of_mem_leadingDigits (digitValue c) hd
  unfold readUnsigned
  split
  · contradiction
  · rename_i heq
    exact absurd (List.cons.inj heq).1 h0
  · rename_i heq
    obtain ⟨rfl, rfl⟩ := List.cons.inj heq
    rw [if_neg (by simp [hc]), leadingDigits_run _ hd hr]
    generalize leadingDigits (digitValue c) ds = run at hleft ⊢
    obtain ⟨w, n, more⟩ := run
    simp only [startsWithDigit_append hleft hr, skipDigits_append hleft hr]
    cases more <;> rfl

theorem isLocal_readUnsigned : IsLocal (readUnsigned negative) EndsNumber := by
  intro cs n rest h
  cases cs with
  | nil => cases h
  | cons c cs =>
    by_cases h0 : c = '0'
    · subst h0
      have hzero : ∀ cs, readUnsigned negative ('0' :: cs) =
          if startsWithDigit cs then .error .malformed else afterWhole negative 0 cs := fun _ => rfl
      rw [hzero] at h
      split at h
      · cases h
      · rename_i hstart
        obtain ⟨text, rfl, htakes⟩ := isLocal_afterWhole negative 0 cs n rest h
        refine ⟨'0' :: text, rfl, fun rest' hends => ?_⟩
        have hstart' := startsWithDigit_behind (Bool.eq_false_iff.mpr hstart) hends
        rw [List.cons_append, hzero, hstart', if_neg Bool.false_ne_true]
        exact htakes rest' hends
    · by_cases hc : isDigit c = true
      · obtain ⟨ds, rest₀, rfl, hd, hr⟩ := exists_digits cs
        rw [readUnsigned_run negative hc h0 hd hr] at h
        have hlocal : ∀ read : List Char → Except Flaw (Number × List Char),
            (∀ rest, startsWithDigit rest = false →
              readUnsigned negative (c :: (ds ++ rest)) = read rest) →
            IsLocal read EndsNumber → read rest₀ = .ok (n, rest) →
            ∃ text, c :: (ds ++ rest₀) = text ++ rest ∧
              Takes (readUnsigned negative) EndsNumber text n := by
          intro read hread hloc hok
          obtain ⟨text, rfl, htakes⟩ := hloc _ _ _ hok
          refine ⟨c :: (ds ++ text), by simp, fun rest' hends => ?_⟩
          rw [List.cons_append, List.append_assoc, hread _ (startsWithDigit_behind hr hends)]
          exact htakes rest' hends
        split at h
        · rename_i hfits
          refine hlocal _ (fun rest hrest => ?_) (isLocal_afterWhole negative _) h
          rw [readUnsigned_run negative hc h0 hd hrest, if_pos hfits]
        · rename_i hfits
          refine hlocal _ (fun rest hrest => ?_) (isLocal_afterMore negative _ _) h
          rw [readUnsigned_run negative hc h0 hd hrest, if_neg hfits]
      · unfold readUnsigned at h
        split at h
        · contradiction
        · rename_i heq
          exact absurd (List.cons.inj heq).1 h0
        · rename_i heq
          obtain ⟨rfl, rfl⟩ := List.cons.inj heq
          rw [if_pos (by simp [hc])] at h
          cases h

end

/-- **A number is the same number in front of anything that does not go on with it.** -/
theorem isLocal_readNumber : IsLocal readNumber EndsNumber := by
  intro cs n rest h
  by_cases hminus : ∃ cs', cs = '-' :: cs'
  · obtain ⟨cs', rfl⟩ := hminus
    exact (isLocal_readUnsigned true).cons '-' (fun _ => rfl) h
  · have hplain : readUnsigned false cs = .ok (n, rest) := by
      unfold readNumber at h
      split at h
      · exact absurd ⟨_, rfl⟩ hminus
      · exact h
    obtain ⟨text, rfl, htakes⟩ := isLocal_readUnsigned false cs n rest hplain
    exact ⟨text, rfl, fun rest' hends => readNumber_of_readUnsigned (htakes rest' hends)⟩

/-! ## 4. Strings -/

theorem isLocal_readHex : IsLocal readHex Anything := by
  intro cs n rest h
  unfold readHex at h
  split at h
  · rename_i a b c d rest₀
    split at h
    · rename_i ha hb hc hd
      cases h
      refine ⟨[a, b, c, d], rfl, fun rest' _ => ?_⟩
      simp only [List.cons_append, List.nil_append, readHex, ha, hb, hc, hd]
    · cases h
  · split at h <;> cases h

theorem exists_of_bind_ok {ε α β : Type} {e : Except ε α} {f : α → Except ε β} {b : β}
    (h : (e >>= f) = .ok b) : ∃ a, e = .ok a ∧ f a = .ok b := by
  cases e with
  | error x => cases h
  | ok a => exact ⟨a, rfl, h⟩

/-- What is done with a value that was read, and with the text behind it. -/
theorem IsLocal.bind {α β : Type} {read : List Char → Except Flaw (α × List Char)}
    {next : α → List Char → Except Flaw (β × List Char)} {ends : List Char → Prop}
    (h : IsLocal read Anything) (hnext : ∀ a, IsLocal (next a) ends) :
    IsLocal (fun cs => read cs >>= fun r => next r.1 r.2) ends := by
  intro cs b rest hread
  obtain ⟨⟨a, rest₀⟩, ha, hb⟩ := exists_of_bind_ok hread
  obtain ⟨text, rfl, htakes⟩ := h cs a rest₀ ha
  obtain ⟨text', rfl, htakes'⟩ := hnext a rest₀ b rest hb
  refine ⟨text ++ text', (List.append_assoc ..).symm, fun rest' hends => ?_⟩
  show read (text ++ text' ++ rest') >>= _ = _
  rw [List.append_assoc, htakes (text' ++ rest') trivial]
  exact htakes' rest' hends

/-- The character that a pair of surrogates stands for. -/
def joinPair (high low : Nat) (cs : List Char) : Except Flaw (Char × List Char) :=
  if low < 0xDC00 ∨ 0xDFFF < low then .error .malformed
  else .ok (Char.ofNat ((high - 0xD800) * 1024 + (low - 0xDC00) + 0x10000), cs)

/-- The second half of a pair of surrogates. -/
def readLow (high : Nat) (cs : List Char) : Except Flaw (Char × List Char) :=
  match cs with
  | [] => .error .ended
  | ['\\'] => .error .ended
  | '\\' :: 'u' :: rest => readHex rest >>= fun r => joinPair high r.1 r.2
  | _ => .error .malformed

/-- The character behind its first four digits. -/
def readRest (code : Nat) (cs : List Char) : Except Flaw (Char × List Char) :=
  if code < 0xD800 ∨ 0xDFFF < code then .ok (Char.ofNat code, cs)
  else if 0xDC00 ≤ code then .error .malformed
  else readLow code cs

theorem readCode_eq (cs : List Char) :
    readCode cs = readHex cs >>= fun r => readRest r.1 r.2 := by
  unfold readCode
  cases readHex cs with
  | error f => rfl
  | ok r =>
    obtain ⟨n, rest⟩ := r
    show ite _ _ _ = ite _ _ _
    split
    · rfl
    · show ite _ _ _ = ite _ _ _
      split
      · rfl
      · unfold readLow
        rfl

/-- A reader that gives what it is told without reading. -/
theorem isLocal_pure {α : Type} (ends : List Char → Prop) (a : α) :
    IsLocal (fun cs => .ok (a, cs)) ends := by
  intro cs b rest h
  cases h
  exact ⟨[], rfl, fun _ _ => rfl⟩

theorem isLocal_error {α : Type} (ends : List Char → Prop) (f : Flaw) :
    IsLocal (fun _ => (.error f : Except Flaw (α × List Char))) ends :=
  fun _ _ _ h => nomatch h

theorem isLocal_readLow (high : Nat) : IsLocal (readLow high) Anything := by
  have hpair : IsLocal (fun cs => readHex cs >>= fun r => joinPair high r.1 r.2) Anything := by
    refine isLocal_readHex.bind fun low => ?_
    unfold joinPair
    split
    · exact isLocal_error Anything .malformed
    · exact isLocal_pure Anything _
  intro cs x rest h
  unfold readLow at h
  split at h
  · cases h
  · cases h
  · rename_i cs
    obtain ⟨text, rfl, htakes⟩ := hpair cs x rest h
    exact ⟨'\\' :: 'u' :: text, rfl, htakes⟩
  · cases h

theorem isLocal_readCode : IsLocal readCode Anything := by
  have hcode : IsLocal (fun cs => readHex cs >>= fun r => readRest r.1 r.2) Anything := by
    refine isLocal_readHex.bind fun code => ?_
    unfold readRest
    split
    · exact isLocal_pure Anything _
    · split
      · exact isLocal_error Anything .malformed
      · exact isLocal_readLow code
  rwa [← funext readCode_eq] at hcode

/-- One character of a string, the closing quote apart. -/
def readCharacter (c : Char) (cs : List Char) : Except Flaw (Char × List Char) :=
  if c = '\\' then
    match cs with
    | [] => .error .ended
    | e :: cs =>
      if e = 'u' then readCode cs
      else match unescape? e with
        | none => .error .malformed
        | some x => .ok (x, cs)
  else if c.toNat < 32 then .error .malformed
  else .ok (c, cs)

theorem readText_succ {c : Char} (hc : c ≠ '"') (fuel : Nat) (cs : List Char) :
    readText (fuel + 1) (c :: cs) = readCharacter c cs >>= fun r =>
      readText fuel r.2 >>= fun q => .ok (r.1 :: q.1, q.2) := by
  rw [readText.eq_def, readCharacter.eq_def]
  simp only [if_neg hc]
  split
  · cases cs with
    | nil => rfl
    | cons e cs =>
      dsimp only
      split
      · rfl
      · cases unescape? e <;> rfl
  · split <;> rfl

theorem isLocal_readCharacter (c : Char) : IsLocal (readCharacter c) Anything := by
  by_cases hescape : c = '\\'
  · intro cs x rest h
    cases cs with
    | nil =>
      rw [readCharacter, if_pos hescape] at h
      cases h
    | cons e cs =>
      have hbehind : IsLocal (fun cs => if e = 'u' then readCode cs
          else match unescape? e with
            | none => .error .malformed
            | some x => .ok (x, cs)) Anything := by
        split
        · exact isLocal_readCode
        · cases unescape? e with
          | none => exact isLocal_error Anything .malformed
          | some x => exact isLocal_pure Anything x
      refine hbehind.cons e (fun cs => ?_) h
      rw [readCharacter, if_pos hescape]
  · unfold readCharacter
    simp only [if_neg hescape]
    split
    · exact isLocal_error Anything .malformed
    · exact isLocal_pure Anything c

/-- **Behind an opening quote, the characters up to the closing one are read**, with as much fuel
as there are characters. -/
theorem exists_readText {fuel : Nat} {cs xs rest : List Char}
    (h : readText fuel cs = .ok (xs, rest)) : ∃ text, cs = text ++ rest ∧
      ∀ fuel' rest', text.length ≤ fuel' → readText fuel' (text ++ rest') = .ok (xs, rest') := by
  induction fuel generalizing cs xs with
  | zero => cases h
  | succ fuel ih =>
    cases cs with
    | nil => cases h
    | cons c cs =>
      by_cases hc : c = '"'
      · subst hc
        cases h
        refine ⟨['"'], rfl, fun fuel' rest' hfuel => ?_⟩
        obtain ⟨fuel', rfl⟩ := Nat.exists_eq_add_of_le' hfuel
        rfl
      · rw [readText_succ hc] at h
        obtain ⟨⟨x, rest₁⟩, hx, h⟩ := exists_of_bind_ok h
        obtain ⟨⟨ys, rest₂⟩, hys, h⟩ := exists_of_bind_ok h
        cases h
        obtain ⟨first, rfl, hfirst⟩ := isLocal_readCharacter c cs x rest₁ hx
        obtain ⟨text, rfl, htext⟩ := ih hys
        refine ⟨c :: (first ++ text), by simp, fun fuel' rest' hfuel => ?_⟩
        rw [List.length_cons, List.length_append] at hfuel
        obtain ⟨fuel', rfl⟩ : ∃ n, fuel' = n + 1 := ⟨fuel' - 1, by omega⟩
        rw [List.cons_append, readText_succ hc, List.append_assoc, hfirst _ trivial]
        show readText fuel' (text ++ rest') >>= _ = _
        rw [htext fuel' rest' (by omega)]
        rfl

/-- **A string is the same string whatever follows its closing quote.** -/
theorem isLocal_readString : IsLocal readString Anything := by
  intro cs s rest h
  unfold readString at h
  cases hread : readText (cs.length + 1) cs with
  | error f =>
    rw [hread] at h
    cases h
  | ok r =>
    obtain ⟨xs, rest₀⟩ := r
    rw [hread] at h
    cases h
    obtain ⟨text, rfl, htakes⟩ := exists_readText hread
    refine ⟨text, rfl, fun rest' _ => ?_⟩
    rw [readString, htakes _ rest' (by rw [List.length_append]; omega)]
    rfl

end Vitals.Json
