import Vitals.Json.Value

/-!
# JSON texts in quotes

How a string stands in a record, and how one is read back. This file fixes

* `escape`, the written form of a character: only the quote, the backslash and the control
  characters below space are escaped, by a letter where JSON has one and by four hexadecimal
  digits otherwise;
* `readText`, the reader behind the opening quote, which takes every escape of JSON, pairs of
  surrogates included, and refuses control characters and surrogates that stand alone.

Main statements: a written string has no control character (`mem_escapeAll_not_control`), and
reading it gives it back whatever follows (`readText_escapeAll`).
-/

namespace Vitals.Json

/-! ## 1. Writing -/

/-- A hexadecimal digit, in lower case. -/
def hexDigit (d : Nat) : Char :=
  if d < 10 then Char.ofNat (48 + d) else Char.ofNat (87 + d)

/-- The written form of a character. -/
def escape (c : Char) : List Char :=
  if c = '"' then ['\\', '"']
  else if c = '\\' then ['\\', '\\']
  else if c = '\x08' then ['\\', 'b']
  else if c = '\x0c' then ['\\', 'f']
  else if c = '\n' then ['\\', 'n']
  else if c = '\r' then ['\\', 'r']
  else if c = '\t' then ['\\', 't']
  else if c.toNat < 32 then
    ['\\', 'u', '0', '0', hexDigit (c.toNat / 16), hexDigit (c.toNat % 16)]
  else [c]

def escapeAll (cs : List Char) : List Char :=
  cs.flatMap escape

/-- The written form of a string, with its quotes. -/
def quote (s : String) : List Char :=
  '"' :: (escapeAll s.toList ++ ['"'])

/-! ## 2. Reading -/

/-- What a hexadecimal digit of either case counts. -/
def hexValue? (c : Char) : Option Nat :=
  let n := c.toNat
  if 48 ≤ n ∧ n ≤ 57 then some (n - 48)
  else if 97 ≤ n ∧ n ≤ 102 then some (n - 87)
  else if 65 ≤ n ∧ n ≤ 70 then some (n - 55)
  else none

/-- The number of bytes that the first characters take, counted up to four. -/
def bytesAhead : List Char → Nat
  | [] => 0
  | c :: cs => if 4 ≤ c.utf8Size then 4 else min 4 (c.utf8Size + bytesAhead cs)

/-- Four hexadecimal digits. A text that has fewer than four bytes left ends too early, whatever
these bytes are. -/
def readHex (cs : List Char) : Except Flaw (Nat × List Char) :=
  match cs with
  | a :: b :: c :: d :: rest =>
    match hexValue? a, hexValue? b, hexValue? c, hexValue? d with
    | some a, some b, some c, some d => .ok (((a * 16 + b) * 16 + c) * 16 + d, rest)
    | _, _, _, _ => .error .malformed
  | _ => if bytesAhead cs < 4 then .error .ended else .error .malformed

theorem readHex_length {cs rest : List Char} {n : Nat} (h : readHex cs = .ok (n, rest)) :
    rest.length + 4 = cs.length := by
  unfold readHex at h
  split at h
  · split at h
    · simp only [Except.ok.injEq, Prod.mk.injEq] at h
      simp [h.2]
    · simp at h
  · split at h <;> simp at h

/-- The escape behind `\u`: one code, or two that form a pair of surrogates. -/
def readCode (cs : List Char) : Except Flaw (Char × List Char) := do
  let (n, rest) ← readHex cs
  if n < 0xD800 ∨ 0xDFFF < n then return (Char.ofNat n, rest)
  if 0xDC00 ≤ n then throw .malformed
  match rest with
  | [] => throw .ended
  | ['\\'] => throw .ended
  | '\\' :: 'u' :: rest =>
    let (m, rest) ← readHex rest
    if m < 0xDC00 ∨ 0xDFFF < m then throw .malformed
    return (Char.ofNat ((n - 0xD800) * 1024 + (m - 0xDC00) + 0x10000), rest)
  | _ => throw .malformed

/-- The character that a letter behind a backslash stands for. -/
def unescape? (c : Char) : Option Char :=
  if c = '"' ∨ c = '\\' ∨ c = '/' then some c
  else if c = 'b' then some '\x08'
  else if c = 'f' then some '\x0c'
  else if c = 'n' then some '\n'
  else if c = 'r' then some '\r'
  else if c = 't' then some '\t'
  else none

/-- The string behind an opening quote, and what follows its closing quote. `fuel` bounds the
number of characters. -/
def readText : Nat → List Char → Except Flaw (List Char × List Char)
  | 0, _ => .error .ended
  | _ + 1, [] => .error .ended
  | fuel + 1, c :: cs =>
    if c = '"' then .ok ([], cs)
    else if c = '\\' then
      match cs with
      | [] => .error .ended
      | e :: cs =>
        if e = 'u' then do
          let (x, rest) ← readCode cs
          let (xs, rest) ← readText fuel rest
          return (x :: xs, rest)
        else
          match unescape? e with
          | none => .error .malformed
          | some x => do
            let (xs, rest) ← readText fuel cs
            return (x :: xs, rest)
    else if c.toNat < 32 then .error .malformed
    else do
      let (xs, rest) ← readText fuel cs
      return (c :: xs, rest)

/-! ## 3. Writing and reading back -/

theorem hexDigit_spec :
    ∀ d, d < 16 → 32 ≤ (hexDigit d).toNat ∧ hexValue? (hexDigit d) = some d := by
  decide

/-- No written character is a control character. -/
theorem mem_escape_not_control (c : Char) : ∀ x ∈ escape c, 32 ≤ x.toNat := by
  intro x hx
  unfold escape at hx
  repeat' split at hx
  all_goals try (simp only [List.mem_cons, List.not_mem_nil, or_false] at hx)
  case isFalse.isFalse.isFalse.isFalse.isFalse.isFalse.isFalse.isTrue h =>
    rcases hx with h | h | h | h | h | h <;> subst h
    · decide
    · decide
    · decide
    · decide
    · exact (hexDigit_spec _ (by omega)).1
    · exact (hexDigit_spec _ (Nat.mod_lt _ (by decide))).1
  case isFalse.isFalse.isFalse.isFalse.isFalse.isFalse.isFalse.isFalse h =>
    subst hx
    omega
  all_goals (rcases hx with h | h <;> subst h <;> decide)

theorem mem_escapeAll_not_control (cs : List Char) : ∀ x ∈ escapeAll cs, 32 ≤ x.toNat := by
  intro x hx
  obtain ⟨c, _, hc⟩ := List.mem_flatMap.1 hx
  exact mem_escape_not_control c x hc

theorem readHex_control {n : Nat} (h : n < 32) (rest : List Char) :
    readHex ('0' :: '0' :: hexDigit (n / 16) :: hexDigit (n % 16) :: rest) = .ok (n, rest) := by
  have hz : hexValue? '0' = some 0 := by decide
  have hh := (hexDigit_spec (n / 16) (by omega)).2
  have hl := (hexDigit_spec (n % 16) (Nat.mod_lt _ (by decide))).2
  simp only [readHex, hz, hh, hl]
  congr 2
  omega

theorem readCode_control {n : Nat} (h : n < 32) (rest : List Char) :
    readCode ('0' :: '0' :: hexDigit (n / 16) :: hexDigit (n % 16) :: rest) =
      .ok (Char.ofNat n, rest) := by
  have hn : n < 0xD800 := by omega
  simp [readCode, readHex_control h, bind, Except.bind, hn, pure, Except.pure]

/-- One written character reads back as itself. -/
theorem readText_escape (c : Char) (fuel : Nat) (rest : List Char) :
    readText (fuel + 1) (escape c ++ rest) =
      (readText fuel rest).map fun r => (c :: r.1, r.2) := by
  have hmap : ∀ (x : Char) (e : Except Flaw (List Char × List Char)),
      (do let (xs, rest) ← e; return (x :: xs, rest)) = e.map fun r => (x :: r.1, r.2) := by
    intro x e
    cases e <;> rfl
  unfold escape
  repeat' split
  case isFalse.isFalse.isFalse.isFalse.isFalse.isFalse.isFalse.isTrue h =>
    simp only [List.cons_append, List.nil_append, readText]
    rw [readCode_control h]
    simp only [↓Char.isValue, Char.reduceEq, ↓reduceIte, bind, Except.bind, Char.ofNat_toNat]
    exact hmap c _
  case isFalse.isFalse.isFalse.isFalse.isFalse.isFalse.isFalse.isFalse hq hb _ _ _ _ _ h =>
    simp only [List.cons_append, List.nil_append, readText, hq, hb, h, ↓reduceIte]
    exact hmap c _
  all_goals
    rename_i h
    subst h
    simp only [List.cons_append, List.nil_append, readText]
    simp [unescape?]
    exact hmap _ _

/-- **Reading a written string gives it back, whatever follows its closing quote.** -/
theorem readText_escapeAll (cs rest : List Char) (fuel : Nat) (h : cs.length < fuel) :
    readText fuel (escapeAll cs ++ '"' :: rest) = .ok (cs, rest) := by
  induction cs generalizing fuel with
  | nil =>
    obtain ⟨f, rfl⟩ : ∃ f, fuel = f + 1 := ⟨fuel - 1, by omega⟩
    simp [escapeAll, readText]
  | cons c cs ih =>
    obtain ⟨f, rfl⟩ : ∃ f, fuel = f + 1 := ⟨fuel - 1, by omega⟩
    have hc : escapeAll (c :: cs) = escape c ++ escapeAll cs := by simp [escapeAll]
    rw [hc, List.append_assoc, readText_escape, ih f (by simpa using h)]
    rfl

end Vitals.Json
