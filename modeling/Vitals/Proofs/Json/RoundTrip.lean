import Vitals.Proofs.Json.Number

/-!
# Values that are written are read

Reading the text of a value gives the value back, with each real number replaced by what the reader
of numbers makes of its digits. This file fixes

* `reread`, that replacement, for a real number, and `Value.reread`, for a whole value;
* `Value.Readable`, the values this holds of: whole numbers in range, finite real numbers, and not
  more containers inside each other than may be open;
* `Outline.ofMembers`, the outline of an object that can be read to its end.

Main statements: a value is read back from the front of any text that does not go on with a number
(`readValue_print`), and so are the members of the outermost object (`outline_print`).
-/

namespace Vitals.Json

open Vitals.Numeral

/-! ## 1. What is read back -/

/-- What the reader of numbers makes of the digits that are written for a real number. -/
def reread (x : Float) : Float :=
  match readNumber (printReal x) with
  | .ok (n, _) => n.toFloat
  | .error _ => x

def Number.reread : Number → Number
  | .real x => .real (Json.reread x)
  | n => n

mutual

/-- The value with the real numbers that are read back. -/
def Value.reread : Value → Value
  | .number n => .number n.reread
  | .array items => .array (rereadItems items)
  | .object members => .object (rereadMembers members)
  | v => v

def rereadItems : List Value → List Value
  | [] => []
  | v :: vs => v.reread :: rereadItems vs

def rereadMembers : List (String × Value) → List (String × Value)
  | [] => []
  | (key, v) :: ms => (key, v.reread) :: rereadMembers ms

end

theorem rereadItems_eq_map (vs : List Value) : rereadItems vs = vs.map Value.reread := by
  induction vs with
  | nil => rfl
  | cons v vs ih => rw [rereadItems, ih, List.map_cons]

theorem rereadMembers_eq_map (ms : List (String × Value)) :
    rereadMembers ms = ms.map fun m => (m.1, m.2.reread) := by
  induction ms with
  | nil => rfl
  | cons m ms ih => rw [rereadMembers, ih, List.map_cons]

/-! ## 2. What can be read back -/

/-- A number whose text is one: whole numbers in their range, and finite real numbers. -/
def Number.Readable : Number → Prop
  | .natural n => n < UInt64.size
  | .negative n => 0 < n ∧ n ≤ 9223372036854775808
  | .real x => x.isFinite = true

mutual

/-- A value whose numbers have texts, with at most `depth` containers inside each other. -/
def Value.Readable : Nat → Value → Prop
  | _, .number n => n.Readable
  | 0, .array _ => False
  | depth + 1, .array items => ItemsReadable depth items
  | 0, .object _ => False
  | depth + 1, .object members => MembersReadable depth members
  | _, _ => True

def ItemsReadable : Nat → List Value → Prop
  | _, [] => True
  | depth, v :: vs => v.Readable depth ∧ ItemsReadable depth vs

def MembersReadable : Nat → List (String × Value) → Prop
  | _, [] => True
  | depth, (_, v) :: ms => v.Readable depth ∧ MembersReadable depth ms

end

theorem itemsReadable_iff {depth : Nat} {vs : List Value} :
    ItemsReadable depth vs ↔ ∀ v ∈ vs, v.Readable depth := by
  induction vs with
  | nil => simp [ItemsReadable]
  | cons v vs ih => rw [ItemsReadable, ih, List.forall_mem_cons]

theorem membersReadable_iff {depth : Nat} {ms : List (String × Value)} :
    MembersReadable depth ms ↔ ∀ m ∈ ms, m.2.Readable depth := by
  induction ms with
  | nil => simp [MembersReadable]
  | cons m ms ih => rw [MembersReadable, ih, List.forall_mem_cons]

/-! ## 3. Numbers -/

theorem endsNumber_nil : EndsNumber [] := by
  simp [EndsNumber]

/-- A finite real number is read as the one number that its digits stand for. -/
theorem readNumber_real {x : Float} (hx : x.isFinite = true) {rest : List Char}
    (hr : EndsNumber rest) : readNumber (printReal x ++ rest) = .ok (.real (reread x), rest) := by
  obtain ⟨y, hy⟩ := readNumber_printReal hx
  have hsame : reread x = y := by
    have halone := hy [] endsNumber_nil
    rw [List.append_nil] at halone
    rw [reread, halone]
    rfl
  rw [hsame]
  exact hy rest hr

/-- **A number is read back from the front of any text that does not go on with it.** -/
theorem readNumber_print {n : Number} (h : n.Readable) {rest : List Char} (hr : EndsNumber rest) :
    readNumber (n.print ++ rest) = .ok (n.reread, rest) := by
  cases n with
  | natural n => exact readNumber_digits h hr
  | negative n =>
    obtain ⟨hpos, hle⟩ := h
    have hw := whole_digits n
    have hsize : n < UInt64.size := Nat.lt_of_le_of_lt hle (by decide)
    show readUnsigned true (Numeral.digits n ++ rest) = _
    rw [readUnsigned_whole true hw (by rwa [value_digits]) hr.startsWithDigit, hr.afterWhole,
      value_digits]
    simp [wholeNumber, hpos, hle, Number.reread]
  | real x => exact readNumber_real h hr

theorem head_of_readNumber {cs : List Char} {r : Number × List Char} (h : readNumber cs = .ok r) :
    ∃ c more, cs = c :: more ∧ (c = '-' ∨ isDigit c = true) := by
  cases cs with
  | nil => exact absurd h (by simp [readNumber, readUnsigned])
  | cons c more =>
    refine ⟨c, more, rfl, ?_⟩
    by_cases hc : c = '-'
    · exact .inl hc
    · right
      by_contra hd
      have hzero : c ≠ '0' := by
        rintro rfl
        exact hd rfl
      have hplain : readNumber (c :: more) = readUnsigned false (c :: more) := by
        simp [readNumber, hc]
      have herror : readUnsigned false (c :: more) = .error .malformed := by
        simp only [readUnsigned]
        rw [if_pos (by simp [hd])]
      rw [hplain, herror] at h
      exact absurd h (by simp)

/-! ## 4. Strings, separators and containers -/

theorem length_le_escapeAll (cs : List Char) : cs.length ≤ (escapeAll cs).length := by
  induction cs with
  | nil => exact Nat.le_refl _
  | cons c cs ih =>
    have hc : 0 < (escape c).length := by
      unfold escape
      repeat' split
      all_goals exact Nat.succ_pos _
    have hcons : escapeAll (c :: cs) = escape c ++ escapeAll cs := by simp [escapeAll]
    rw [hcons, List.length_cons, List.length_append]
    omega

/-- A string is read back from behind its opening quote. -/
theorem readString_escapeAll (s : String) (rest : List Char) :
    readString (escapeAll s.toList ++ '"' :: rest) = .ok (s, rest) := by
  have hfuel : s.toList.length < (escapeAll s.toList ++ '"' :: rest).length + 1 := by
    have := length_le_escapeAll s.toList
    rw [List.length_append]
    omega
  rw [readString, readText_escapeAll _ _ _ hfuel]
  simp [Except.map]

theorem quote_append (s : String) (rest : List Char) :
    quote s ++ rest = '"' :: (escapeAll s.toList ++ '"' :: rest) := by
  simp [quote]

theorem readColon_colon (rest : List Char) : readColon (':' :: rest) = .ok rest :=
  rfl

theorem readSeparator_closing (first : Bool) (closing : Char) (h : isBlank closing = false)
    (rest : List Char) : readSeparator first closing (closing :: rest) = .ok (.closed rest) := by
  simp [readSeparator, skipBlanks_cons h]

/-- Up to the next item the writer puts a comma, if it is not the first one. -/
theorem readSeparator_item (first : Bool) {closing c : Char} (hcomma : closing ≠ ',')
    (hblank : isBlank c = false) (hc : c ≠ closing) (cs : List Char) :
    readSeparator first closing ((if first then [] else [',']) ++ c :: cs) =
      .ok (.item (c :: cs)) := by
  cases first with
  | true => simp [readSeparator, skipBlanks_cons hblank, hc]
  | false =>
    have hskip : skipBlanks (',' :: c :: cs) = ',' :: c :: cs := skipBlanks_cons rfl _
    simp [readSeparator, hskip, skipBlanks_cons hblank, hc, hcomma.symm]

theorem endsNumber_of_separator {c : Char} (h : c = ',' ∨ c = ']' ∨ c = '}') (cs : List Char) :
    EndsNumber (c :: cs) := by
  intro d hd
  obtain rfl : c = d := by simpa using hd
  rcases h with rfl | rfl | rfl <;> decide

/-- Behind an item stands a comma or the closing bracket. -/
theorem endsNumber_printItems (vs : List Value) (rest : List Char) :
    EndsNumber (printItems false vs ++ ']' :: rest) := by
  cases vs with
  | nil => exact endsNumber_of_separator (.inr (.inl rfl)) rest
  | cons v vs => exact endsNumber_of_separator (.inl rfl) _

theorem endsNumber_printMembers (ms : List (String × Value)) (rest : List Char) :
    EndsNumber (printMembers false ms ++ '}' :: rest) := by
  cases ms with
  | nil => exact endsNumber_of_separator (.inr (.inr rfl)) rest
  | cons m ms => exact endsNumber_of_separator (.inl rfl) _

/-- Up to the next member, its key, and everything behind it. -/
theorem readSeparator_member (first : Bool) (key : String) (v : Value) (ms : List (String × Value))
    (rest : List Char) :
    readSeparator first '}' (printMembers first ((key, v) :: ms) ++ '}' :: rest) =
      .ok (.item ('"' :: (escapeAll key.toList ++
        '"' :: ':' :: (v.print ++ (printMembers false ms ++ '}' :: rest))))) := by
  have htext : printMembers first ((key, v) :: ms) ++ '}' :: rest =
      (if first then [] else [',']) ++ '"' :: (escapeAll key.toList ++
        '"' :: ':' :: (v.print ++ (printMembers false ms ++ '}' :: rest))) := by
    simp [printMembers, quote]
  rw [htext]
  exact readSeparator_item first (by decide) rfl (by decide) _

/-! ## 5. Values -/

/-- A number does not start as any other value, and closes nothing. -/
theorem startsNumber_spec {c : Char} (h : c = '-' ∨ isDigit c = true) :
    isBlank c = false ∧ c ≠ ']' ∧ c ≠ 'n' ∧ c ≠ 't' ∧ c ≠ 'f' ∧ c ≠ '"' ∧ c ≠ '[' ∧ c ≠ '{' := by
  have hother : ∀ d : Char, d ≠ '-' → isDigit d = false → c ≠ d := by
    rintro d hd hdigit rfl
    rcases h with h | h
    · exact hd h
    · exact absurd h (by simp [hdigit])
  refine ⟨?_, ?_, ?_, ?_, ?_, ?_, ?_, ?_⟩
  · simp only [isBlank, Bool.or_eq_false_iff, beq_eq_false_iff_ne]
    refine ⟨⟨⟨?_, ?_⟩, ?_⟩, ?_⟩
    all_goals exact hother _ (by decide) (by decide)
  all_goals exact hother _ (by decide) (by decide)

/-- The character that the text of a value starts with is no blank and closes nothing. -/
theorem head_of_print {v : Value} {depth : Nat} (h : v.Readable depth) :
    ∃ c cs, v.print = c :: cs ∧ isBlank c = false ∧ c ≠ ']' := by
  cases v with
  | null => exact ⟨_, _, rfl, rfl, by decide⟩
  | bool b => cases b <;> exact ⟨_, _, rfl, rfl, by decide⟩
  | text s => exact ⟨_, _, rfl, rfl, by decide⟩
  | array items => exact ⟨_, _, rfl, rfl, by decide⟩
  | object members => exact ⟨_, _, rfl, rfl, by decide⟩
  | number n =>
    have hn : n.Readable := by simpa [Value.Readable] using h
    have hread := readNumber_print hn endsNumber_nil
    rw [List.append_nil] at hread
    obtain ⟨c, more, hcons, hc⟩ := head_of_readNumber hread
    exact ⟨c, more, hcons, (startsNumber_spec hc).1, (startsNumber_spec hc).2.1⟩

/-- A number is read back as a value. -/
theorem readValue_number {n : Number} (h : n.Readable) (fuel depth : Nat) {rest : List Char}
    (hr : EndsNumber rest) :
    readValue (fuel + 1) depth (n.print ++ rest) = .ok (.number n.reread, rest) := by
  have hread := readNumber_print h hr
  obtain ⟨c, more, hcons, hc⟩ := head_of_readNumber hread
  obtain ⟨hblank, -, hn, ht, hf, hquote, harray, hobject⟩ := startsNumber_spec hc
  rw [hcons] at hread ⊢
  simp only [readValue, skipBlanks_cons hblank, hc, hread]
  simp [Except.map]

mutual

/-- **The text of a value is read back from the front of any text that does not go on with a
number.** -/
theorem readValue_print {v : Value} {depth fuel : Nat} {rest : List Char} (h : v.Readable depth)
    (hfuel : v.print.length ≤ fuel) (hr : EndsNumber rest) :
    readValue fuel depth (v.print ++ rest) = .ok (v.reread, rest) := by
  obtain ⟨c, cs, hcons, -, -⟩ := head_of_print h
  obtain ⟨fuel, rfl⟩ : ∃ f, fuel = f + 1 := by
    have hpos : 0 < v.print.length := by simp [hcons]
    exact ⟨fuel - 1, by omega⟩
  match v, depth, h with
  | .null, _, _ => rfl
  | .bool true, _, _ => rfl
  | .bool false, _, _ => rfl
  | .number n, depth, h =>
    exact readValue_number (by simpa [Value.Readable] using h) fuel depth hr
  | .text s, depth, _ =>
    have hread := readString_escapeAll s rest
    have htext : (Value.text s).print ++ rest = '"' :: (escapeAll s.toList ++ '"' :: rest) :=
      quote_append s rest
    rw [htext]
    show (readString _).map _ = _
    rw [hread]
    rfl
  | .array items, depth + 1, h =>
    have htext : (Value.array items).print ++ rest =
        '[' :: (printItems true items ++ ']' :: rest) := by
      simp [Value.print]
    have hitems : (printItems true items).length < fuel := by
      simp only [Value.print, List.length_cons, List.length_append] at hfuel
      omega
    have hread := readItems_print true rest h hitems
    rw [htext]
    show (readItems fuel depth true _).map _ = _
    rw [hread]
    rfl
  | .object members, depth + 1, h =>
    have htext : (Value.object members).print ++ rest =
        '{' :: (printMembers true members ++ '}' :: rest) := by
      simp [Value.print]
    have hmembers : (printMembers true members).length < fuel := by
      simp only [Value.print, List.length_cons, List.length_append] at hfuel
      omega
    have hread := readMembers_print true rest h hmembers
    rw [htext]
    show (readMembers fuel depth true _).map _ = _
    rw [hread]
    rfl

theorem readItems_print {vs : List Value} {depth fuel : Nat} (first : Bool) (rest : List Char)
    (h : ItemsReadable depth vs) (hfuel : (printItems first vs).length < fuel) :
    readItems fuel depth first (printItems first vs ++ ']' :: rest) =
      .ok (rereadItems vs, rest) := by
  obtain ⟨fuel, rfl⟩ : ∃ f, fuel = f + 1 := ⟨fuel - 1, by omega⟩
  match vs, h with
  | [], _ =>
    have hclosed := readSeparator_closing first ']' rfl rest
    simp only [printItems, List.nil_append, readItems, hclosed]
    rfl
  | v :: vs, h =>
    obtain ⟨hv, hvs⟩ := h
    obtain ⟨c, cs, hcons, hblank, hne⟩ := head_of_print hv
    have hsep : readSeparator first ']' (printItems first (v :: vs) ++ ']' :: rest) =
        .ok (.item (v.print ++ (printItems false vs ++ ']' :: rest))) := by
      rw [printItems, List.append_assoc, List.append_assoc, hcons, List.cons_append]
      exact readSeparator_item first (by decide) hblank hne _
    have hpos : 0 < v.print.length := by simp [hcons]
    simp only [printItems, List.length_append] at hfuel
    have hlong : v.print.length ≤ fuel := by omega
    have hmore : (printItems false vs).length < fuel := by omega
    have hitem := readValue_print hv hlong (endsNumber_printItems vs rest)
    have hitems := readItems_print false rest hvs hmore
    simp only [readItems, hsep, hitem, hitems, bind, Except.bind]
    rfl

theorem readMembers_print {ms : List (String × Value)} {depth fuel : Nat} (first : Bool)
    (rest : List Char) (h : MembersReadable depth ms)
    (hfuel : (printMembers first ms).length < fuel) :
    readMembers fuel depth first (printMembers first ms ++ '}' :: rest) =
      .ok (rereadMembers ms, rest) := by
  obtain ⟨fuel, rfl⟩ : ∃ f, fuel = f + 1 := ⟨fuel - 1, by omega⟩
  match ms, h with
  | [], _ =>
    have hclosed := readSeparator_closing first '}' rfl rest
    simp only [printMembers, List.nil_append, readMembers, hclosed]
    rfl
  | (key, v) :: ms, h =>
    obtain ⟨hv, hms⟩ := h
    have hsep := readSeparator_member first key v ms rest
    have hkey := readString_escapeAll key
      (':' :: (v.print ++ (printMembers false ms ++ '}' :: rest)))
    simp only [printMembers, List.length_append, List.length_cons] at hfuel
    have hlong : v.print.length ≤ fuel := by omega
    have hmore : (printMembers false ms).length < fuel := by omega
    have hvalue := readValue_print hv hlong (endsNumber_printMembers ms rest)
    have hmembers := readMembers_print false rest hms hmore
    simp only [readMembers, hsep, hkey, readColon_colon, hvalue, hmembers, bind, Except.bind]
    rfl

end

/-! ## 6. The outermost object -/

/-- The outline of an object that can be read to its end. -/
def Outline.ofMembers (rest : List Char) : List (String × Value) → Outline
  | [] => .closed rest
  | (key, v) :: ms => .member key v (ofMembers rest ms)

theorem outlineMembers_print {ms : List (String × Value)} {depth fuel : Nat} (first : Bool)
    (rest : List Char) (h : MembersReadable depth ms)
    (hfuel : (printMembers first ms).length < fuel) :
    outlineMembers fuel depth first (printMembers first ms ++ '}' :: rest) =
      Outline.ofMembers rest (rereadMembers ms) := by
  induction ms generalizing first fuel with
  | nil =>
    obtain ⟨fuel, rfl⟩ : ∃ f, fuel = f + 1 := ⟨fuel - 1, by omega⟩
    have hclosed := readSeparator_closing first '}' rfl rest
    simp only [printMembers, List.nil_append, outlineMembers, hclosed]
    rfl
  | cons m ms ih =>
    obtain ⟨key, v⟩ := m
    obtain ⟨fuel, rfl⟩ : ∃ f, fuel = f + 1 := ⟨fuel - 1, by omega⟩
    obtain ⟨hv, hms⟩ := h
    have hsep := readSeparator_member first key v ms rest
    have hkey := readString_escapeAll key
      (':' :: (v.print ++ (printMembers false ms ++ '}' :: rest)))
    simp only [printMembers, List.length_append, List.length_cons] at hfuel
    have hlong : v.print.length ≤ fuel := by omega
    have hmore : (printMembers false ms).length < fuel := by omega
    have hvalue := readValue_print hv hlong (endsNumber_printMembers ms rest)
    have hmembers := ih false hms hmore
    simp only [outlineMembers, hsep, hkey, readColon_colon, hvalue, hmembers]
    rfl

/-- **The members of the outermost object are read back, up to what follows the object.** -/
theorem outline_print {ms : List (String × Value)} (h : MembersReadable (depthLimit - 1) ms)
    (rest : List Char) :
    outline (printMembers true ms ++ '}' :: rest) = Outline.ofMembers rest (rereadMembers ms) := by
  refine outlineMembers_print true rest h ?_
  rw [List.length_append]
  omega

end Vitals.Json
