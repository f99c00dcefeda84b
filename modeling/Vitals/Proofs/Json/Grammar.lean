import Vitals.Proofs.Json.Leaves
import Vitals.Proofs.Json.RoundTrip

/-!
# The grammar of JSON texts

Which texts are values, said without a reader: items are separated by commas, members have a colon
behind their keys, and blanks may stand between all of them. Only the leaves are what the readers of
numbers and strings make of them, with nothing left over. This file fixes

* `Spells`, that a text is a value, with a bound on the containers inside each other;
* `ObjectText`, that a text is an object with given members, blanks around it included.

Main statements: what the reader of values reads is spelled (`spells_of_readValue`), and what is
spelled is read (`Spells.readValue`); an object text is outlined to its end, and no other text is
(`objectText_iff`); an object has a text whenever the values of its members have one
(`exists_objectText_iff`).
-/

namespace Vitals.Json

open Vitals.Numeral

/-! ## 1. The grammar -/

/-- Only blanks. -/
def Blank (cs : List Char) : Prop :=
  ∀ c ∈ cs, isBlank c = true

/-- What stands in front of an item: a comma if it is not the first one. -/
def Lead : Bool → List Char → Prop
  | true, cs => Blank cs
  | false, cs => ∃ before after, Blank before ∧ Blank after ∧ cs = before ++ ',' :: after

mutual

/-- The text is this value, with at most `depth` containers inside each other. -/
inductive Spells : Nat → List Char → Value → Prop where
  | null {depth : Nat} : Spells depth ['n', 'u', 'l', 'l'] .null
  | bool_true {depth : Nat} : Spells depth ['t', 'r', 'u', 'e'] (.bool true)
  | bool_false {depth : Nat} : Spells depth ['f', 'a', 'l', 's', 'e'] (.bool false)
  | number {depth : Nat} {text : List Char} {n : Number} (h : readNumber text = .ok (n, [])) :
      Spells depth text (.number n)
  | text {depth : Nat} {body : List Char} {s : String} (h : readString body = .ok (s, [])) :
      Spells depth ('"' :: body) (.text s)
  | array {depth : Nat} {inner : List Char} {vs : List Value} (h : SpellsItems depth true inner vs) :
      Spells (depth + 1) ('[' :: (inner ++ [']'])) (.array vs)
  | object {depth : Nat} {inner : List Char} {ms : List (String × Value)}
      (h : SpellsMembers depth true inner ms) :
      Spells (depth + 1) ('{' :: (inner ++ ['}'])) (.object ms)

/-- The text is these items, up to the closing bracket. -/
inductive SpellsItems : Nat → Bool → List Char → List Value → Prop where
  | nil {depth : Nat} {first : Bool} {blanks : List Char} (h : Blank blanks) :
      SpellsItems depth first blanks []
  | cons {depth : Nat} {first : Bool} {lead text more : List Char} {v : Value} {vs : List Value}
      (hlead : Lead first lead) (hv : Spells depth text v)
      (hvs : SpellsItems depth false more vs) :
      SpellsItems depth first (lead ++ (text ++ more)) (v :: vs)

/-- The text is these members, up to the closing brace. -/
inductive SpellsMembers : Nat → Bool → List Char → List (String × Value) → Prop where
  | nil {depth : Nat} {first : Bool} {blanks : List Char} (h : Blank blanks) :
      SpellsMembers depth first blanks []
  | cons {depth : Nat} {first : Bool} {lead body before after text more : List Char}
      {key : String} {v : Value} {ms : List (String × Value)} (hlead : Lead first lead)
      (hkey : readString body = .ok (key, [])) (hbefore : Blank before) (hafter : Blank after)
      (hv : Spells depth text v) (hms : SpellsMembers depth false more ms) :
      SpellsMembers depth first
        (lead ++ '"' :: (body ++ (before ++ ':' :: (after ++ (text ++ more))))) ((key, v) :: ms)

end

/-- The text of an object that may stand alone, with its members. -/
def ObjectText (cs : List Char) (ms : List (String × Value)) : Prop :=
  ∃ front inner back, Blank front ∧ Blank back ∧ SpellsMembers (depthLimit - 1) true inner ms ∧
    cs = front ++ '{' :: (inner ++ '}' :: back)

/-! ## 2. Blanks -/

theorem blank_nil : Blank [] :=
  fun _ h => absurd h List.not_mem_nil

theorem Blank.append {xs ys : List Char} (hx : Blank xs) (hy : Blank ys) : Blank (xs ++ ys) :=
  List.forall_mem_append.mpr ⟨hx, hy⟩

theorem skipBlanks_append {bs : List Char} (h : Blank bs) (cs : List Char) :
    skipBlanks (bs ++ cs) = skipBlanks cs := by
  induction bs with
  | nil => rfl
  | cons b bs ih =>
    obtain ⟨hb, hbs⟩ := List.forall_mem_cons.mp h
    rw [List.cons_append, skipBlanks, if_pos hb, ih hbs]

/-- What is skipped are blanks. -/
theorem exists_skipBlanks (cs : List Char) :
    ∃ bs, Blank bs ∧ cs = bs ++ skipBlanks cs := by
  induction cs with
  | nil => exact ⟨[], blank_nil, rfl⟩
  | cons c cs ih =>
    rw [skipBlanks]
    split
    · rename_i hc
      obtain ⟨bs, hbs, hcs⟩ := ih
      exact ⟨c :: bs, List.forall_mem_cons.mpr ⟨hc, hbs⟩, congrArg (c :: ·) hcs⟩
    · exact ⟨[], blank_nil, rfl⟩

theorem skipBlanks_eq_nil_iff {cs : List Char} : skipBlanks cs = [] ↔ Blank cs := by
  constructor
  · intro h
    obtain ⟨bs, hbs, hcs⟩ := exists_skipBlanks cs
    rw [hcs, h, List.append_nil]
    exact hbs
  · intro h
    have hskip := skipBlanks_append h []
    rwa [List.append_nil] at hskip

theorem Lead.append {first : Bool} {lead bs : List Char} (h : Lead first lead) (hbs : Blank bs) :
    Lead first (lead ++ bs) := by
  cases first with
  | true => exact Blank.append h hbs
  | false =>
    obtain ⟨before, after, hbefore, hafter, rfl⟩ := h
    exact ⟨before, after ++ bs, hbefore, hafter.append hbs, by simp⟩

/-! ## 3. Separators, colons and words -/

theorem readSeparator_blank (first : Bool) {closing : Char} (h : isBlank closing = false)
    {bs : List Char} (hbs : Blank bs) (rest : List Char) :
    readSeparator first closing (bs ++ closing :: rest) = .ok (.closed rest) := by
  simp [readSeparator, skipBlanks_append hbs, skipBlanks_cons h]

theorem Lead.readSeparator {first : Bool} {lead : List Char} (h : Lead first lead)
    {closing c : Char} (hcomma : closing ≠ ',') (hblank : isBlank c = false) (hc : c ≠ closing)
    (cs : List Char) :
    readSeparator first closing (lead ++ c :: cs) = .ok (.item (c :: cs)) := by
  cases first with
  | true =>
    have hskip : skipBlanks (lead ++ c :: cs) = c :: cs := by
      rw [skipBlanks_append h, skipBlanks_cons hblank]
    simp [Json.readSeparator, hskip, hc]
  | false =>
    obtain ⟨before, after, hbefore, hafter, rfl⟩ := h
    have hskip : skipBlanks (before ++ ',' :: (after ++ c :: cs)) = ',' :: (after ++ c :: cs) := by
      rw [skipBlanks_append hbefore]
      exact skipBlanks_cons rfl _
    have hskip' : skipBlanks (after ++ c :: cs) = c :: cs := by
      rw [skipBlanks_append hafter, skipBlanks_cons hblank]
    rw [List.append_assoc, List.cons_append]
    simp [Json.readSeparator, hskip, hskip', hc, hcomma.symm]

/-- What a separator was read from. -/
theorem lead_of_readSeparator {first : Bool} {closing : Char} {cs : List Char} {next : Next}
    (h : readSeparator first closing cs = .ok next) :
    (∃ bs rest, next = .closed rest ∧ Blank bs ∧ cs = bs ++ closing :: rest) ∨
      ∃ lead text, next = .item text ∧ Lead first lead ∧ cs = lead ++ text := by
  obtain ⟨bs, hbs, hcs⟩ := exists_skipBlanks cs
  unfold readSeparator at h
  split at h
  · cases h
  · rename_i c cs' hskip
    rw [hskip] at hcs
    split at h
    · rename_i hclosing
      cases h
      exact .inl ⟨bs, cs', rfl, hbs, hclosing ▸ hcs⟩
    · split at h
      · rename_i hfirst
        cases h
        exact .inr ⟨bs, c :: cs', rfl, hfirst ▸ hbs, hcs⟩
      · rename_i hfirst
        split at h
        · rename_i hcomma
          obtain ⟨after, hafter, hcs'⟩ := exists_skipBlanks cs'
          split at h
          · cases h
          · rename_i d ds hskip'
            rw [hskip'] at hcs'
            split at h
            · cases h
            · cases h
              refine .inr ⟨bs ++ ',' :: after, d :: ds, rfl, ?_, ?_⟩
              · rw [Bool.eq_false_iff.mpr hfirst]
                exact ⟨bs, after, hbs, hafter, rfl⟩
              · rw [hcs, hcomma, hcs']
                simp
        · cases h

theorem readColon_blank {bs : List Char} (hbs : Blank bs) (rest : List Char) :
    readColon (bs ++ ':' :: rest) = .ok rest := by
  have hskip : skipBlanks (bs ++ ':' :: rest) = ':' :: rest := by
    rw [skipBlanks_append hbs]
    exact skipBlanks_cons rfl rest
  simp only [readColon, hskip]

theorem blank_of_readColon {cs rest : List Char} (h : readColon cs = .ok rest) :
    ∃ bs, Blank bs ∧ cs = bs ++ ':' :: rest := by
  obtain ⟨bs, hbs, hcs⟩ := exists_skipBlanks cs
  unfold readColon at h
  split at h
  · cases h
  · rename_i rest' hskip
    cases h
    exact ⟨bs, hbs, hskip ▸ hcs⟩
  · cases h

theorem eq_append_of_readWord {ws cs rest : List Char} (h : readWord ws cs = .ok rest) :
    cs = ws ++ rest := by
  induction ws generalizing cs with
  | nil =>
    cases h
    rfl
  | cons w ws ih =>
    cases cs with
    | nil => cases h
    | cons c cs =>
      rw [readWord] at h
      split at h
      · rename_i hw
        rw [hw, ih h, List.cons_append]
      · cases h

theorem exists_of_map_ok {α β : Type} {e : Except Flaw α} {f : α → β} {b : β}
    (h : e.map f = .ok b) : ∃ a, e = .ok a ∧ f a = b := by
  cases e with
  | error x => cases h
  | ok a => exact ⟨a, rfl, Except.ok.inj h⟩

/-! ## 4. What is read is spelled -/

mutual

/-- **What is read as a value is the text of that value, blanks in front of it apart.** -/
theorem spells_of_readValue {fuel depth : Nat} {cs rest : List Char} {v : Value}
    (h : readValue fuel depth cs = .ok (v, rest)) :
    ∃ blanks text, Blank blanks ∧ Spells depth text v ∧ cs = blanks ++ (text ++ rest) := by
  match fuel with
  | 0 => cases h
  | fuel + 1 =>
    obtain ⟨bs, hbs, hcs⟩ := exists_skipBlanks cs
    rw [readValue.eq_def] at h
    dsimp only at h
    split at h
    · cases h
    · rename_i more hskip
      obtain ⟨rest', hword, hv⟩ := exists_of_map_ok h
      cases hv
      exact ⟨bs, _, hbs, .null, by rw [hcs, hskip, eq_append_of_readWord hword]; rfl⟩
    · rename_i more hskip
      obtain ⟨rest', hword, hv⟩ := exists_of_map_ok h
      cases hv
      exact ⟨bs, _, hbs, .bool_true, by rw [hcs, hskip, eq_append_of_readWord hword]; rfl⟩
    · rename_i more hskip
      obtain ⟨rest', hword, hv⟩ := exists_of_map_ok h
      cases hv
      exact ⟨bs, _, hbs, .bool_false, by rw [hcs, hskip, eq_append_of_readWord hword]; rfl⟩
    · rename_i more hskip
      obtain ⟨⟨s, rest'⟩, hread, hv⟩ := exists_of_map_ok h
      cases hv
      obtain ⟨body, rfl, hbody⟩ := isLocal_readString.exists_text trivial hread
      exact ⟨bs, _, hbs, .text hbody, by rw [hcs, hskip]; rfl⟩
    · rename_i more hskip
      split at h
      · cases h
      · rename_i depth
        obtain ⟨⟨vs, rest'⟩, hread, hv⟩ := exists_of_map_ok h
        cases hv
        obtain ⟨inner, hinner, rfl⟩ := spells_of_readItems hread
        exact ⟨bs, _, hbs, .array hinner, by rw [hcs, hskip]; simp⟩
    · rename_i more hskip
      split at h
      · cases h
      · rename_i depth
        obtain ⟨⟨ms, rest'⟩, hread, hv⟩ := exists_of_map_ok h
        cases hv
        obtain ⟨inner, hinner, rfl⟩ := spells_of_readMembers hread
        exact ⟨bs, _, hbs, .object hinner, by rw [hcs, hskip]; simp⟩
    · rename_i c more _ _ _ _ _ _ hskip
      split at h
      · obtain ⟨⟨n, rest'⟩, hread, hv⟩ := exists_of_map_ok h
        cases hv
        obtain ⟨text, htext, hnumber⟩ := isLocal_readNumber.exists_text endsNumber_nil hread
        exact ⟨bs, text, hbs, .number hnumber, by rw [hcs, hskip, htext]⟩
      · cases h

theorem spells_of_readItems {fuel depth : Nat} {first : Bool} {cs rest : List Char}
    {vs : List Value} (h : readItems fuel depth first cs = .ok (vs, rest)) :
    ∃ inner, SpellsItems depth first inner vs ∧ cs = inner ++ ']' :: rest := by
  match fuel with
  | 0 => cases h
  | fuel + 1 =>
    rw [readItems] at h
    obtain ⟨next, hnext, hitems⟩ := exists_of_bind_ok h
    obtain ⟨bs, rest', rfl, hbs, hcs⟩ | ⟨lead, cs', rfl, hlead, hcs⟩ := lead_of_readSeparator hnext
    · cases hitems
      exact ⟨bs, .nil hbs, hcs⟩
    · obtain ⟨⟨v, rest₁⟩, hv, hitems⟩ := exists_of_bind_ok hitems
      obtain ⟨⟨vs', rest₂⟩, hvs, hitems⟩ := exists_of_bind_ok hitems
      cases hitems
      obtain ⟨bs, text, hbs, htext, rfl⟩ := spells_of_readValue hv
      obtain ⟨more, hmore, rfl⟩ := spells_of_readItems hvs
      exact ⟨_, .cons (hlead.append hbs) htext hmore, by simp [hcs]⟩

theorem spells_of_readMembers {fuel depth : Nat} {first : Bool} {cs rest : List Char}
    {ms : List (String × Value)} (h : readMembers fuel depth first cs = .ok (ms, rest)) :
    ∃ inner, SpellsMembers depth first inner ms ∧ cs = inner ++ '}' :: rest := by
  match fuel with
  | 0 => cases h
  | fuel + 1 =>
    rw [readMembers] at h
    obtain ⟨next, hnext, hmembers⟩ := exists_of_bind_ok h
    obtain ⟨bs, rest', rfl, hbs, hcs⟩ | ⟨lead, cs', rfl, hlead, hcs⟩ := lead_of_readSeparator hnext
    · cases hmembers
      exact ⟨bs, .nil hbs, hcs⟩
    · dsimp only at hmembers
      split at hmembers
      · contradiction
      · rename_i body' heq
        cases heq
        obtain ⟨⟨key, rest₀⟩, hkey, hmembers⟩ := exists_of_bind_ok hmembers
        obtain ⟨rest₁, hcolon, hmembers⟩ := exists_of_bind_ok hmembers
        obtain ⟨⟨v, rest₂⟩, hv, hmembers⟩ := exists_of_bind_ok hmembers
        obtain ⟨⟨ms', rest₃⟩, hms, hmembers⟩ := exists_of_bind_ok hmembers
        cases hmembers
        obtain ⟨body, rfl, hbody⟩ := isLocal_readString.exists_text trivial hkey
        obtain ⟨before, hbefore, rfl⟩ := blank_of_readColon hcolon
        obtain ⟨after, text, hafter, htext, rfl⟩ := spells_of_readValue hv
        obtain ⟨more, hmore, rfl⟩ := spells_of_readMembers hms
        exact ⟨_, .cons hlead hbody hbefore hafter htext hmore, by simp [hcs]⟩
      · cases hmembers

end

/-! ## 5. What is spelled is read -/

/-- The text of a value starts with no blank, and closes nothing. -/
theorem Spells.head {depth : Nat} {text : List Char} {v : Value} (h : Spells depth text v) :
    ∃ c cs, text = c :: cs ∧ isBlank c = false ∧ c ≠ ']' := by
  cases h with
  | null => exact ⟨_, _, rfl, rfl, by decide⟩
  | bool_true => exact ⟨_, _, rfl, rfl, by decide⟩
  | bool_false => exact ⟨_, _, rfl, rfl, by decide⟩
  | text h => exact ⟨_, _, rfl, rfl, by decide⟩
  | array h => exact ⟨_, _, rfl, rfl, by decide⟩
  | object h => exact ⟨_, _, rfl, rfl, by decide⟩
  | number h =>
    obtain ⟨c, more, hcons, hc⟩ := head_of_readNumber h
    exact ⟨c, more, hcons, (startsNumber_spec hc).1, (startsNumber_spec hc).2.1⟩

theorem Spells.length_pos {depth : Nat} {text : List Char} {v : Value} (h : Spells depth text v) :
    0 < text.length := by
  obtain ⟨c, cs, rfl, -, -⟩ := h.head
  exact Nat.succ_pos _

theorem Blank.endsNumber {bs : List Char} (h : Blank bs) {c : Char}
    (hc : c = ',' ∨ c = ']' ∨ c = '}') (rest : List Char) : EndsNumber (bs ++ c :: rest) := by
  cases bs with
  | nil => exact endsNumber_of_separator hc rest
  | cons b bs =>
    intro d hd
    obtain rfl : b = d := Option.some.inj hd
    have hb := (List.forall_mem_cons.mp h).1
    simp only [isBlank, Bool.or_eq_true, beq_iff_eq] at hb
    rcases hb with ((rfl | rfl) | rfl) | rfl <;> decide

theorem Lead.endsNumber {lead : List Char} (h : Lead false lead) (rest : List Char) :
    EndsNumber (lead ++ rest) := by
  obtain ⟨before, after, hbefore, -, rfl⟩ := h
  rw [List.append_assoc]
  exact hbefore.endsNumber (.inl rfl) _

theorem SpellsItems.endsNumber {depth : Nat} {inner : List Char} {vs : List Value}
    (h : SpellsItems depth false inner vs) (rest : List Char) :
    EndsNumber (inner ++ ']' :: rest) := by
  cases h with
  | nil h => exact h.endsNumber (.inr (.inl rfl)) rest
  | cons hlead _ _ =>
    rw [List.append_assoc]
    exact hlead.endsNumber _

theorem SpellsMembers.endsNumber {depth : Nat} {inner : List Char} {ms : List (String × Value)}
    (h : SpellsMembers depth false inner ms) (rest : List Char) :
    EndsNumber (inner ++ '}' :: rest) := by
  cases h with
  | nil h => exact h.endsNumber (.inr (.inr rfl)) rest
  | cons hlead _ _ _ _ _ =>
    rw [List.append_assoc]
    exact hlead.endsNumber _

mutual

/-- **The text of a value is read as that value, in front of any text that does not go on with a
number.** -/
theorem Spells.readValue {depth : Nat} {text blanks rest : List Char} {v : Value}
    (h : Spells depth text v) (hblanks : Blank blanks) (fuel : Nat) (hfuel : text.length ≤ fuel)
    (hr : EndsNumber rest) :
    readValue fuel depth (blanks ++ (text ++ rest)) = .ok (v, rest) := by
  have hpos := h.length_pos
  obtain ⟨fuel, rfl⟩ : ∃ f, fuel = f + 1 := ⟨fuel - 1, by omega⟩
  rw [Json.readValue.eq_def, skipBlanks_append hblanks]
  match h with
  | .null => rfl
  | .bool_true => rfl
  | .bool_false => rfl
  | .text h =>
    rename_i body s
    have hread := isLocal_readString.takes h rest trivial
    show (readString (body ++ rest)).map _ = _
    rw [hread]
    rfl
  | .number h =>
    have hread := isLocal_readNumber.takes h rest hr
    obtain ⟨c, more, hcons, hc⟩ := head_of_readNumber hread
    obtain ⟨hblank, -, hn, ht, hf, hquote, harray, hobject⟩ := startsNumber_spec hc
    rw [hcons] at hread ⊢
    simp only [skipBlanks_cons hblank, hc, hread]
    simp [Except.map]
  | .array h =>
    rename_i inner vs
    rw [List.length_cons, List.length_append, List.length_singleton] at hfuel
    have hread := h.readItems rest fuel (by omega)
    show (Json.readItems fuel _ true (inner ++ [']'] ++ rest)).map _ = _
    rw [List.append_assoc, List.singleton_append, hread]
    rfl
  | .object h =>
    rename_i inner ms
    rw [List.length_cons, List.length_append, List.length_singleton] at hfuel
    have hread := h.readMembers rest fuel (by omega)
    show (Json.readMembers fuel _ true (inner ++ ['}'] ++ rest)).map _ = _
    rw [List.append_assoc, List.singleton_append, hread]
    rfl

theorem SpellsItems.readItems {depth : Nat} {first : Bool} {inner : List Char}
    {vs : List Value} (h : SpellsItems depth first inner vs) (rest : List Char) (fuel : Nat)
    (hfuel : inner.length < fuel) :
    readItems fuel depth first (inner ++ ']' :: rest) = .ok (vs, rest) := by
  obtain ⟨fuel, rfl⟩ : ∃ f, fuel = f + 1 := ⟨fuel - 1, by omega⟩
  match h with
  | .nil h =>
    rw [Json.readItems, readSeparator_blank first rfl h]
    rfl
  | .cons hlead hv hvs =>
    rename_i lead text more v vs
    have hpos := hv.length_pos
    simp only [List.length_append] at hfuel
    have hitem := hv.readValue blank_nil fuel (by omega) (hvs.endsNumber rest)
    have hitems := hvs.readItems rest fuel (by omega)
    have hsep : readSeparator first ']' (lead ++ (text ++ more) ++ ']' :: rest) =
        .ok (.item (text ++ (more ++ ']' :: rest))) := by
      obtain ⟨c, cs, rfl, hblank, hne⟩ := hv.head
      rw [List.append_assoc, List.append_assoc]
      exact hlead.readSeparator (by decide) hblank hne _
    rw [List.nil_append] at hitem
    simp only [Json.readItems, hsep, hitem, hitems, bind, Except.bind]
    rfl

theorem SpellsMembers.readMembers {depth : Nat} {first : Bool} {inner : List Char}
    {ms : List (String × Value)} (h : SpellsMembers depth first inner ms) (rest : List Char)
    (fuel : Nat) (hfuel : inner.length < fuel) :
    readMembers fuel depth first (inner ++ '}' :: rest) = .ok (ms, rest) := by
  obtain ⟨fuel, rfl⟩ : ∃ f, fuel = f + 1 := ⟨fuel - 1, by omega⟩
  match h with
  | .nil h =>
    rw [Json.readMembers, readSeparator_blank first rfl h]
    rfl
  | .cons hlead hkey hbefore hafter hv hms =>
    rename_i lead body before after text more key v ms
    have hpos := hv.length_pos
    simp only [List.length_append, List.length_cons] at hfuel
    have hvalue := hv.readValue hafter fuel (by omega) (hms.endsNumber rest)
    have hmembers := hms.readMembers rest fuel (by omega)
    have hstring := isLocal_readString.takes hkey
      (before ++ ':' :: (after ++ (text ++ (more ++ '}' :: rest)))) trivial
    have hsep : readSeparator first '}' (lead ++ '"' :: (body ++ (before ++ ':' ::
        (after ++ (text ++ more)))) ++ '}' :: rest) = .ok (.item ('"' :: (body ++ (before ++ ':' ::
        (after ++ (text ++ (more ++ '}' :: rest))))))) := by
      rw [List.append_assoc]
      have hquote := hlead.readSeparator (by decide) (by decide : isBlank '"' = false)
        (by decide : '"' ≠ '}')
        (body ++ (before ++ ':' :: (after ++ (text ++ (more ++ '}' :: rest)))))
      rw [← hquote]
      simp
    simp only [Json.readMembers, hsep, hstring, readColon_blank hbefore, hvalue, hmembers, bind,
      Except.bind]
    rfl

end

/-! ## 6. The outermost object -/

theorem Outline.ofMembers_ne_stopped {rest : List Char} {ms : List (String × Value)} {flaw : Flaw} :
    Outline.stopped flaw ≠ .ofMembers rest ms := by
  cases ms <;> exact Outline.noConfusion

theorem Outline.ofMembers_ne_torn {rest : List Char} {ms : List (String × Value)} {key : String}
    {opened : Bool} {flaw : Flaw} : Outline.torn key opened flaw ≠ .ofMembers rest ms := by
  cases ms <;> exact Outline.noConfusion

/-- An outline that comes to its end is what the reader of members reads. -/
theorem outlineMembers_eq_ofMembers_iff {fuel depth : Nat} {first : Bool} {cs rest : List Char}
    {ms : List (String × Value)} :
    outlineMembers fuel depth first cs = Outline.ofMembers rest ms ↔
      readMembers fuel depth first cs = .ok (ms, rest) := by
  induction fuel generalizing first cs ms with
  | zero => exact iff_of_false Outline.ofMembers_ne_stopped fun h => by cases h
  | succ fuel ih =>
    rw [outlineMembers, readMembers]
    cases readSeparator first '}' cs with
    | error flaw => exact iff_of_false Outline.ofMembers_ne_stopped fun h => by cases h
    | ok next =>
      cases next with
      | closed rest' => cases ms <;> simp [Outline.ofMembers, bind, Except.bind, pure, Except.pure]
      | item text =>
        by_cases hquote : ∃ body, text = '"' :: body
        · obtain ⟨body, rfl⟩ := hquote
          cases hkey : readString body with
          | error flaw =>
            simp [hkey, Outline.ofMembers_ne_stopped, bind, Except.bind]
          | ok r =>
            obtain ⟨key, rest₀⟩ := r
            cases hcolon : readColon rest₀ with
            | error flaw =>
              simp [hkey, hcolon, Outline.ofMembers_ne_torn, bind, Except.bind]
            | ok rest₁ =>
              cases hv : readValue fuel depth rest₁ with
              | error flaw =>
                simp [hkey, hcolon, hv, Outline.ofMembers_ne_torn, bind, Except.bind]
              | ok r =>
                obtain ⟨v, rest₂⟩ := r
                -- the first member is the same, and the others are by induction
                cases ms with
                | nil =>
                  cases hms : readMembers fuel depth false rest₂ <;>
                    simp [hkey, hcolon, hv, hms, Outline.ofMembers, bind, Except.bind, pure,
                      Except.pure]
                | cons m ms =>
                  obtain ⟨key', v'⟩ := m
                  simp only [hkey, hcolon, hv, Outline.ofMembers, Outline.member.injEq]
                  rw [ih]
                  cases hms : readMembers fuel depth false rest₂ <;>
                    simp [hkey, hcolon, hv, hms, bind, Except.bind, pure, Except.pure, and_assoc,
                      Prod.ext_iff]
        · have hstopped : ∀ cs', text ≠ '"' :: cs' := fun cs' h => hquote ⟨cs', h⟩
          simp [bind, Except.bind, Outline.ofMembers_ne_stopped]

/-- **The texts of objects are those that are outlined to their end, with blanks around them.** -/
theorem objectText_iff {cs : List Char} {ms : List (String × Value)} :
    ObjectText cs ms ↔ ∃ inner rest, skipBlanks cs = '{' :: inner ∧ Blank rest ∧
      outline inner = Outline.ofMembers rest ms := by
  constructor
  · rintro ⟨front, inner, back, hfront, hback, hms, rfl⟩
    refine ⟨inner ++ '}' :: back, back, ?_, hback, ?_⟩
    · rw [skipBlanks_append hfront]
      exact skipBlanks_cons rfl _
    · refine outlineMembers_eq_ofMembers_iff.mpr (hms.readMembers back _ ?_)
      rw [List.length_append]
      omega
  · rintro ⟨inner, rest, hopen, hrest, houtline⟩
    obtain ⟨front, hfront, hcs⟩ := exists_skipBlanks cs
    obtain ⟨text, htext, rfl⟩ := spells_of_readMembers (outlineMembers_eq_ofMembers_iff.mp houtline)
    exact ⟨front, text, rest, hfront, hrest, htext, hopen ▸ hcs⟩

theorem exists_spellsMembers_iff {depth : Nat} (first : Bool) {ms : List (String × Value)} :
    (∃ inner, SpellsMembers depth first inner ms) ↔ ∀ m ∈ ms, ∃ text, Spells depth text m.2 := by
  induction ms generalizing first with
  | nil =>
    exact iff_of_true ⟨[], .nil blank_nil⟩ fun _ h => absurd h List.not_mem_nil
  | cons m ms ih =>
    obtain ⟨key, v⟩ := m
    rw [List.forall_mem_cons]
    constructor
    · rintro ⟨_, h⟩
      cases h with
      | cons _ _ _ _ hv hms => exact ⟨⟨_, hv⟩, (ih false).mp ⟨_, hms⟩⟩
    · rintro ⟨⟨text, hv⟩, hms⟩
      obtain ⟨more, hmore⟩ := (ih false).mpr hms
      obtain ⟨lead, hlead⟩ : ∃ lead, Lead first lead := by
        cases first with
        | true => exact ⟨[], blank_nil⟩
        | false => exact ⟨[','], [], [], blank_nil, blank_nil, rfl⟩
      exact ⟨_, .cons hlead (readString_escapeAll key []) blank_nil blank_nil hv hmore⟩

/-- **An object has a text whenever the value of each of its members has one**: members may be put
in any order, and others between them. -/
theorem exists_objectText_iff {ms : List (String × Value)} :
    (∃ cs, ObjectText cs ms) ↔ ∀ m ∈ ms, ∃ text, Spells (depthLimit - 1) text m.2 := by
  rw [← exists_spellsMembers_iff true]
  constructor
  · rintro ⟨_, _, inner, _, _, _, hinner, _⟩
    exact ⟨inner, hinner⟩
  · rintro ⟨inner, hinner⟩
    exact ⟨_, [], inner, [], blank_nil, blank_nil, hinner, rfl⟩

/-- What is written of an object is a text of it. -/
theorem objectText_print {ms : List (String × Value)} (h : MembersReadable (depthLimit - 1) ms) :
    ObjectText (Value.object ms).print (rereadMembers ms) :=
  objectText_iff.mpr ⟨printMembers true ms ++ ['}'], [], rfl, blank_nil, outline_print h []⟩

end Vitals.Json
