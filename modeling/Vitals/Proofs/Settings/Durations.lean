import Mathlib.Algebra.GroupWithZero.Nat
import Vitals.Settings.Environment
import Vitals.Settings.Reading
import Vitals.Settings.Writing

/-!
# Durations that are written are read

A duration is written as the counts of its units, and the reader adds the counts up again. This file
fixes

* `Duration.Item`, a count with its unit and the name it is written with, and `Legible`, what the
  reader asks of an item: a name that it knows, and a count that stays below the next unit where
  nanoseconds are added up one by one;
* `Duration.parts`, the items of a written duration;
* `Yaml.Node.Shows`, how a shown value can stand in a document.

Main statements: the reader adds up the items of a text (`readOn_items`), the items of a duration
add up to it (`nanos_parts`), and so every duration that is written is read back, in a document and
in the environment, the longest one included (`durations_survive`).
-/

namespace Vitals

namespace Duration

open Numeral

/-! ## 1. Numbers and names -/

theorem not_blank_of_isDigit {c : Char} (h : isDigit c = true) : Text.isBlank c = false := by
  simp only [isDigit, decide_eq_true_eq] at h
  simp only [Text.isBlank, Text.blanks, List.any_cons, List.any_nil, Bool.or_false,
    decide_eq_false_iff_not, Bool.or_eq_false_iff]
  omega

theorem not_blank_of_isUnitLetter {c : Char} (h : isUnitLetter c = true) :
    isDigit c = false ∧ Text.isBlank c = false := by
  have h : (97 ≤ c.toNat ∧ c.toNat ≤ 122) ∨ (65 ≤ c.toNat ∧ c.toNat ≤ 90) ∨ c.toNat = 181 := by
    simp only [isUnitLetter, Bool.or_eq_true, decide_eq_true_eq] at h
    rcases h with (h | h) | h
    · exact .inl h
    · exact .inr (.inl h)
    · exact .inr (.inr (by rw [h]; rfl))
  simp only [isDigit, Text.isBlank, Text.blanks, List.any_cons, List.any_nil, Bool.or_false,
    decide_eq_false_iff_not, Bool.or_eq_false_iff]
  omega

theorem exists_of_digits (n : Nat) : ∃ c cs, digits n = c :: cs ∧ isDigit c = true := by
  obtain ⟨c, cs, h⟩ := List.exists_cons_of_ne_nil (digits_ne_nil n)
  exact ⟨c, cs, h, isDigit_of_mem_digits n c (by rw [h]; exact List.mem_cons_self)⟩

section

variable (total : Option Nat) (rest : List Char)

/-- Digits are read onto a number as long as it stays in 64 bits. -/
theorem readOn_digits {ds : List Char} (hd : ∀ c ∈ ds, isDigit c = true) {v : Nat} (offset : Nat)
    (hv : ds.foldl (fun v c => v * 10 + digitValue c) v < Unsigned.bound64) :
    ∃ offset', readOn total (.whole v) offset (ds ++ rest) =
      readOn total (.whole (ds.foldl (fun v c => v * 10 + digitValue c) v)) offset' rest := by
  induction ds generalizing v offset with
  | nil => exact ⟨offset, rfl⟩
  | cons c cs ih =>
    rw [List.foldl_cons] at hv ⊢
    have hle := Unsigned.le_foldl_digits cs (v * 10 + digitValue c)
    have hb : bounded (v * 10 + digitValue c) = .ok (v * 10 + digitValue c) := if_pos (by omega)
    obtain ⟨offset', h⟩ :=
      ih (fun c hc => hd c (List.mem_cons_of_mem _ hc)) (offset + c.utf8Size) hv
    refine ⟨offset', ?_⟩
    rw [List.cons_append, readOn]
    simp only [hd c List.mem_cons_self, if_true, hb]
    exact h

theorem readOn_numeral {n : Nat} (hn : n < Unsigned.bound64) (since offset : Nat) :
    ∃ offset', readOn total (.between since) offset (digits n ++ rest) =
      readOn total (.whole n) offset' rest := by
  obtain ⟨c, cs, h, hc⟩ := exists_of_digits n
  have hd : ∀ c ∈ cs, isDigit c = true := fun c hc =>
    isDigit_of_mem_digits n c (by rw [h]; exact List.mem_cons_of_mem _ hc)
  have hv : cs.foldl (fun v c => v * 10 + digitValue c) (digitValue c) = n := by
    have hv := value_digits n
    rwa [h, value, List.foldl_cons, Nat.zero_mul, Nat.zero_add] at hv
  obtain ⟨offset', hr⟩ := readOn_digits total rest hd (offset + c.utf8Size)
    (hv.symm ▸ hn)
  refine ⟨offset', ?_⟩
  rw [h, List.cons_append, readOn, hv] at *
  rw [if_pos hc]
  exact hr

theorem readOn_letters {cs : List Char} (hl : ∀ c ∈ cs, isUnitLetter c = true) (n : Nat)
    (letters : List Char) (offset : Nat) :
    ∃ offset', readOn total (.unit n none letters) offset (cs ++ rest) =
      readOn total (.unit n none (cs.reverse ++ letters)) offset' rest := by
  induction cs generalizing letters offset with
  | nil => exact ⟨offset, rfl⟩
  | cons c cs ih =>
    have hc := hl c List.mem_cons_self
    obtain ⟨hdigit, hblank⟩ := not_blank_of_isUnitLetter hc
    obtain ⟨offset', h⟩ := ih (fun c hc => hl c (List.mem_cons_of_mem _ hc)) (c :: letters)
      (offset + c.utf8Size)
    refine ⟨offset', ?_⟩
    rw [List.cons_append, readOn, List.reverse_cons, List.append_assoc]
    simp only [hdigit, hblank, hc, if_true, Bool.false_eq_true, if_false]
    exact h

theorem readOn_name {cs : List Char} (hne : cs ≠ []) (hl : ∀ c ∈ cs, isUnitLetter c = true)
    (n offset : Nat) :
    ∃ offset', readOn total (.whole n) offset (cs ++ rest) =
      readOn total (.unit n none cs.reverse) offset' rest := by
  obtain ⟨c, cs, rfl⟩ := List.exists_cons_of_ne_nil hne
  have hc := hl c List.mem_cons_self
  obtain ⟨hdigit, hblank⟩ := not_blank_of_isUnitLetter hc
  obtain ⟨offset', h⟩ := readOn_letters total rest
    (fun c hc => hl c (List.mem_cons_of_mem _ hc)) n [c] (offset + c.utf8Size)
  refine ⟨offset', ?_⟩
  rw [List.cons_append, readOn, List.reverse_cons]
  simp only [hdigit, hblank, hc, if_true, Bool.false_eq_true, if_false]
  exact h

end

/-! ## 2. Items -/

/-- A count of a unit under one of its names. -/
structure Item where
  count : Nat
  unit : TimeUnit
  name : List Char

/-- A name under which the reader knows a unit. -/
structure Spells (u : TimeUnit) (name : List Char) : Prop where
  ne_nil : name ≠ []
  letters : ∀ c ∈ name, isUnitLetter c = true
  known : TimeUnit.ofName? (String.ofList name) = some u

instance (u : TimeUnit) (name : List Char) : Decidable (Spells u name) :=
  decidable_of_iff (name ≠ [] ∧ name.all isUnitLetter = true ∧
    TimeUnit.ofName? (String.ofList name) = some u)
    ⟨fun ⟨hne, hl, hk⟩ => ⟨hne, List.all_eq_true.mp hl, hk⟩,
      fun h => ⟨h.ne_nil, List.all_eq_true.mpr h.letters, h.known⟩⟩

namespace Item

def text (i : Item) : List Char :=
  digits i.count ++ i.name

def nanos (i : Item) : Nat :=
  i.count * i.unit.nanos

/-- **What the reader asks of an item.** -/
structure Legible (i : Item) : Prop where
  spelt : Spells i.unit i.name
  /-- Counts of less than a second stay below the next unit. -/
  small : i.unit.grain = 1 → i.count < 1000

end Item

theorem nanos_eq_grains (u : TimeUnit) : u.nanos / u.grain * u.grain = u.nanos := by
  cases u <;> rfl

theorem grain_cases (u : TimeUnit) :
    u.grain = 1 ∧ u.nanos ≤ 1000000 ∨ u.grain = 1000000000 := by
  cases u <;> decide

theorem bounded_of_lt {n : Nat} (h : n < Unsigned.bound64) : bounded n = .ok n :=
  if_pos h

section

variable {i : Item} (hi : i.Legible)

include hi

theorem count_lt (h : i.nanos < UInt64.size * 1000000000) : i.count < Unsigned.bound64 := by
  have hsize : Unsigned.bound64 = 18446744073709551616 := rfl
  rcases grain_cases i.unit with ⟨hg, -⟩ | hg
  · have := hi.small hg
    omega
  · have hpos : 1 ≤ i.unit.nanos / i.unit.grain := by cases i.unit <;> decide
    have hle : i.count * 1000000000 ≤ i.nanos := by
      rw [Item.nanos, ← nanos_eq_grains, hg]
      exact Nat.mul_le_mul_left _ (Nat.le_mul_of_pos_left _ (by rw [hg] at hpos; exact hpos))
    have hsize' : UInt64.size = 18446744073709551616 := rfl
    omega

/-- **An item is added to what was read before it**, unless the sum is too long for a duration: none
of the counts on the way leaves 64 bits. -/
theorem addItem_legible {total : Nat} (h : total + i.nanos < UInt64.size * 1000000000) :
    addItem total i.count none i.name = .ok (total + i.nanos) := by
  obtain ⟨n, u, name⟩ := i
  have hs : u.grain = 1 → n < 1000 := hi.small
  have h : total + n * u.nanos < UInt64.size * 1000000000 := h
  have hsum : n * (u.nanos / u.grain) * u.grain = n * u.nanos := by
    rw [Nat.mul_assoc, nanos_eq_grains]
  have hcount : (if u.grain = 1 then total % 1000000000 + n * (u.nanos / u.grain) else
      total / 1000000000 + n * (u.nanos / u.grain)) < Unsigned.bound64 ∧
      n * (u.nanos / u.grain) < Unsigned.bound64 := by
    have hsize : Unsigned.bound64 = 18446744073709551616 := rfl
    rcases grain_cases u with ⟨hg, hn⟩ | hg
    · have hmul : n * u.nanos ≤ 999 * 1000000 := Nat.mul_le_mul (by have := hs hg; omega) hn
      rw [hg, if_pos rfl, Nat.div_one]
      omega
    · rw [hg] at hsum ⊢
      rw [if_neg (by decide)]
      have hsize' : UInt64.size = 18446744073709551616 := rfl
      omega
  have hadd : add total (n * (u.nanos / u.grain)) u.grain = .ok (total + n * u.nanos) := by
    rw [add, bounded_of_lt hcount.1, hsum]
    exact if_pos h
  have hknown : TimeUnit.ofName? (String.ofList name) = some u := hi.spelt.known
  have hne : name ≠ [] := hi.spelt.ne_nil
  simp only [addItem, hne, if_false, hknown, bounded_of_lt hcount.2]
  show (add total (n * (u.nanos / u.grain)) u.grain).bind _ = _
  rw [hadd]
  rfl

theorem readOn_item (total : Option Nat) (rest : List Char) (hn : i.count < Unsigned.bound64)
    (since offset : Nat) :
    ∃ offset', readOn total (.between since) offset (i.text ++ rest) =
      readOn total (.unit i.count none i.name.reverse) offset' rest := by
  obtain ⟨offset₁, h₁⟩ := readOn_numeral total (i.name ++ rest) hn since offset
  obtain ⟨offset₂, h₂⟩ := readOn_name total rest hi.spelt.ne_nil
    hi.spelt.letters i.count offset₁
  refine ⟨offset₂, ?_⟩
  rw [Item.text, List.append_assoc, h₁, h₂]

end

/-- The text of items, with a blank between any two. -/
theorem text_cons_cons (i j : Item) (items : List Item) :
    [' '].intercalate ((i :: j :: items).map Item.text) =
      i.text ++ ' ' :: [' '].intercalate ((j :: items).map Item.text) := by
  rw [List.map_cons, List.map_cons, List.intercalate_cons_cons, ← List.map_cons,
    List.append_assoc, List.singleton_append]

/-- **The reader adds up the items of a text.** -/
theorem readOn_items {items : List Item} (hne : items ≠ []) (hi : ∀ i ∈ items, i.Legible)
    (total : Option Nat) (since offset : Nat)
    (h : total.getD 0 + (items.map Item.nanos).sum < UInt64.size * 1000000000) :
    readOn total (.between since) offset ([' '].intercalate (items.map Item.text)) =
      .ok (total.getD 0 + (items.map Item.nanos).sum) := by
  induction items generalizing total since offset with
  | nil => exact absurd rfl hne
  | cons i items ih =>
    have hl := hi i List.mem_cons_self
    have hsum : total.getD 0 + ((i :: items).map Item.nanos).sum =
        total.getD 0 + i.nanos + (items.map Item.nanos).sum := by
      rw [List.map_cons, List.sum_cons, Nat.add_assoc]
    rw [hsum] at h ⊢
    have hadd : addItem (total.getD 0) i.count none i.name.reverse.reverse =
        .ok (total.getD 0 + i.nanos) := by
      rw [List.reverse_reverse]
      exact addItem_legible hl (by omega)
    have hcount := count_lt hl (by omega)
    cases items with
    | nil =>
      obtain ⟨offset', hr⟩ := readOn_item hl total [] hcount since offset
      rw [List.append_nil] at hr
      simp only [List.map_cons, List.map_nil, List.intercalate_singleton, hr]
      rw [readOn]
      exact hadd
    | cons j items =>
      obtain ⟨offset', hr⟩ := readOn_item hl total
        (' ' :: [' '].intercalate ((j :: items).map Item.text)) hcount since offset
      have ih := ih (by simp) (fun i hi' => hi i (List.mem_cons_of_mem _ hi'))
        (some (total.getD 0 + i.nanos)) (offset' + ' '.utf8Size) (offset' + ' '.utf8Size) h
      have hdigit : isDigit ' ' = false := by decide
      have hblank : Text.isBlank ' ' = true := by decide
      rw [text_cons_cons, hr, readOn]
      simp only [hdigit, hblank, if_true, Bool.false_eq_true, if_false, hadd]
      exact ih

/-- The text of items ends with a letter. -/
theorem exists_last {items : List Item} (hne : items ≠ []) (hi : ∀ i ∈ items, i.Legible) :
    ∃ front c, [' '].intercalate (items.map Item.text) = front ++ [c] ∧ isUnitLetter c = true := by
  induction items with
  | nil => exact absurd rfl hne
  | cons i items ih =>
    cases items with
    | nil =>
      have hl := hi i List.mem_cons_self
      obtain ⟨front, c, hname⟩ :=
        (List.eq_nil_or_concat i.name).resolve_left hl.spelt.ne_nil
      rw [List.concat_eq_append] at hname
      refine ⟨digits i.count ++ front, c, ?_, hl.spelt.letters c (by rw [hname]; simp)⟩
      rw [List.map_singleton, List.intercalate_singleton, Item.text, hname, List.append_assoc]
    | cons j items =>
      obtain ⟨front, c, htext, hc⟩ := ih (by simp) fun i hi' => hi i (List.mem_cons_of_mem _ hi')
      refine ⟨i.text ++ ' ' :: front, c, ?_, hc⟩
      rw [text_cons_cons, htext, List.append_assoc, List.cons_append]

/-- It begins with a digit. -/
theorem exists_first {items : List Item} (hne : items ≠ []) :
    ∃ c back, [' '].intercalate (items.map Item.text) = c :: back ∧ isDigit c = true := by
  obtain ⟨i, items, rfl⟩ := List.exists_cons_of_ne_nil hne
  obtain ⟨c, cs, hdigits, hc⟩ := exists_of_digits i.count
  cases items with
  | nil =>
    refine ⟨c, cs ++ i.name, ?_, hc⟩
    rw [List.map_singleton, List.intercalate_singleton, Item.text, hdigits, List.cons_append]
  | cons j items =>
    refine ⟨c, cs ++ i.name ++ ' ' :: [' '].intercalate ((j :: items).map Item.text), ?_, hc⟩
    rw [text_cons_cons, Item.text, hdigits, List.cons_append, List.cons_append]

/-! ## 3. The items of a duration -/

/-- The item of a count, none for zero. -/
def part (n : Nat) (u : TimeUnit) (one many : List Char) : List Item :=
  if n = 0 then [] else [⟨n, u, if n = 1 then one else many⟩]

/-- The items of a written duration, largest unit first. -/
def parts (d : Duration) : List Item :=
  let s := d.seconds
  let inYear := s % 31557600
  let inMonth := inYear % 2630016
  let inDay := inMonth % 86400
  let n := d.subsecond
  part (s / 31557600) .year "year".toList "years".toList
    ++ part (inYear / 2630016) .month "month".toList "months".toList
    ++ part (inMonth / 86400) .day "day".toList "days".toList
    ++ part (inDay / 3600) .hour ['h'] ['h']
    ++ part (inDay % 3600 / 60) .minute ['m'] ['m']
    ++ part (inDay % 60) .second ['s'] ['s']
    ++ part (n / 1000000) .millisecond ['m', 's'] ['m', 's']
    ++ part (n / 1000 % 1000) .microsecond ['u', 's'] ['u', 's']
    ++ part (n % 1000) .nanosecond ['n', 's'] ['n', 's']

theorem text_part (n : Nat) (u : TimeUnit) (one many : List Char) :
    (part n u one many).map Item.text = item n one many := by
  unfold part item
  split <;> rfl

theorem nanos_part (n : Nat) (u : TimeUnit) (one many : List Char) :
    ((part n u one many).map Item.nanos).sum = n * u.nanos := by
  unfold part
  split
  · rename_i h
    rw [h, Nat.zero_mul]
    rfl
  · simp [Item.nanos]

theorem legible_part {n : Nat} {u : TimeUnit} {one many : List Char} (hone : Spells u one)
    (hmany : Spells u many) (hs : u.grain = 1 → n < 1000) :
    ∀ i ∈ part n u one many, i.Legible := by
  intro i hi
  unfold part at hi
  split at hi
  · exact absurd hi List.not_mem_nil
  · rw [List.mem_singleton.mp hi]
    refine ⟨?_, hs⟩
    show Spells u (if n = 1 then one else many)
    split
    · exact hone
    · exact hmany

/-- Seconds are the years, months, days, hours, minutes and seconds that they are split into. -/
theorem seconds_split (s : Nat) :
    s / 31557600 * 31557600 + s % 31557600 / 2630016 * 2630016 +
      s % 31557600 % 2630016 / 86400 * 86400 + s % 31557600 % 2630016 % 86400 / 3600 * 3600 +
      s % 31557600 % 2630016 % 86400 % 3600 / 60 * 60 + s % 31557600 % 2630016 % 86400 % 60 = s := by
  omega

theorem subsecond_split (n : Nat) :
    n / 1000000 * 1000000 + n / 1000 % 1000 * 1000 + n % 1000 = n := by
  omega

section

variable (d : Duration)

theorem text_parts : d.parts.map Item.text = d.items := by
  simp only [parts, items, List.map_append, text_part]

/-- **The items of a duration add up to it.** -/
theorem nanos_parts : (d.parts.map Item.nanos).sum = d.nanos := by
  have hsubsecond := subsecond_split d.subsecond
  rw [← d.seconds_subsecond]
  -- the counts of the units from the second up are brought under one factor
  simp only [parts, List.map_append, List.sum_append, nanos_part, TimeUnit.nanos, ← Nat.mul_assoc,
    ← Nat.add_mul, seconds_split, Nat.mul_one]
  rw [Nat.add_assoc, Nat.add_assoc, ← Nat.add_assoc (d.subsecond / 1000000 * 1000000), hsubsecond]

theorem legible_parts : ∀ i ∈ d.parts, i.Legible := by
  have hlt := d.subsecond_lt
  intro i hi
  simp only [parts, List.mem_append] at hi
  rcases hi with (((((((hi | hi) | hi) | hi) | hi) | hi) | hi) | hi) | hi
  -- from the second up, and below it
  iterate 6 exact legible_part (by decide) (by decide) (fun h => absurd h (by decide)) i hi
  iterate 3 exact legible_part (by decide) (by decide) (fun _ => by omega) i hi

variable {d}

theorem parts_ne_nil (h : d.nanos ≠ 0) : d.parts ≠ [] := by
  intro hnil
  have hsum := d.nanos_parts
  rw [hnil] at hsum
  exact h hsum.symm

theorem text_of_ne_zero (h : d.nanos ≠ 0) : d.text = [' '].intercalate (d.parts.map Item.text) := by
  rw [text, if_neg h, text_parts]

end

/-! ## 4. Reading back -/

/-- **What is written is read back.** -/
theorem ofText_text (d : Duration) : ofText d.text = .ok d := by
  by_cases h : d.nanos = 0
  · have hd : d = ⟨0, by decide⟩ := by
      obtain ⟨n, hn⟩ := d
      cases h
      rfl
    rw [hd]
    rfl
  · have hread : readOn none (.between 0) 0 d.text = .ok d.nanos := by
      have hread := readOn_items (parts_ne_nil h) d.legible_parts none 0 0
        (by rw [nanos_parts]; simpa using d.lt)
      rwa [← text_of_ne_zero h, nanos_parts, Option.getD_none, Nat.zero_add] at hread
    -- a lone zero has no unit
    have hne : d.text ≠ ['0'] := by
      intro hzero
      rw [hzero] at hread
      cases hread
    simp only [ofText, hne, if_false, hread, bind, Except.bind, ofNanos?_nanos]
    rfl

theorem trim_text (d : Duration) : Text.trim d.text = d.text := by
  by_cases h : d.nanos = 0
  · rw [text, if_pos h]
    decide
  · obtain ⟨a, back, hfront, ha⟩ := exists_first (parts_ne_nil h)
    obtain ⟨front, b, hback, hb⟩ := exists_last (parts_ne_nil h) d.legible_parts
    rw [text_of_ne_zero h]
    exact Text.trim_eq_self hfront (not_blank_of_isDigit ha) hback
      (not_blank_of_isUnitLetter hb).2

/-- So it is between blanks. -/
theorem ofSetting_text (d : Duration) {as bs : List Char} (ha : ∀ c ∈ as, Text.isBlank c = true)
    (hb : ∀ c ∈ bs, Text.isBlank c = true) : ofSetting (as ++ d.text ++ bs) = .ok d := by
  rw [ofSetting, Text.trim_surrounded ha hb, trim_text, ofText_text]

end Duration

/-! ## 5. Documents and the environment -/

namespace Yaml.Node

/-- **How a shown value can stand in a document**: a text as any scalar, with blanks around it, and
nothing as one of the words for it. -/
inductive Shows : Json.Value → Node → Prop where
  | text (t : String) {as bs : List Char} (ha : ∀ c ∈ as, Text.isBlank c = true)
      (hb : ∀ c ∈ bs, Text.isBlank c = true) (plain : Bool) :
      Shows (.text t) (.scalar (String.ofList (as ++ t.toList ++ bs)) plain)
  | null (word : String) (hw : word ∈ ["", "~", "null", "Null", "NULL"]) :
      Shows .null (.scalar word true)

section

variable {t : String} {d : Duration} (h : Duration.ofSetting t.toList = .ok d) (plain : Bool)

include h

theorem duration?_of_ofSetting : (Node.scalar t plain).duration? = some d := by
  simp only [duration?, text?, Option.bind_eq_bind, Option.bind_some, h]
  rfl

/-- A text that is a duration is no word for nothing. -/
theorem isNull_of_ofSetting : (Node.scalar t plain).isNull = false := by
  have hword : ∀ word ∈ ["", "~", "null", "Null", "NULL"],
      (Duration.ofSetting word.toList).toOption = none := by
    decide +kernel
  cases plain with
  | false => rfl
  | true =>
    refine Bool.eq_false_iff.mpr fun hnull => ?_
    have hnull : ["", "~", "null", "Null", "NULL"].contains t = true := hnull
    have hnone := hword t (List.contains_iff_mem.mp hnull)
    rw [h] at hnone
    cases hnone

end

theorem Shows.ofSetting {d : Duration} {n : Node} (h : n.Shows d.toJson) :
    ∃ t plain, n = .scalar t plain ∧ Duration.ofSetting t.toList = .ok d := by
  cases h with
  | text _ ha hb plain =>
    refine ⟨_, plain, rfl, ?_⟩
    rw [String.toList_ofList, String.toList_ofList]
    exact d.ofSetting_text ha hb

end Yaml.Node

/-- **Durations survive.** Every duration that is shown is read back as it was, however it stands in
a document, as a value that must be there and as one that may be missing; so is a missing one. With
blanks around it, it is read back as the value of any environment variable too. -/
theorem Duration.durations_survive :
    (∀ (d : Duration) (n : Yaml.Node), n.Shows d.toJson → n.duration? = some d) ∧
      (∀ (o : Option Duration) (n : Yaml.Node), n.Shows (optionToJson o) →
        n.optionalDuration? = some o) ∧
      ∀ (d : Duration) (name : String) (as bs : List Char), (∀ c ∈ as, Text.isBlank c = true) →
        (∀ c ∈ bs, Text.isBlank c = true) →
        Settings.readDuration name (String.ofList (as ++ d.text ++ bs)) = .ok d := by
  refine ⟨fun d n h => ?_, fun o n h => ?_, fun d name as bs ha hb => ?_⟩
  · obtain ⟨t, plain, rfl, ht⟩ := h.ofSetting
    exact Yaml.Node.duration?_of_ofSetting ht plain
  · cases o with
    | none =>
      cases h with
      | null word hw =>
        have hnull : (Yaml.Node.scalar word true).isNull = true := List.contains_iff_mem.mpr hw
        rw [Yaml.Node.optionalDuration?, if_pos hnull]
    | some d =>
      obtain ⟨t, plain, rfl, ht⟩ := h.ofSetting
      rw [Yaml.Node.optionalDuration?, Yaml.Node.isNull_of_ofSetting ht plain,
        Yaml.Node.duration?_of_ofSetting ht plain]
      rfl
  · rw [Settings.readDuration, String.toList_ofList, d.ofSetting_text ha hb]

/-- The longest duration, on a line of its own. -/
theorem Duration.durations_survive_longest :
    Settings.readDuration "EXPORTER_SCRAPE_INTERVAL"
        "\t584542046090years 7months 15days 17h 5m 3s 999ms 999us 999ns\n" =
      .ok ⟨18446744073709551615999999999, by decide⟩ := by
  have htext : String.ofList (['\t'] ++
      (⟨18446744073709551615999999999, by decide⟩ : Duration).text ++ ['\n']) =
      "\t584542046090years 7months 15days 17h 5m 3s 999ms 999us 999ns\n" := by
    decide +kernel
  rw [← htext]
  exact Duration.durations_survive.2.2 ⟨18446744073709551615999999999, by decide⟩
    "EXPORTER_SCRAPE_INTERVAL" ['\t'] ['\n'] (List.forall_mem_singleton.mpr rfl)
    (List.forall_mem_singleton.mpr rfl)

end Vitals
