/-!
# Blank characters

The characters that count as white space in the whole of Unicode, and `trim`, what is left of a
text without those at its two ends. Main statement: blanks around a text make no difference to
that (`trim_surrounded`).
-/

namespace Vitals.Text

/-- The white space of Unicode, as ranges. -/
def blanks : List (Nat × Nat) :=
  [(0x09, 0x0D), (0x20, 0x20), (0x85, 0x85), (0xA0, 0xA0), (0x1680, 0x1680), (0x2000, 0x200A),
    (0x2028, 0x2029), (0x202F, 0x202F), (0x205F, 0x205F), (0x3000, 0x3000)]

/-- Whether a character is white space. -/
def isBlank (c : Char) : Bool :=
  blanks.any fun r => decide (r.1 ≤ c.toNat ∧ c.toNat ≤ r.2)

/-- White space of ASCII is white space. -/
theorem isBlank_of_isWhitespace {c : Char} (h : c.isWhitespace = true) : isBlank c = true := by
  simp only [Char.isWhitespace, Bool.or_eq_true, decide_eq_true_eq] at h
  rcases h with ((h | h) | h) | h <;> subst h <;> decide

/-- The text without the blanks at its beginning. -/
def trimStart (cs : List Char) : List Char :=
  cs.dropWhile isBlank

/-- The text without the blanks at its end. -/
def trimEnd (cs : List Char) : List Char :=
  (cs.reverse.dropWhile isBlank).reverse

/-- The text without the blanks at its ends. -/
def trim (cs : List Char) : List Char :=
  trimEnd (trimStart cs)

theorem trimStart_append {bs : List Char} (hb : ∀ c ∈ bs, isBlank c = true) (cs : List Char) :
    trimStart (bs ++ cs) = trimStart cs :=
  List.dropWhile_append_of_pos hb

theorem trimEnd_append (cs : List Char) {bs : List Char} (hb : ∀ c ∈ bs, isBlank c = true) :
    trimEnd (cs ++ bs) = trimEnd cs := by
  simp only [trimEnd, List.reverse_append]
  rw [List.dropWhile_append_of_pos fun c hc => hb c (List.mem_reverse.1 hc)]

theorem trimEnd_eq_nil {bs : List Char} (hb : ∀ c ∈ bs, isBlank c = true) : trimEnd bs = [] := by
  simpa [trimEnd] using trimEnd_append [] hb

/-- **Blanks around a text say nothing.** -/
theorem trim_surrounded {as bs : List Char} (ha : ∀ c ∈ as, isBlank c = true)
    (hb : ∀ c ∈ bs, isBlank c = true) (cs : List Char) : trim (as ++ cs ++ bs) = trim cs := by
  rw [trim, List.append_assoc, trimStart_append ha, trim, trimStart, trimStart,
    List.dropWhile_append]
  split
  · rename_i h
    rw [List.isEmpty_iff.1 h, trimEnd_eq_nil fun c hc => hb c (List.dropWhile_sublist _ |>.mem hc)]
    rfl
  · rw [trimEnd_append _ hb]

/-- A text that begins and ends with a character that is not blank is all there is. -/
theorem trim_eq_self {cs front back : List Char} {a b : Char} (hfront : cs = a :: back)
    (ha : isBlank a = false) (hback : cs = front ++ [b]) (hb : isBlank b = false) :
    trim cs = cs := by
  have hstart : trimStart cs = cs := by
    rw [hfront, trimStart, List.dropWhile_cons_of_neg (by simp [ha])]
  rw [trim, hstart, trimEnd, hback, List.reverse_append, List.reverse_singleton,
    List.singleton_append, List.dropWhile_cons_of_neg (by simp [hb])]
  simp

end Vitals.Text
