import Mathlib.Algebra.Order.Field.Power
import Mathlib.Tactic.FieldSimp
import Mathlib.Tactic.Linarith
import Mathlib.Tactic.NormNum
import Mathlib.Tactic.Positivity
import Mathlib.Tactic.Ring
import Vitals.Decimal.Shortest

/-!
# What the search for the shortest decimal finds

The search tries one grid after the other and takes the first neighbour of the value that rounds
to it. This file shows that it always finds one with at most 17 digits. It fixes

* `Scientific.value`, the number that a decimal stands for;
* `Interval.Around`, what the interval around a value is in units of one.

Main statements: the leading digit has the place it is said to have (`leadingExponent_spec`); a
point of a grid that was hit lies between the ends (`Interval.value_of_onGrid`), a grid finer than
the interval is hit (`Interval.onGrid_isSome`), so that the shortest decimal differs from the value
by half a unit of its last place at most (`shortest_spec`).
-/

namespace Vitals.Decimal

open Vitals.Numeral

/-! ## 1. Numerals and their length -/

theorem digitCount_pos (n : Nat) : 0 < digitCount n :=
  List.length_pos_of_ne_nil (digits_ne_nil n)

/-- The number of digits says between which powers of ten a number lies. -/
theorem digitCount_spec (n : Nat) :
    n < 10 ^ digitCount n ∧ (n ≠ 0 → 10 ^ (digitCount n - 1) ≤ n) := by
  induction n using Nat.strongRecOn with
  | ind n ih =>
    by_cases h : n < 10
    · have hc : digitCount n = 1 := by
        rw [digitCount, digits, if_pos h]
        rfl
      rw [hc]
      exact ⟨by omega, fun h0 => by omega⟩
    · have hc : digitCount n = digitCount (n / 10) + 1 := by
        rw [digitCount, digits, if_neg h, List.length_append]
        rfl
      obtain ⟨hlt, hle⟩ := ih (n / 10) (by omega)
      have hpos := digitCount_pos (n / 10)
      have hle' := hle (by omega)
      obtain ⟨k, hk⟩ : ∃ k, digitCount (n / 10) = k + 1 := ⟨digitCount (n / 10) - 1, by omega⟩
      rw [hk] at hlt hle'
      rw [hc, hk]
      simp only [Nat.add_sub_cancel, Nat.pow_succ] at *
      exact ⟨by omega, fun _ => by omega⟩

theorem digitCount_eq {n k : Nat} (hlow : 10 ^ k ≤ n) (hhigh : n < 10 ^ (k + 1)) :
    digitCount n = k + 1 := by
  have h10 : 0 < 10 ^ k := Nat.pow_pos (by decide)
  obtain ⟨hlt, hle⟩ := digitCount_spec n
  have hle' := hle (by omega)
  have h1 : k < digitCount n := (Nat.pow_lt_pow_iff_right (by decide)).1 (lt_of_le_of_lt hlow hlt)
  have h2 : digitCount n - 1 < k + 1 :=
    (Nat.pow_lt_pow_iff_right (by decide)).1 (lt_of_le_of_lt hle' hhigh)
  omega

/-! ## 2. The place of the leading digit -/

theorem leadingPlace_le (a b fuel : Nat) : leadingPlace a b fuel ≤ fuel := by
  induction fuel generalizing a with
  | zero => simp [leadingPlace]
  | succ fuel ih =>
    rw [leadingPlace]
    split
    · omega
    · have := ih (a * 10)
      omega

/-- Moved by its leading place, a number reaches one, if it does so at all. -/
theorem le_leadingPlace {a b fuel : Nat} (h : b ≤ a * 10 ^ fuel) :
    b ≤ a * 10 ^ leadingPlace a b fuel := by
  induction fuel generalizing a with
  | zero => simpa [leadingPlace] using h
  | succ fuel ih =>
    rw [leadingPlace]
    split
    · rename_i hle
      simpa using hle
    · have hnext : b ≤ a * 10 * 10 ^ fuel := by
        rw [Nat.mul_assoc, ← Nat.pow_succ']
        exact h
      have := ih hnext
      rwa [Nat.mul_assoc, ← Nat.pow_succ'] at this

/-- Moved by its leading place, a number below one stays below ten. -/
theorem leadingPlace_lt {a b : Nat} (fuel : Nat) (h : a < b) :
    a * 10 ^ leadingPlace a b fuel < b * 10 := by
  induction fuel generalizing a with
  | zero =>
    simp only [leadingPlace, Nat.pow_zero]
    omega
  | succ fuel ih =>
    rw [leadingPlace, if_neg (by omega), Nat.pow_succ', ← Nat.mul_assoc]
    by_cases h10 : a * 10 < b
    · exact ih h10
    · have hzero : leadingPlace (a * 10) b fuel = 0 := by
        cases fuel with
        | zero => rfl
        | succ fuel => rw [leadingPlace, if_pos (by omega)]
      rw [hzero]
      omega

/-- **The leading digit of a number has the place it is said to have.** -/
theorem leadingExponent_spec {a b : Nat} (hb : 0 < b) (h : b ≤ a * 10 ^ 400) :
    (10 : ℚ) ^ leadingExponent a b ≤ a / b ∧
      (a : ℚ) / b < 10 ^ (leadingExponent a b + 1) := by
  have hbq : (0 : ℚ) < b := by exact_mod_cast hb
  rw [le_div_iff₀ hbq, div_lt_iff₀ hbq]
  by_cases hba : b ≤ a
  · obtain ⟨hlt, hle⟩ := digitCount_spec (a / b)
    have hquot : 0 < a / b := Nat.div_pos hba hb
    have hcount := digitCount_pos (a / b)
    obtain ⟨k, hk⟩ : ∃ k, digitCount (a / b) = k + 1 := ⟨digitCount (a / b) - 1, by omega⟩
    have htop : leadingExponent a b = k := by
      rw [leadingExponent, if_pos hba, hk]
      omega
    have hlow : 10 ^ k * b ≤ a := by
      have := hle (by omega)
      rw [hk] at this
      exact (Nat.le_div_iff_mul_le hb).1 this
    have hhigh : a < 10 ^ (k + 1) * b := by
      rw [hk] at hlt
      exact (Nat.div_lt_iff_lt_mul hb).1 hlt
    rw [htop]
    exact ⟨by exact_mod_cast hlow, by exact_mod_cast hhigh⟩
  · obtain ⟨k, hk⟩ : ∃ k, leadingPlace a b 400 = k := ⟨_, rfl⟩
    have htop : leadingExponent a b = -k := by
      rw [leadingExponent, if_neg hba, hk]
    have hlow : b ≤ a * 10 ^ k := hk ▸ le_leadingPlace h
    have hhigh : a * 10 ^ k < b * 10 := hk ▸ leadingPlace_lt 400 (by omega)
    have hlow' : (b : ℚ) ≤ a * 10 ^ k := by exact_mod_cast hlow
    have hhigh' : (a : ℚ) * 10 ^ k < b * 10 := by exact_mod_cast hhigh
    have h10 : (0 : ℚ) < 10 ^ k := by positivity
    rw [htop, zpow_add₀ (by norm_num), zpow_neg, zpow_natCast, zpow_one]
    constructor
    · rw [inv_mul_le_iff₀ h10]
      linarith
    · rw [mul_assoc, lt_inv_mul_iff₀ h10]
      linarith

theorem leadingExponent_ge (a b : Nat) : -400 ≤ leadingExponent a b := by
  have hcount := digitCount_pos (a / b)
  have hplace := leadingPlace_le a b 400
  rw [leadingExponent]
  split <;> omega

/-! ## 3. Intervals -/

/-- The number that a decimal stands for. -/
def Scientific.value (s : Scientific) : ℚ :=
  s.coefficient * 10 ^ s.exponent

/-- A power with an integral exponent, by the two powers with natural ones. -/
theorem pow_toNat_div (b : ℚ) (z : Int) :
    b ^ z.toNat / b ^ (-z).toNat = b ^ z := by
  obtain ⟨n, rfl | rfl⟩ := z.eq_nat_or_neg
  · simp
  · simp

/-- What the points of an interval satisfy. -/
theorem Interval.le_of_contains {i : Interval} {a b : Nat} (h : i.contains a b = true) :
    i.low * b ≤ a * i.scale ∧ a * i.scale ≤ i.high * b := by
  unfold Interval.contains at h
  split at h
  · simpa using h
  · simp only [Bool.and_eq_true, decide_eq_true_eq] at h
    omega

/-- What the points outside an interval satisfy. -/
theorem Interval.le_of_not_contains {i : Interval} {a b : Nat} (h : ¬ i.contains a b = true) :
    a * i.scale ≤ i.low * b ∨ i.high * b ≤ a * i.scale := by
  unfold Interval.contains at h
  split at h
  · simp only [Bool.and_eq_true, decide_eq_true_eq] at h
    omega
  · simp only [Bool.and_eq_true, decide_eq_true_eq] at h
    omega

section Grid

variable {i : Interval} {p : Int}

/-- The neighbour of the centre below it on the grid of multiples of `10 ^ p`. -/
def Interval.belowOn (i : Interval) (p : Int) : Nat :=
  i.centre * 10 ^ (-p).toNat / (i.scale * 10 ^ p.toNat)

/-- A grid is hit in one of the two neighbours of the centre. -/
theorem Interval.of_onGrid {s : Scientific} (h : i.onGrid p = some s) :
    s.exponent = p ∧ s.coefficient ≤ i.belowOn p + 1 ∧
      i.contains (s.coefficient * 10 ^ p.toNat) (10 ^ (-p).toNat) = true := by
  have hneighbour : ∀ {c : Nat} {t : Scientific}, c ≤ i.belowOn p + 1 →
      (if i.contains (c * 10 ^ p.toNat) (10 ^ (-p).toNat) then some (Scientific.mk c p) else none) =
        some t → t.exponent = p ∧ t.coefficient ≤ i.belowOn p + 1 ∧
          i.contains (t.coefficient * 10 ^ p.toNat) (10 ^ (-p).toNat) = true := by
    intro c t hc ht
    obtain ⟨hin, hs⟩ := Option.ite_none_right_eq_some.1 ht
    obtain rfl := Option.some.inj hs
    exact ⟨rfl, hc, hin⟩
  have hbelow := fun {t} => @hneighbour (i.belowOn p) t (by omega)
  have habove := fun {t} => @hneighbour (i.belowOn p + 1) t (by omega)
  unfold Interval.onGrid at h
  simp only at h
  split at h
  · rename_i l u hl hu
    split at h
    · exact Option.some.inj h ▸ hbelow hl
    · split at h
      · exact Option.some.inj h ▸ habove hu
      · split at h
        · exact Option.some.inj h ▸ hbelow hl
        · exact Option.some.inj h ▸ habove hu
  · rename_i l hl hu
    exact Option.some.inj h ▸ hbelow hl
  · exact habove h

/-- A grid is missed only if both neighbours of the centre are outside. -/
theorem Interval.outside_of_onGrid_eq_none (h : i.onGrid p = none) :
    ¬ i.contains (i.belowOn p * 10 ^ p.toNat) (10 ^ (-p).toNat) = true ∧
      ¬ i.contains ((i.belowOn p + 1) * 10 ^ p.toNat) (10 ^ (-p).toNat) = true := by
  unfold Interval.onGrid at h
  simp only at h
  split at h
  · split at h
    · exact absurd h (by simp)
    · split at h
      · exact absurd h (by simp)
      · split at h <;> exact absurd h (by simp)
  · exact absurd h (by simp)
  · rename_i hl
    exact ⟨fun hin => absurd ((if_pos hin).symm.trans hl) (by simp),
      fun hin => absurd ((if_pos hin).symm.trans h) (by simp)⟩

/-- The neighbours of a grid that is missed lie on either side of the interval, so that it is no
wider than the grid. -/
theorem Interval.width_le_of_onGrid_eq_none (hs : 0 < i.scale) (hlow : i.low < i.centre)
    (hhigh : i.centre < i.high) (h : i.onGrid p = none) :
    i.high * 10 ^ (-p).toNat ≤ i.low * 10 ^ (-p).toNat + i.scale * 10 ^ p.toNat := by
  obtain ⟨hbelow, habove⟩ := Interval.outside_of_onGrid_eq_none h
  obtain ⟨up, hup⟩ : ∃ up, up = 10 ^ p.toNat := ⟨_, rfl⟩
  obtain ⟨down, hdown⟩ : ∃ down, down = 10 ^ (-p).toNat := ⟨_, rfl⟩
  have hupos : 0 < up := hup ▸ Nat.pow_pos (by decide)
  have hdpos : 0 < down := hdown ▸ Nat.pow_pos (by decide)
  obtain ⟨below, hdef⟩ : ∃ below, below = i.belowOn p := ⟨_, rfl⟩
  rw [← hup, ← hdown, ← hdef] at hbelow habove
  rw [Interval.belowOn, ← hup, ← hdown] at hdef
  have hfloor : below * (i.scale * up) ≤ i.centre * down := hdef ▸ Nat.div_mul_le_self _ _
  have hceil : i.centre * down < (below + 1) * (i.scale * up) := by
    rw [hdef, Nat.mul_comm (_ + 1)]
    exact Nat.lt_mul_div_succ _ (Nat.mul_pos hs hupos)
  have hlowc : i.low * down < i.centre * down := Nat.mul_lt_mul_of_pos_right hlow hdpos
  have hhighc : i.centre * down < i.high * down := Nat.mul_lt_mul_of_pos_right hhigh hdpos
  have hassoc : ∀ c, c * up * i.scale = c * (i.scale * up) := by
    intro c
    rw [Nat.mul_assoc, Nat.mul_comm up]
  have hleft : below * (i.scale * up) ≤ i.low * down := by
    have hside := Interval.le_of_not_contains hbelow
    rw [hassoc] at hside
    omega
  have hright : i.high * down ≤ (below + 1) * (i.scale * up) := by
    have hside := Interval.le_of_not_contains habove
    rw [hassoc] at hside
    omega
  rw [Nat.add_mul, Nat.one_mul] at hright
  rw [← hup, ← hdown]
  omega

/-- **A grid finer than the interval is hit.** -/
theorem Interval.onGrid_isSome (hs : 0 < i.scale) (hlow : i.low < i.centre)
    (hhigh : i.centre < i.high)
    (hp : (10 : ℚ) ^ p < ((i.high : ℚ) - i.low) / i.scale) : (i.onGrid p).isSome = true := by
  by_contra hcon
  have hnone : i.onGrid p = none := by simpa using hcon
  have hwide : (i.high : ℚ) * 10 ^ (-p).toNat ≤
      i.low * 10 ^ (-p).toNat + i.scale * 10 ^ p.toNat := by
    exact_mod_cast Interval.width_le_of_onGrid_eq_none hs hlow hhigh hnone
  have hsq : (0 : ℚ) < i.scale := by exact_mod_cast hs
  have hdq : (0 : ℚ) < 10 ^ (-p).toNat := by positivity
  rw [← pow_toNat_div, div_lt_div_iff₀ hdq hsq] at hp
  linarith

/-- A grid point that was hit lies between the ends of the interval. -/
theorem Interval.value_of_onGrid {s : Scientific} (hs : 0 < i.scale) (h : i.onGrid p = some s) :
    (i.low : ℚ) / i.scale ≤ s.value ∧ s.value ≤ i.high / i.scale := by
  obtain ⟨hexp, -, hin⟩ := Interval.of_onGrid h
  obtain ⟨hlow, hhigh⟩ := Interval.le_of_contains hin
  have hsq : (0 : ℚ) < i.scale := by exact_mod_cast hs
  have hdq : (0 : ℚ) < 10 ^ (-p).toNat := by positivity
  have hlow' : (i.low : ℚ) * 10 ^ (-p).toNat ≤ s.coefficient * 10 ^ p.toNat * i.scale := by
    exact_mod_cast hlow
  have hhigh' : (s.coefficient : ℚ) * 10 ^ p.toNat * i.scale ≤ i.high * 10 ^ (-p).toNat := by
    exact_mod_cast hhigh
  have hvalue : s.value = s.coefficient * 10 ^ p.toNat / 10 ^ (-p).toNat := by
    rw [Scientific.value, hexp, ← pow_toNat_div, mul_div_assoc]
  rw [hvalue, div_le_div_iff₀ hsq hdq, div_le_div_iff₀ hdq hsq]
  exact ⟨hlow', hhigh'⟩

/-- The neighbour below the centre has as many digits as the centre has places above the grid. -/
theorem Interval.belowOn_lt {k : Nat} (hs : 0 < i.scale)
    (h : (i.centre : ℚ) / i.scale < 10 ^ (p + k)) : i.belowOn p < 10 ^ k := by
  have hsq : (0 : ℚ) < i.scale := by exact_mod_cast hs
  have hu : (0 : ℚ) < 10 ^ p.toNat := by positivity
  have hd : (0 : ℚ) < 10 ^ (-p).toNat := by positivity
  have hfloor : (i.belowOn p : ℚ) * (i.scale * 10 ^ p.toNat) ≤ i.centre * 10 ^ (-p).toNat := by
    exact_mod_cast Nat.div_mul_le_self _ _
  rw [zpow_add₀ (by norm_num), ← pow_toNat_div, zpow_natCast, div_lt_iff₀ hsq] at h
  have hlt : (i.belowOn p : ℚ) * (i.scale * 10 ^ p.toNat) < 10 ^ k * (i.scale * 10 ^ p.toNat) :=
    calc (i.belowOn p : ℚ) * (i.scale * 10 ^ p.toNat)
        ≤ i.centre * 10 ^ (-p).toNat := hfloor
      _ < 10 ^ p.toNat / 10 ^ (-p).toNat * 10 ^ k * i.scale * 10 ^ (-p).toNat := by gcongr
      _ = 10 ^ k * (i.scale * 10 ^ p.toNat) := by field_simp
  have := lt_of_mul_lt_mul_right hlt (by positivity)
  exact_mod_cast this

end Grid

/-! ## 4. The interval of a number -/

/-- What the interval of `m · 2 ^ e` is, in units of one. -/
structure Interval.Around (i : Interval) (m : Nat) (e : Int) : Prop where
  scale : 0 < i.scale
  low : i.low < i.centre
  high : i.centre < i.high
  centre : (i.centre : ℚ) / i.scale = m * 2 ^ e
  left : ((m : ℚ) - 1 / 2) * 2 ^ e ≤ i.low / i.scale
  right : (i.high : ℚ) / i.scale = (m + 1 / 2) * 2 ^ e
  /-- The interval is wider than the grid of 17 digits. -/
  wide : (m : ℚ) * 2 ^ e / 10 ^ 16 < ((i.high : ℚ) - i.low) / i.scale

/-- A quarter of the place of the last digit. -/
theorem quarter_place (e : Int) :
    (((2 ^ (e - 2).toNat : Nat) : ℚ)) / (2 ^ (2 - e).toNat : Nat) = 2 ^ e / 4 := by
  have hplace : (((2 ^ (e - 2).toNat : Nat) : ℚ)) / (2 ^ (2 - e).toNat : Nat) = 2 ^ (e - 2) := by
    rw [← pow_toNat_div, Int.neg_sub]
    push_cast
    rfl
  rw [hplace, zpow_sub₀ (by norm_num)]
  norm_num

theorem Interval.around_spec {m : Nat} (e : Int) (hm : 0 < m) (h53 : m < 2 ^ 53) :
    (Interval.around m e).Around m e := by
  obtain ⟨up, hup⟩ : ∃ up, up = 2 ^ (e - 2).toNat := ⟨_, rfl⟩
  obtain ⟨scale, hscale⟩ : ∃ scale, scale = 2 ^ (2 - e).toNat := ⟨_, rfl⟩
  -- the lower end is nearer where the exponent below has a finer last digit
  obtain ⟨quarters, hquarters, hle, hlt, hwide⟩ : ∃ quarters,
      (if m = hiddenBit ∧ -1074 < e then 4 * m - 1 else 4 * m - 2) = quarters ∧
        4 * m ≤ quarters + 2 ∧ quarters < 4 * m ∧
          4 * m + (quarters + 2) * 10 ^ 16 < (4 * m + 4) * 10 ^ 16 := by
    refine ⟨_, rfl, ?_⟩
    unfold hiddenBit
    split <;> omega
  have hi : Interval.around m e =
      ⟨4 * m * up, quarters * up, (4 * m + 2) * up, scale, m % 2 == 0⟩ := by
    rw [Interval.around, hquarters, hup, hscale]
    rfl
  have hupos : 0 < up := hup ▸ Nat.two_pow_pos _
  have hspos : 0 < scale := hscale ▸ Nat.two_pow_pos _
  have hmul : ∀ c : ℚ, c * up / scale = c / 4 * 2 ^ e := by
    intro c
    rw [mul_div_assoc, hup, hscale, quarter_place]
    ring
  have hpos : (0 : ℚ) < 2 ^ e := by positivity
  have hle' : (4 * m : ℚ) ≤ quarters + 2 := by exact_mod_cast hle
  have hwide' : (4 * m : ℚ) + (quarters + 2) * 10 ^ 16 < (4 * m + 4) * 10 ^ 16 := by
    exact_mod_cast hwide
  rw [hi]
  constructor
  · exact hspos
  · exact Nat.mul_lt_mul_of_pos_right hlt hupos
  · exact Nat.mul_lt_mul_of_pos_right (by omega) hupos
  · push_cast
    rw [hmul]
    ring
  · push_cast
    rw [hmul]
    have : (m : ℚ) - 1 / 2 ≤ quarters / 4 := by linarith
    gcongr
  · push_cast
    rw [hmul]
    ring
  · push_cast
    rw [← sub_mul, hmul, div_lt_iff₀ (by norm_num)]
    have : (m : ℚ) < (4 * m + 2 - quarters) / 4 * 10 ^ 16 := by linarith
    calc (m : ℚ) * 2 ^ e < (4 * m + 2 - quarters) / 4 * 10 ^ 16 * 2 ^ e := by gcongr
      _ = (4 * m + 2 - quarters) / 4 * 2 ^ e * 10 ^ 16 := by ring

/-- No number is so small that its leading digit is not found. -/
theorem Interval.Around.scale_le {i : Interval} {m : Nat} {e : Int} (h : i.Around m e)
    (hm : 0 < m) (he : -1074 ≤ e) : i.scale ≤ i.centre * 10 ^ 400 := by
  have hsq : (0 : ℚ) < i.scale := by exact_mod_cast h.scale
  have hmq : (1 : ℚ) ≤ m := by exact_mod_cast hm
  have hheight : (8 : ℚ) ^ (-400 : Int) ≤ m * 2 ^ e := by
    have h2 : (2 : ℚ) ^ (3 * (-400) : Int) ≤ 2 ^ e :=
      zpow_le_zpow_right₀ (by norm_num) (by omega)
    rw [zpow_mul, show (2 : ℚ) ^ (3 : Int) = 8 by norm_num] at h2
    calc (8 : ℚ) ^ (-400 : Int) = 1 * 8 ^ (-400 : Int) := (one_mul _).symm
      _ ≤ m * 2 ^ e := mul_le_mul hmq h2 (by positivity) (by positivity)
  have hone : (1 : ℚ) ≤ m * 2 ^ e * 10 ^ 400 :=
    calc (1 : ℚ) = 8 ^ (-400 : Int) * 8 ^ 400 := by
          rw [zpow_neg, zpow_ofNat, inv_mul_cancel₀ (by positivity)]
      _ ≤ m * 2 ^ e * 10 ^ 400 := by
          gcongr
          norm_num
  rw [← h.centre, div_mul_eq_mul_div, le_div_iff₀ hsq, one_mul] at hone
  exact_mod_cast hone

/-! ## 5. The search -/

/-- If the grid of 17 digits is hit, the search ends on a grid of 17 digits at most. -/
theorem Interval.onGrid_search {i : Interval} {top : Int}
    (h17 : (i.onGrid (top - 16)).isSome = true) {more : Nat} (hmore : more ≤ 16) :
    ∃ j : Nat, j ≤ 16 ∧ i.onGrid (top - j) = some (i.search top more) := by
  induction more with
  | zero =>
    obtain ⟨s, hs⟩ := Option.isSome_iff_exists.1 h17
    refine ⟨16, by omega, ?_⟩
    rw [Interval.search]
    simp [hs]
  | succ more ih =>
    rw [Interval.search]
    cases hgrid : i.onGrid (top - (16 - (more + 1 : Nat))) with
    | none => exact ih (by omega)
    | some s =>
      refine ⟨16 - (more + 1), by omega, ?_⟩
      have hcast : ((16 - (more + 1) : Nat) : Int) = 16 - ((more + 1 : Nat) : Int) := by omega
      rw [hcast, hgrid]
      rfl

/-- **The search ends on a point between the ends of the interval, of 17 digits at most.** -/
theorem Interval.search_spec {m : Nat} {e : Int} (hm : 0 < m) (h53 : m < 2 ^ 53)
    (he : -1074 ≤ e) {s : Scientific}
    (hs : s = (Interval.around m e).search
      (leadingExponent (Interval.around m e).centre (Interval.around m e).scale) 16) :
    s.coefficient ≤ 10 ^ 17 ∧ -416 ≤ s.exponent ∧
      ((m : ℚ) - 1 / 2) * 2 ^ e ≤ s.value ∧ s.value ≤ (m + 1 / 2) * 2 ^ e := by
  obtain ⟨i, hi⟩ : ∃ i, i = Interval.around m e := ⟨_, rfl⟩
  have ha := hi ▸ Interval.around_spec e hm h53
  rw [← hi] at hs
  obtain ⟨top, htop⟩ : ∃ top, top = leadingExponent i.centre i.scale := ⟨_, rfl⟩
  rw [← htop] at hs
  obtain ⟨hlow, hhigh⟩ := leadingExponent_spec ha.scale (ha.scale_le hm he)
  rw [← htop] at hlow hhigh
  have h17 : (i.onGrid (top - 16)).isSome = true := by
    refine Interval.onGrid_isSome ha.scale ha.low ha.high (lt_of_le_of_lt ?_ ha.wide)
    rw [zpow_sub₀ (by norm_num), ← ha.centre]
    gcongr
    norm_num
  obtain ⟨j, hj, hgrid⟩ := Interval.onGrid_search h17 (le_refl 16)
  rw [← hs] at hgrid
  obtain ⟨hexp, hcoeff, -⟩ := Interval.of_onGrid hgrid
  obtain ⟨hleft, hright⟩ := Interval.value_of_onGrid ha.scale hgrid
  have hbelow : i.belowOn (top - j) < 10 ^ (j + 1) := by
    refine Interval.belowOn_lt ha.scale ?_
    have : top - j + ((j + 1 : Nat) : Int) = top + 1 := by
      push_cast
      ring
    rw [this]
    exact hhigh
  refine ⟨?_, ?_, le_trans ha.left hleft, ha.right ▸ hright⟩
  · calc s.coefficient ≤ i.belowOn (top - j) + 1 := hcoeff
      _ ≤ 10 ^ (j + 1) := hbelow
      _ ≤ 10 ^ 17 := Nat.pow_le_pow_right (by decide) (by omega)
  · have := leadingExponent_ge i.centre i.scale
    omega

/-- Removing zeros at the end changes the decimal, but not the number. -/
theorem Scientific.trim_spec (s : Scientific) :
    s.trim.value = s.value ∧ s.trim.coefficient ≤ s.coefficient ∧ s.exponent ≤ s.trim.exponent := by
  induction s using Scientific.trim.induct with
  | case1 s h ih =>
    rw [Scientific.trim, if_pos h]
    obtain ⟨hvalue, hcoeff, hexp⟩ := ih
    have hexp' : s.exponent + 1 ≤ (Scientific.trim ⟨s.coefficient / 10, s.exponent + 1⟩).exponent :=
      hexp
    refine ⟨hvalue.trans ?_, le_trans hcoeff (Nat.div_le_self _ _), by omega⟩
    have hten : (s.coefficient : ℚ) = (s.coefficient / 10 : Nat) * 10 := by
      exact_mod_cast (Nat.div_mul_cancel (Nat.dvd_of_mod_eq_zero h.2)).symm
    rw [Scientific.value, Scientific.value, hten, zpow_add₀ (by norm_num), zpow_one]
    ring
  | case2 s h =>
    rw [Scientific.trim, if_neg h]
    exact ⟨rfl, le_refl _, le_refl _⟩

/-- **The shortest decimal of a number has 17 digits at most and differs from the number by half a
unit of its last place at most.** -/
theorem shortest_spec {m : Nat} {e : Int} (hm : 0 < m) (h53 : m < 2 ^ 53) (he : -1074 ≤ e) :
    (shortest m e).coefficient ≤ 10 ^ 17 ∧ -416 ≤ (shortest m e).exponent ∧
      ((m : ℚ) - 1 / 2) * 2 ^ e ≤ (shortest m e).value ∧
        (shortest m e).value ≤ (m + 1 / 2) * 2 ^ e := by
  rw [shortest, if_neg (by omega)]
  obtain ⟨hcoeff, hexp, hleft, hright⟩ := Interval.search_spec hm h53 he rfl
  obtain ⟨hvalue, hle, hge⟩ := Scientific.trim_spec ((Interval.around m e).search
    (leadingExponent (Interval.around m e).centre (Interval.around m e).scale) 16)
  simp only
  rw [hvalue]
  exact ⟨by omega, by omega, hleft, hright⟩

theorem coefficient_shortest_ne_zero {m : Nat} {e : Int} (hm : 0 < m) (h53 : m < 2 ^ 53)
    (he : -1074 ≤ e) : (shortest m e).coefficient ≠ 0 := by
  obtain ⟨-, -, hleft, -⟩ := shortest_spec hm h53 he
  intro hzero
  have hpos : (0 : ℚ) < ((m : ℚ) - 1 / 2) * 2 ^ e := by
    have hmq : (1 : ℚ) ≤ m := by exact_mod_cast hm
    have : (0 : ℚ) < (m : ℚ) - 1 / 2 := by linarith
    positivity
  rw [Scientific.value, hzero, Nat.cast_zero, zero_mul] at hleft
  linarith

/-- The shortest decimal of the largest number. -/
theorem shortest_largest : shortest (2 ^ 53 - 1) 971 = ⟨17976931348623157, 292⟩ := by
  obtain ⟨i, hi⟩ : ∃ i, i = Interval.around (2 ^ 53 - 1) 971 := ⟨_, rfl⟩
  have htop : leadingExponent i.centre i.scale = 308 := by
    have hcount : digitCount (i.centre / i.scale) = 308 + 1 := by
      rw [hi]
      exact digitCount_eq (by decide +kernel) (by decide +kernel)
    have hle : i.scale ≤ i.centre := by
      rw [hi]
      decide +kernel
    rw [leadingExponent, if_pos hle, hcount]
    rfl
  have hsearch : i.search 308 16 = ⟨17976931348623157, 292⟩ := by
    rw [hi]
    decide +kernel
  rw [shortest, if_neg (by decide), ← hi]
  simp only [htop, hsearch]
  rw [Scientific.trim, if_neg (by decide)]

end Vitals.Decimal
