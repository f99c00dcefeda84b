import Mathlib
import Vitals.Decimal.Binary64
import Vitals.Json.Number

/-!
# Products of floating-point numbers that stay in range

A number in a record is read as the product of its digits and a power of ten, both rounded, and a
product out of range is refused. This file bounds such products from above. It fixes

* `Below`, the bound that a mantissa under way keeps while its low digits are shifted out;
* `AtMost`, a normal number from one on, with a bound on its value;
* `RoundsTo`, the number that rounding makes of an exact value.

Main statements: rounding adds at most half a unit of the last place that is kept
(`roundWithAccuracy_exact`); whole numbers and powers of ten become numbers with the bounds one
expects (`atMost_ofNat`, `atMost_powerOfTen`); and a product of two numbers is in range when the
product of their bounds lies below the middle between the largest number and the next power of two
(`isInf_mul_eq_false`).
-/

namespace Vitals.Decimal

open Float.Model Float.Model.UnpackedFloat

/-! ## 1. Shifting digits out -/

/-- The exact value lies at or above the mantissa, and by half a unit above it where the round bit
is set. -/
structure Below (em : ExtendedMantissa) (x : ℚ) : Prop where
  mantissa : (em.mantissa : ℚ) ≤ x
  half : em.roundBit = true → (em.mantissa : ℚ) + 1 / 2 ≤ x

theorem below_exact (m : Nat) : Below (.ofMantissaAndAccuracy m .exact) m :=
  ⟨le_refl _, by simp [ExtendedMantissa.ofMantissaAndAccuracy]⟩

/-- One digit less halves the value. -/
theorem Below.shiftRightOne {em : ExtendedMantissa} {x : ℚ} (h : Below em x) :
    Below em.shiftRightOne (x / 2) := by
  have hsplit : (em.mantissa : ℚ) = 2 * (em.mantissa / 2 : Nat) + (em.mantissa % 2 : Nat) := by
    exact_mod_cast (Nat.div_add_mod em.mantissa 2).symm
  have hm := h.mantissa
  constructor
  · show ((em.mantissa / 2 : Nat) : ℚ) ≤ x / 2
    have : (0 : ℚ) ≤ (em.mantissa % 2 : Nat) := by positivity
    linarith
  · intro hr
    have hodd : em.mantissa % 2 = 1 := by
      have : em.mantissa % 2 ≠ 0 := by simpa [ExtendedMantissa.shiftRightOne] using hr
      omega
    show ((em.mantissa / 2 : Nat) : ℚ) + 1 / 2 ≤ x / 2
    rw [hodd] at hsplit
    push_cast at hsplit
    linarith

theorem Below.shiftRight {em : ExtendedMantissa} {x : ℚ} (h : Below em x) (k : Nat) :
    Below (em >>> k) (x / 2 ^ k) := by
  change Below (k.repeat ExtendedMantissa.shiftRightOne em) _
  induction k with
  | zero => simpa [Nat.repeat] using h
  | succ k ih =>
    have hs := ih.shiftRightOne
    rw [div_div, ← pow_succ] at hs
    exact hs

/-- **Rounding goes up by half a unit at most.** -/
theorem Below.roundedMantissa {em : ExtendedMantissa} {x : ℚ} (h : Below em x) :
    (em.roundedMantissa : ℚ) ≤ x + 1 / 2 := by
  have hm := h.mantissa
  have hh := h.half
  rcases em with ⟨m, _ | _, sticky⟩
  · cases sticky <;>
      simp only [ExtendedMantissa.roundedMantissa, ExtendedMantissa.accuracy,
        Accuracy.roundToNearestEven] <;> linarith
  · have hhalf : (m : ℚ) + 1 / 2 ≤ x := hh rfl
    have hone : ((m % 2 : Nat) : ℚ) ≤ 1 := by
      exact_mod_cast Nat.lt_succ_iff.1 (Nat.mod_lt m (by decide))
    cases sticky <;>
      simp only [ExtendedMantissa.roundedMantissa, ExtendedMantissa.accuracy,
        Accuracy.roundToNearestEven] <;> push_cast <;> linarith

theorem mantissa_le_roundedMantissa (em : ExtendedMantissa) :
    em.mantissa ≤ em.roundedMantissa := by
  rcases em with ⟨m, round, sticky⟩
  cases round <;> cases sticky <;>
    simp [ExtendedMantissa.roundedMantissa, ExtendedMantissa.accuracy,
      Accuracy.roundToNearestEven]

theorem mantissa_shiftRight (em : ExtendedMantissa) (k : Nat) :
    (em >>> k).mantissa = em.mantissa / 2 ^ k := by
  change (k.repeat ExtendedMantissa.shiftRightOne em).mantissa = _
  induction k with
  | zero => simp [Nat.repeat]
  | succ k ih =>
    show (k.repeat ExtendedMantissa.shiftRightOne em).mantissa / 2 = _
    rw [ih, Nat.div_div_eq_div_mul, Nat.pow_succ]

/-! ## 2. Rounding -/

/-- The place of the last digit that is kept of `m · 2 ^ e`. -/
def lastPlace (m : Nat) (e : Int) : Int :=
  (m.log2 : Int) + e - 52

theorem targetExponent_eq {m : Nat} {e : Int} (h : -1074 ≤ lastPlace m e) :
    Format.binary64.targetExponent (totalExponent m e) = lastPlace m e := by
  simp only [Format.targetExponent, totalExponent, Format.mantissaBits, Format.minExponent,
    lastPlace] at *
  omega

/-- Where the last digit to keep is the last one there is, nothing is shifted out. -/
theorem shiftToTargetExponent_of_le {m : Nat} {e : Int} (hl : -1074 ≤ lastPlace m e)
    (h : lastPlace m e ≤ e) :
    shiftToTargetExponent .binary64 m e .exact = (⟨m, false, false⟩, e) := by
  have hk : (lastPlace m e - e).toNat = 0 := by omega
  simp [shiftToTargetExponent, targetExponent_eq hl, shiftToExponent, hk,
    HShiftRight.hShiftRight, Nat.repeat, ExtendedMantissa.ofMantissaAndAccuracy]

/-- A normal mantissa that rounding carried over loses one more digit, a zero. -/
theorem shiftToTargetExponent_carry {e : Int} (he : -1074 ≤ e) :
    shiftToTargetExponent .binary64 (2 ^ 53) e .exact = (⟨2 ^ 52, false, false⟩, e + 1) := by
  have hp : lastPlace (2 ^ 53) e = e + 1 := by
    simp only [lastPlace, Nat.log2_two_pow]
    omega
  have hk : (lastPlace (2 ^ 53) e - e).toNat = 1 := by omega
  unfold shiftToTargetExponent
  rw [targetExponent_eq (by omega)]
  simp only [shiftToExponent, hk]
  rfl

/-- What rounding makes of `m · 2 ^ e`: a number of 53 digits, a multiple `q` of the last place
that is kept, and at most half of that place above the exact value. -/
structure Rounded (m : Nat) (e : Int) (r : Nat) (f : Int) : Prop where
  log2 : r.log2 = 52
  place : lastPlace m e ≤ f
  value : ∃ q : Nat, (r : ℚ) * 2 ^ f = q * 2 ^ lastPlace m e ∧
    (q : ℚ) * 2 ^ lastPlace m e ≤ m * 2 ^ e + 2 ^ (lastPlace m e - 1)

theorem half_place (p : Int) : (2 : ℚ) ^ (p - 1) = 1 / 2 * 2 ^ p := by
  rw [zpow_sub₀ (by norm_num), zpow_one]
  ring

/-- Half a unit of the last place, in units of one. -/
theorem add_half_mul_place (m k : Nat) (e : Int) :
    ((m : ℚ) / 2 ^ k + 1 / 2) * 2 ^ (e + k) = m * 2 ^ e + 2 ^ (e + k - 1) := by
  have hshifted : (m : ℚ) / 2 ^ k * 2 ^ (e + k) = m * 2 ^ e := by
    rw [zpow_add₀ (by norm_num), zpow_natCast]
    field_simp
  rw [add_mul, hshifted, half_place]

/-- The digits of an exact value down to the last place that is kept, rounded: 53 of them, unless
rounding carried over. -/
theorem shiftToTargetExponent_exact {m : Nat} {e : Int} (hm : 52 ≤ m.log2)
    (hl : -1074 ≤ lastPlace m e) :
    ∃ em, shiftToTargetExponent .binary64 m e .exact = (em, lastPlace m e) ∧
      2 ^ 52 ≤ em.roundedMantissa ∧ em.roundedMantissa ≤ 2 ^ 53 ∧
      (em.roundedMantissa : ℚ) * 2 ^ lastPlace m e ≤ m * 2 ^ e + 2 ^ (lastPlace m e - 1) := by
  have hm0 : m ≠ 0 := by
    rintro rfl
    simp at hm
  obtain ⟨k, hk⟩ : ∃ k : Nat, m.log2 = 52 + k := ⟨m.log2 - 52, by omega⟩
  have hplace : lastPlace m e = e + k := by
    simp only [lastPlace]
    omega
  obtain ⟨em, hem⟩ : ∃ em, em = ExtendedMantissa.ofMantissaAndAccuracy m .exact >>> k := ⟨_, rfl⟩
  have hfloor : em.mantissa = m / 2 ^ k := by
    rw [hem, mantissa_shiftRight]
    rfl
  have hbelow : (em.roundedMantissa : ℚ) ≤ m / 2 ^ k + 1 / 2 :=
    (hem ▸ (below_exact m).shiftRight k : Below em _).roundedMantissa
  refine ⟨em, ?_, ?_, ?_, ?_⟩
  · simp [shiftToTargetExponent, targetExponent_eq hl, shiftToExponent, hem, hplace]
  · have hdigits : 2 ^ (52 + k) ≤ m := hk ▸ Nat.log2_self_le hm0
    have hfloor52 : 2 ^ 52 ≤ m / 2 ^ k := by
      rw [Nat.le_div_iff_mul_le (Nat.two_pow_pos k), ← Nat.pow_add]
      exact hdigits
    exact le_trans (hfloor ▸ hfloor52) (mantissa_le_roundedMantissa em)
  · have hdigits : m < 2 ^ (53 + k) := by
      have hlog := Nat.lt_log2_self (n := m)
      rwa [hk, show 52 + k + 1 = 53 + k by omega] at hlog
    have hquotient : (m : ℚ) / 2 ^ k < 2 ^ 53 := by
      rw [div_lt_iff₀ (by positivity), ← pow_add]
      exact_mod_cast hdigits
    have hlt : (em.roundedMantissa : ℚ) < (2 ^ 53 : Nat) + 1 := by
      push_cast
      linarith
    exact Nat.lt_succ_iff.1 (by exact_mod_cast hlt)
  · rw [hplace, ← add_half_mul_place]
    gcongr

/-- **Rounding an exact value of at least 53 digits.** -/
theorem roundWithAccuracy_exact (s : Sign) {m : Nat} {e : Int} (hm : 52 ≤ m.log2)
    (hl : -1074 ≤ lastPlace m e) :
    ∃ r f, ∃ h : 0 < r, roundWithAccuracy .binary64 s m e .exact = .finite s r f h ∧
      Rounded m e r f := by
  obtain ⟨em, hfirst, hlow, hhigh, hvalue⟩ := shiftToTargetExponent_exact hm hl
  obtain ⟨p, hp⟩ : ∃ p, p = lastPlace m e := ⟨_, rfl⟩
  rw [← hp] at hfirst hl
  by_cases hcarry : em.roundedMantissa = 2 ^ 53
  · refine ⟨2 ^ 52, p + 1, by decide, ?_, Nat.log2_two_pow, by omega, em.roundedMantissa, ?_,
      hvalue⟩
    · rw [roundWithAccuracy, hfirst]
      simp only [hcarry, shiftToTargetExponent_carry hl]
      rfl
    · rw [hcarry, ← hp, zpow_add₀ (by norm_num) p 1]
      push_cast
      ring
  · have hr : em.roundedMantissa.log2 = 52 :=
      (Nat.log2_eq_iff (by omega)).2 ⟨hlow, by omega⟩
    have hsame : lastPlace em.roundedMantissa p = p := by
      simp only [lastPlace, hr]
      omega
    have hl' : -1074 ≤ lastPlace em.roundedMantissa p := by omega
    refine ⟨em.roundedMantissa, p, by omega, ?_, hr, by omega, em.roundedMantissa, ?_, hvalue⟩
    · rw [roundWithAccuracy, hfirst]
      simp only [shiftToTargetExponent_of_le hl' (le_of_eq hsame)]
      rw [dif_neg (by omega)]
    · rw [hp]

/-! ## 3. Normal numbers with a bound -/

/-- A positive normal number, from one on and at most `a`. -/
def UnpackedAtMost (u : Float.Model.UnpackedFloat) (a : ℚ) : Prop :=
  ∃ m e, ∃ h : 0 < m, u = .finite .positive m e h ∧ m.log2 = 52 ∧ -52 ≤ e ∧ (m : ℚ) * 2 ^ e ≤ a

/-- A positive normal number, from one on and at most `a`. -/
def AtMost (x : Float) (a : ℚ) : Prop :=
  UnpackedAtMost x.toModel.unpack a

theorem UnpackedAtMost.mono {u : Float.Model.UnpackedFloat} {a b : ℚ} (h : UnpackedAtMost u a)
    (hab : a ≤ b) : UnpackedAtMost u b := by
  obtain ⟨m, e, hm, hu, hlog, he, ha⟩ := h
  exact ⟨m, e, hm, hu, hlog, he, le_trans ha hab⟩

/-- The place of the last digit of the largest numbers. -/
def topPlace : Int := 971

theorem unpackSign_components (s : Sign) (e : BitVec 11) (m : BitVec 52) :
    unpackSign (packComponents .binary64 s e m) = s.toBitVec := by
  simp only [unpackSign, packComponents, BitVec.extractLsb]
  rw [BitVec.extractLsb'_append_eq_of_le (by omega), BitVec.extractLsb'_append_eq_of_le (by omega)]
  cases s <;> rfl

/-- A normal number is packed without loss as long as its exponent is in range. -/
theorem unpack_pack {s : Sign} {m : Nat} {e : Int} {h : 0 < m} (hm : m.log2 = 52)
    (hl : -1074 ≤ e) (hh : e ≤ topPlace) :
    (Float.Model.pack (.finite s m e h)).unpack = .finite s m e h := by
  obtain ⟨hlow, hhigh⟩ := (Nat.log2_eq_iff (Nat.ne_of_gt h)).1 hm
  obtain ⟨b, hb⟩ : ∃ b : Nat, e = (b : Int) - 1075 := ⟨(e + 1075).toNat, by omega⟩
  have hh' : e ≤ 971 := hh
  subst hb
  have hmant : (1#1 ++ BitVec.ofNat 52 m).toNat = m := by
    rw [BitVec.toNat_append, ← Nat.shiftLeft_add_eq_or_of_lt (BitVec.isLt _)]
    simp only [BitVec.toNat_ofNat, Nat.shiftLeft_eq]
    omega
  have hexp : (BitVec.ofNat 11 b).toNat = b := by
    rw [BitVec.toNat_ofNat, Nat.mod_eq_of_lt (by omega)]
  have hne : BitVec.ofNat 11 b ≠ -1#11 ∧ BitVec.ofNat 11 b ≠ 0#11 := by
    constructor <;> intro hcon <;> rw [hcon] at hexp <;> simp at hexp <;> omega
  have hpack : UnpackedFloat.pack .binary64 (.finite s m ((b : Int) - 1075) h) =
      packComponents .binary64 s (BitVec.ofNat 11 b) (BitVec.ofNat 52 m) := by
    have hbias :
        ((b : Int) - 1075 + (Format.binary64.exponentBias : Nat) + (52 : Nat)).toNat = b := by
      simp only [Format.exponentBias]
      omega
    unfold UnpackedFloat.pack
    simp only [hbias, hm]
    rw [if_neg (by omega), if_pos (by rfl)]
  unfold Float.Model.unpack Float.Model.pack
  simp only [hpack, UnpackedFloat.unpack, unpackExponent_packComponents,
    unpackMantissa_packComponents, unpackSign_components]
  rw [if_neg hne.1, if_neg hne.2]
  simp only [hmant, hexp]
  congr 1
  · cases s <;> rfl

theorem pack_atMost {u : Float.Model.UnpackedFloat} {a : ℚ} (h : UnpackedAtMost u a)
    (ha : a < 2 ^ (53 + topPlace)) : (Float.Model.pack u).unpack = u := by
  obtain ⟨m, e, hm, rfl, hlog, he, hle⟩ := h
  refine unpack_pack hlog (by omega) ?_
  by_contra hcon
  have h52 : (2 : ℚ) ^ (52 : Int) ≤ m := by
    exact_mod_cast hlog ▸ Nat.log2_self_le (Nat.ne_of_gt hm)
  have hnext : (2 : ℚ) ^ (1 + topPlace) ≤ 2 ^ e :=
    zpow_le_zpow_right₀ (by norm_num) (by omega)
  have hbig : (2 : ℚ) ^ (53 + topPlace) ≤ m * 2 ^ e :=
    calc (2 : ℚ) ^ (53 + topPlace) = 2 ^ (52 : Int) * 2 ^ (1 + topPlace) := by
          rw [← zpow_add₀ (by norm_num)]
          congr 1
      _ ≤ m * 2 ^ e := mul_le_mul h52 hnext (by positivity) (by positivity)
  linarith

/-- Packing keeps the bound. -/
theorem UnpackedAtMost.pack {u : Float.Model.UnpackedFloat} {a : ℚ} (h : UnpackedAtMost u a)
    (ha : a < 2 ^ (53 + topPlace)) : UnpackedAtMost (Float.Model.pack u).unpack a := by
  rw [pack_atMost h ha]
  exact h

theorem isInf_eq_false_of_atMost {x : Float} {a : ℚ} (h : AtMost x a) : x.isInf = false := by
  obtain ⟨m, e, hm, hu, -⟩ := h
  show x.toModel.unpack.isInf = false
  rw [hu]
  rfl

/-! ## 4. Rounded values -/

/-- The place of the last digit that is kept is below the one that is 53 digits below a bound. -/
theorem lastPlace_le {m : Nat} {e g : Int} (hm : m ≠ 0) (h : (m : ℚ) * 2 ^ e < 2 ^ (53 + g)) :
    lastPlace m e ≤ g := by
  have hlog : (2 : ℚ) ^ m.log2 ≤ m := by exact_mod_cast Nat.log2_self_le hm
  have hlt : (2 : ℚ) ^ ((m.log2 : Int) + e) < 2 ^ (53 + g) := by
    rw [zpow_add₀ (by norm_num), zpow_natCast]
    exact lt_of_le_of_lt (by gcongr) h
  have := (zpow_lt_zpow_iff_right₀ (by norm_num : (1 : ℚ) < 2)).1 hlt
  simp only [lastPlace]
  omega

/-- **A rounded number stays below every multiple, at or above the exact value, of the place of
its last digit.** -/
theorem Rounded.le_of_le {m r : Nat} {e f g : Int} {c : Nat} (h : Rounded m e r f)
    (hg : lastPlace m e ≤ g) (hc : (m : ℚ) * 2 ^ e ≤ c * 2 ^ g) : (r : ℚ) * 2 ^ f ≤ c * 2 ^ g := by
  obtain ⟨q, hq, hle⟩ := h.value
  obtain ⟨d, hd⟩ : ∃ d : Nat, g = lastPlace m e + d := ⟨(g - lastPlace m e).toNat, by omega⟩
  have hpos : (0 : ℚ) < 2 ^ lastPlace m e := by positivity
  have hcd : (c : ℚ) * 2 ^ g = (c * 2 ^ d : Nat) * 2 ^ lastPlace m e := by
    rw [hd, zpow_add₀ (by norm_num), zpow_natCast]
    push_cast
    ring
  have hlt : (q : ℚ) < (c * 2 ^ d : Nat) + 1 := by
    have : (q : ℚ) * 2 ^ lastPlace m e ≤ ((c * 2 ^ d : Nat) + 1 / 2) * 2 ^ lastPlace m e := by
      rw [add_mul, ← hcd, ← half_place]
      linarith
    have := le_of_mul_le_mul_right this hpos
    linarith
  have hqc : q ≤ c * 2 ^ d := Nat.lt_succ_iff.1 (by exact_mod_cast hlt)
  rw [hq, hcd]
  gcongr

/-- **A rounded number is greater than the exact value by one part in `2 ^ 53` at most.** -/
theorem Rounded.le_relative {m r : Nat} {e f : Int} (h : Rounded m e r f) (hm : m ≠ 0) :
    (r : ℚ) * 2 ^ f ≤ m * 2 ^ e * (1 + 2 ^ (-53 : Int)) := by
  obtain ⟨q, hq, hle⟩ := h.value
  have hlog : (2 : ℚ) ^ m.log2 ≤ m := by exact_mod_cast Nat.log2_self_le hm
  have hhalf : (2 : ℚ) ^ (lastPlace m e - 1) ≤ m * 2 ^ e * 2 ^ (-53 : Int) := by
    have : lastPlace m e - 1 = (m.log2 : Int) + e + -53 := by
      simp only [lastPlace]
      omega
    rw [this, zpow_add₀ (by norm_num), zpow_add₀ (by norm_num), zpow_natCast]
    gcongr
  rw [hq, mul_add, mul_one]
  linarith

/-- The number `u` is what rounding makes of the exact value `x`, which is from one on. -/
def RoundsTo (x : ℚ) (u : Float.Model.UnpackedFloat) : Prop :=
  ∃ m e r f, ∃ h : 0 < r, u = .finite .positive r f h ∧ Rounded m e r f ∧ m ≠ 0 ∧
    -52 ≤ lastPlace m e ∧ (m : ℚ) * 2 ^ e = x

theorem roundsTo_exact {m : Nat} {e : Int} (hm : 52 ≤ m.log2) (hl : -52 ≤ lastPlace m e) :
    RoundsTo (m * 2 ^ e) (roundWithAccuracy .binary64 .positive m e .exact) := by
  have hm0 : m ≠ 0 := by
    rintro rfl
    simp at hm
  have hl' : -1074 ≤ lastPlace m e := by omega
  obtain ⟨r, f, h, hround, hr⟩ := roundWithAccuracy_exact .positive hm hl'
  exact ⟨m, e, r, f, h, hround, hr, hm0, hl, rfl⟩

/-- A value does not round beyond a multiple, at or above it, of a power of two that is at most 53
digits below it. -/
theorem RoundsTo.atMost {x : ℚ} {u : Float.Model.UnpackedFloat} {c : Nat} {g : Int}
    (h : RoundsTo x u) (hle : x ≤ c * 2 ^ g) (hlt : x < 2 ^ (53 + g)) :
    UnpackedAtMost u (c * 2 ^ g) := by
  obtain ⟨m, e, r, f, hpos, rfl, hr, hm, hl, rfl⟩ := h
  have hplace : lastPlace m e ≤ g := lastPlace_le hm hlt
  exact ⟨r, f, hpos, rfl, hr.log2, le_trans hl hr.place, hr.le_of_le hplace hle⟩

theorem RoundsTo.atMost_relative {x : ℚ} {u : Float.Model.UnpackedFloat} (h : RoundsTo x u) :
    UnpackedAtMost u (x * (1 + 2 ^ (-53 : Int))) := by
  obtain ⟨m, e, r, f, hpos, rfl, hr, hm, hl, rfl⟩ := h
  exact ⟨r, f, hpos, rfl, hr.log2, le_trans hl hr.place, hr.le_relative hm⟩

/-! ## 5. Products -/

/-- The product of two normal numbers from one on, before it is packed. -/
theorem UnpackedAtMost.mul_roundsTo {u w : Float.Model.UnpackedFloat} {a b : ℚ}
    (hu : UnpackedAtMost u a) (hw : UnpackedAtMost w b) :
    ∃ x, x ≤ a * b ∧ RoundsTo x (mul .binary64 u w) := by
  obtain ⟨m₁, e₁, h₁, rfl, hlog₁, he₁, ha⟩ := hu
  obtain ⟨m₂, e₂, h₂, rfl, hlog₂, he₂, hb⟩ := hw
  have hm₁ := hlog₁ ▸ Nat.log2_self_le (Nat.ne_of_gt h₁)
  have hm₂ := hlog₂ ▸ Nat.log2_self_le (Nat.ne_of_gt h₂)
  have hlog : 104 ≤ (m₁ * m₂).log2 := by
    have h104 : 2 ^ 104 ≤ m₁ * m₂ :=
      calc 2 ^ 104 = 2 ^ 52 * 2 ^ 52 := by norm_num
        _ ≤ m₁ * m₂ := Nat.mul_le_mul hm₁ hm₂
    exact (Nat.le_log2 (Nat.mul_ne_zero (by omega) (by omega))).2 h104
  have hl : -52 ≤ lastPlace (m₁ * m₂) (e₁ + e₂) := by
    simp only [lastPlace]
    omega
  refine ⟨(m₁ * m₂ : Nat) * 2 ^ (e₁ + e₂), ?_, roundsTo_exact (by omega) hl⟩
  calc ((m₁ * m₂ : Nat) : ℚ) * 2 ^ (e₁ + e₂) = m₁ * 2 ^ e₁ * (m₂ * 2 ^ e₂) := by
        rw [zpow_add₀ (by norm_num)]
        push_cast
        ring
    _ ≤ a * b := mul_le_mul ha hb (by positivity) (le_trans (by positivity) ha)

/-- **A product does not exceed a multiple, at or above the exact product, of a power of two that
is at most 53 digits below it.** -/
theorem AtMost.mul {x y : Float} {a b : ℚ} {c : Nat} {g : Int} (hx : AtMost x a)
    (hy : AtMost y b) (hle : a * b ≤ c * 2 ^ g) (hlt : a * b < 2 ^ (53 + g))
    (hc : (c : ℚ) * 2 ^ g < 2 ^ (53 + topPlace)) : AtMost (x * y) (c * 2 ^ g) := by
  obtain ⟨v, hv, hround⟩ := UnpackedAtMost.mul_roundsTo hx hy
  have hat := hround.atMost (le_trans hv hle) (lt_of_le_of_lt hv hlt)
  exact hat.pack hc

/-- The middle between the largest number and the next power of two, from which on a value rounds
out of range. -/
def rangeEnd : ℚ :=
  (2 ^ 54 - 1) * 2 ^ (topPlace - 1)

/-- The middle between the two largest numbers. -/
def secondEnd : Nat :=
  (2 ^ 54 - 3) * 2 ^ 970

theorem rangeEnd_add : rangeEnd + 2 ^ (topPlace - 1) = 2 ^ (53 + topPlace) := by
  have : (2 : ℚ) ^ (53 + topPlace) = 2 ^ (54 : Int) * 2 ^ (topPlace - 1) := by
    rw [← zpow_add₀ (by norm_num)]
    congr 1
  rw [this, zpow_ofNat, rangeEnd]
  ring

theorem secondEnd_eq : (secondEnd : ℚ) = (2 ^ 54 - 3) * 2 ^ (topPlace - 1) := by
  show (((2 ^ 54 - 3) * 2 ^ 970 : Nat) : ℚ) = (2 ^ 54 - 3) * 2 ^ ((970 : Nat) : Int)
  rw [zpow_natCast, Nat.cast_mul, Nat.cast_pow, Nat.cast_ofNat]
  norm_num

/-- Below the middle between the two largest numbers there is room for one more rounding. -/
theorem secondEnd_mul_lt : (secondEnd : ℚ) * (1 + 2 ^ (-53 : Int)) < rangeEnd := by
  have hfactor : ((2 : ℚ) ^ 54 - 3) * (1 + 2 ^ (-53 : Int)) < 2 ^ 54 - 1 := by norm_num
  have hpos : (0 : ℚ) < 2 ^ (topPlace - 1) := by positivity
  calc (secondEnd : ℚ) * (1 + 2 ^ (-53 : Int))
      = ((2 ^ 54 - 3) * (1 + 2 ^ (-53 : Int))) * 2 ^ (topPlace - 1) := by
        rw [secondEnd_eq]
        ring
    _ < (2 ^ 54 - 1) * 2 ^ (topPlace - 1) := mul_lt_mul_of_pos_right hfactor hpos

/-- What rounds to a number other than the largest one ends at that middle or before. -/
theorem le_secondEnd {m : Nat} {e : Int} (h53 : m < 2 ^ 53) (he : e ≤ topPlace)
    (hmax : ¬ (m = 2 ^ 53 - 1 ∧ e = topPlace)) : ((m : ℚ) + 1 / 2) * 2 ^ e ≤ secondEnd := by
  have hpos : (0 : ℚ) < 2 ^ (topPlace - 1) := by positivity
  rw [secondEnd_eq]
  by_cases htop : e = topPlace
  · have hm : m ≤ 2 ^ 53 - 2 := by omega
    have hm' : (m : ℚ) ≤ 2 ^ 53 - 2 := by
      have : ((2 ^ 53 - 2 : Nat) : ℚ) = 2 ^ 53 - 2 := by norm_num
      rw [← this]
      exact_mod_cast hm
    have htwo : (2 : ℚ) ^ topPlace = 2 * 2 ^ (topPlace - 1) := by
      rw [half_place]
      ring
    rw [htop, htwo, ← mul_assoc]
    refine mul_le_mul_of_nonneg_right ?_ hpos.le
    linarith
  · have hm' : (m : ℚ) + 1 ≤ 2 ^ 53 := by exact_mod_cast h53
    refine mul_le_mul ?_ (zpow_le_zpow_right₀ (by norm_num) (by omega)) (by positivity)
      (by norm_num)
    linarith

/-- A value below the middle between the largest number and the next power of two rounds to a number
in range. -/
theorem RoundsTo.inRange {x : ℚ} {u : Float.Model.UnpackedFloat} (h : RoundsTo x u)
    (hx : x < rangeEnd) : ∃ a, a < 2 ^ (53 + topPlace) ∧ UnpackedAtMost u a := by
  obtain ⟨m, e, r, f, hpos, rfl, hr, hm, hl, rfl⟩ := h
  have hend := rangeEnd_add
  have hunit : (0 : ℚ) < 2 ^ (topPlace - 1) := by positivity
  have hplace : lastPlace m e ≤ topPlace := by
    have hlt : (m : ℚ) * 2 ^ e < 2 ^ (53 + topPlace) := by linarith
    exact lastPlace_le hm hlt
  -- half of the last place is not enough to reach the next power of two
  have hhalf : (2 : ℚ) ^ (lastPlace m e - 1) ≤ 2 ^ (topPlace - 1) :=
    zpow_le_zpow_right₀ (by norm_num) (by omega)
  obtain ⟨q, hq, hle⟩ := hr.value
  refine ⟨r * 2 ^ f, ?_, r, f, hpos, rfl, hr.log2, le_trans hl hr.place, le_refl _⟩
  rw [hq]
  linarith

/-- **A product is in range when the product of the bounds is.** -/
theorem isInf_mul_eq_false {x y : Float} {a b : ℚ} (hx : AtMost x a) (hy : AtMost y b)
    (hab : a * b < rangeEnd) : (x * y).isInf = false := by
  obtain ⟨v, hv, hround⟩ := UnpackedAtMost.mul_roundsTo hx hy
  obtain ⟨c, hc, hat⟩ := hround.inRange (lt_of_le_of_lt hv hab)
  have hxy : AtMost (x * y) c := hat.pack hc
  exact isInf_eq_false_of_atMost hxy

/-! ## 6. Whole numbers and powers of ten -/

/-- A decimal with a natural exponent is rounded once. -/
theorem ofScientific_roundsTo {v : Nat} (hv : v ≠ 0) {n : Nat} (hn : n ≤ 308) :
    RoundsTo (v * 10 ^ n) (ofScientific .binary64 v n) := by
  have h10 : 0 < 10 ^ n := Nat.pow_pos (by decide)
  have hshift : v <<< 53 = v * 2 ^ 53 := Nat.shiftLeft_eq v 53
  have hlow : 2 ^ 53 ≤ v <<< 53 * 10 ^ n := by
    rw [hshift]
    calc 2 ^ 53 = 1 * 2 ^ 53 * 1 := by norm_num
      _ ≤ v * 2 ^ 53 * 10 ^ n := by gcongr <;> omega
  have hlog : 53 ≤ (v <<< 53 * 10 ^ n).log2 := (Nat.le_log2 (by omega)).2 hlow
  have hl : -52 ≤ lastPlace (v <<< 53 * 10 ^ n) (-53 + 0) := by
    simp only [lastPlace]
    omega
  have hexact : ofScientific .binary64 v n =
      roundWithAccuracy .binary64 .positive (v <<< 53 * 10 ^ n) (-53 + 0) .exact := by
    have hsmall : ¬ ((n : Int) < -(2 ^ 11 + (v.log2 : Int))) := by omega
    have hlarge : ¬ ((n : Int) > 2 ^ 11) := by omega
    unfold UnpackedFloat.ofScientific
    rw [dif_neg hv, if_neg hlarge, if_neg hsmall, if_pos (by omega)]
    rfl
  have hvalue : ((v <<< 53 * 10 ^ n : Nat) : ℚ) * 2 ^ (-53 + 0 : Int) = v * 10 ^ n := by
    rw [hshift, Int.add_zero, zpow_neg]
    push_cast
    field_simp
  rw [hexact, ← hvalue]
  exact roundsTo_exact (by omega) hl

/-- A whole number is rounded once. -/
theorem round_roundsTo {v : Nat} (hv : v ≠ 0) :
    RoundsTo v (round .binary64 .positive v 0) := by
  obtain ⟨k, hk⟩ : ∃ k : Nat, (0 - lastPlace v 0).toNat = k := ⟨_, rfl⟩
  have hlv : lastPlace v 0 = (v.log2 : Int) - 52 := by
    simp only [lastPlace]
    omega
  have hshift : v <<< k = v * 2 ^ k := Nat.shiftLeft_eq v k
  have hlog : v.log2 + k ≤ (v <<< k).log2 := by
    refine (Nat.le_log2 (by rw [hshift]; positivity)).2 ?_
    rw [hshift, Nat.pow_add]
    exact Nat.mul_le_mul_right _ (Nat.log2_self_le hv)
  have hl : -52 ≤ lastPlace (v <<< k) (0 - k) := by
    simp only [lastPlace]
    omega
  have hexact : round .binary64 .positive v 0 =
      roundWithAccuracy .binary64 .positive (v <<< k) (0 - k) .exact := by
    rw [UnpackedFloat.round, targetExponent_eq (by omega)]
    simp only [decreaseExponent, hk]
  have hvalue : ((v <<< k : Nat) : ℚ) * 2 ^ (0 - k : Int) = v := by
    rw [hshift, zero_sub, zpow_neg, zpow_natCast]
    push_cast
    field_simp
  rw [hexact, ← hvalue]
  exact roundsTo_exact (by omega) hl

theorem atMost_toFloat {v : Nat} (hv : v ≠ 0) (h53 : v < 2 ^ 53) :
    AtMost v.toUInt64.toFloat v := by
  have hword : v.toUInt64.toNat = v := by
    rw [Nat.toUInt64_eq, UInt64.toNat_ofNat', Nat.mod_eq_of_lt (by omega)]
  have hnormal : UnpackedFloat.ofUInt64 .binary64 v.toUInt64 = round .binary64 .positive v 0 := by
    rw [UnpackedFloat.ofUInt64, hword, UnpackedFloat.ofNat, UnpackedFloat.ofInt,
      UnpackedFloat.normalize, Int.compare_eq_gt.2 (by omega)]
    rfl
  have hlt : (v : ℚ) < 2 ^ (53 + (0 : Int)) := by exact_mod_cast h53
  have hat := (round_roundsTo hv).atMost (c := v) (g := 0) (by simp) hlt
  rw [← hnormal, zpow_zero, mul_one] at hat
  refine hat.pack ?_
  calc (v : ℚ) < 2 ^ (53 + (0 : Int)) := hlt
    _ ≤ 2 ^ (53 + topPlace) := zpow_le_zpow_right₀ (by norm_num) (by decide)

theorem atMost_one : AtMost Float.exactlyRepresentablePowersOfTen[0] 1 :=
  ⟨2 ^ 52, -52, by decide, by rfl, Nat.log2_two_pow, by decide, by norm_num⟩

/-- **A whole number becomes a number that does not exceed a multiple, at or above it, of a power
of two that is at most 53 digits below it.** -/
theorem atMost_ofNat {v c g : Nat} (hv : v ≠ 0) (hle : v ≤ c * 2 ^ g) (hlt : v < 2 ^ (53 + g))
    (hc : c * 2 ^ g < 2 ^ 1024) : AtMost (Float.ofNat v) (c * 2 ^ g) := by
  have hle' : (v : ℚ) ≤ c * 2 ^ (g : Int) := by exact_mod_cast hle
  have hlt' : (v : ℚ) < 2 ^ (53 + (g : Int)) := by exact_mod_cast hlt
  have hc' : (c : ℚ) * 2 ^ (g : Int) < 2 ^ (53 + topPlace) := by
    show _ < (2 : ℚ) ^ ((1024 : Nat) : Int)
    exact_mod_cast hc
  show AtMost (Float.ofScientific v false 0) _
  unfold Float.ofScientific
  split
  · rename_i h53
    have hx := atMost_toFloat hv h53.1
    have hmul := hx.mul atMost_one (c := c) (g := g) (by simpa using hle') (by simpa using hlt') hc'
    rw [if_neg (by decide)]
    simpa only [zpow_natCast] using hmul
  · have hround := ofScientific_roundsTo hv (n := 0) (by decide)
    rw [pow_zero, mul_one] at hround
    have hat := (hround.atMost hle' hlt').pack hc'
    rwa [zpow_natCast] at hat

/-- Whether a number is normal, from one on and at most `a`. -/
def isAtMost (x : Float) (a : Nat) : Bool :=
  match x.toModel.unpack with
  | .finite .positive m e _ =>
    decide (m.log2 = 52 ∧ -52 ≤ e ∧ m * 2 ^ (e + 52).toNat ≤ a * 2 ^ 52)
  | _ => false

theorem atMost_of_isAtMost {x : Float} {a : Nat} (h : isAtMost x a = true) : AtMost x a := by
  unfold isAtMost at h
  split at h
  · rename_i m e hm hu
    obtain ⟨hlog, he, hle⟩ := of_decide_eq_true h
    refine ⟨m, e, hm, hu, hlog, he, ?_⟩
    obtain ⟨d, hd⟩ : ∃ d : Nat, e = (d : Int) - 52 := ⟨(e + 52).toNat, by omega⟩
    have hd' : (e + 52).toNat = d := by omega
    have hle' : (m : ℚ) * 2 ^ d ≤ a * 2 ^ 52 := by
      rw [hd'] at hle
      exact_mod_cast hle
    rw [hd, zpow_sub₀ (by norm_num), zpow_natCast, ← mul_div_assoc, div_le_iff₀ (by positivity)]
    exact_mod_cast hle'
  · exact absurd h (by decide)

theorem ten_pow_le_secondEnd {n : Nat} (hn : n ≤ 308) : 10 ^ n ≤ secondEnd :=
  le_trans (Nat.pow_le_pow_right (by decide) hn) (by decide +kernel)

/-- The powers of ten that are represented exactly. -/
theorem isAtMost_powerOfTen : ∀ n, n < 23 → isAtMost (Json.powerOfTen n) (10 ^ n) = true := by
  decide +kernel

/-- **A power of ten becomes a number that exceeds it by one part in `2 ^ 53` at most.** -/
theorem atMost_powerOfTen {n : Nat} (hn : n ≤ 308) :
    AtMost (Json.powerOfTen n) (10 ^ n * (1 + 2 ^ (-53 : Int))) := by
  by_cases h : n < 23
  · refine (atMost_of_isAtMost (isAtMost_powerOfTen n h)).mono ?_
    have : (0 : ℚ) ≤ 10 ^ n * 2 ^ (-53 : Int) := by positivity
    push_cast
    linarith
  · have hat := (ofScientific_roundsTo one_ne_zero hn).atMost_relative
    rw [Nat.cast_one, one_mul] at hat
    have hlt : (10 : ℚ) ^ n * (1 + 2 ^ (-53 : Int)) < 2 ^ (53 + topPlace) := by
      have hten : (10 : ℚ) ^ n ≤ secondEnd := by exact_mod_cast ten_pow_le_secondEnd hn
      have hend := rangeEnd_add
      have hpos : (0 : ℚ) < 2 ^ (topPlace - 1) := by positivity
      calc (10 : ℚ) ^ n * (1 + 2 ^ (-53 : Int)) ≤ secondEnd * (1 + 2 ^ (-53 : Int)) := by gcongr
        _ < 2 ^ (53 + topPlace) := by linarith [secondEnd_mul_lt]
    show AtMost (Float.ofScientific 1 false n) _
    unfold Float.ofScientific
    rw [dif_neg (by omega)]
    exact hat.pack hlt

/-! ## 7. Decimals that are read back -/

/-- The largest number is written with 17 digits, and these are read as a number in range. -/
theorem isInf_largest_eq_false :
    (Float.ofNat 17976931348623157 * Json.powerOfTen 292).isInf = false := by
  decide +kernel

theorem isInf_mul_powerOfTen_eq_false {v c g n : Nat} (hv : v ≠ 0) (hle : v ≤ c * 2 ^ g)
    (hlt : v < 2 ^ (53 + g)) (hn : n ≤ 308) (h : c * 2 ^ g * 10 ^ n ≤ secondEnd) :
    (Float.ofNat v * Json.powerOfTen n).isInf = false := by
  have hc : c * 2 ^ g < 2 ^ 1024 := by
    have h10 : 0 < 10 ^ n := Nat.pow_pos (by decide)
    calc c * 2 ^ g ≤ c * 2 ^ g * 10 ^ n := Nat.le_mul_of_pos_right _ h10
      _ ≤ secondEnd := h
      _ < 2 ^ 1024 := by decide +kernel
  refine isInf_mul_eq_false (atMost_ofNat hv hle hlt hc) (atMost_powerOfTen hn) ?_
  have h' : (c : ℚ) * 2 ^ g * 10 ^ n ≤ secondEnd := by exact_mod_cast h
  calc (c : ℚ) * 2 ^ g * (10 ^ n * (1 + 2 ^ (-53 : Int)))
      = c * 2 ^ g * 10 ^ n * (1 + 2 ^ (-53 : Int)) := by ring
    _ ≤ secondEnd * (1 + 2 ^ (-53 : Int)) := by gcongr
    _ < rangeEnd := secondEnd_mul_lt

/-- **A decimal of 17 digits that rounds to the second largest number or to a smaller one is read
as a number in range.** Up to 53 binary digits its coefficient is exact. A longer one meets a
power of ten below `10 ^ 292`, where there is room enough, or that one, where the coefficient is
rounded to an even number. -/
theorem isInf_scaled_eq_false {v n : Nat} (hv : v ≠ 0) (h17 : v ≤ 10 ^ 17) (hn : n ≤ 308)
    (h : v * 10 ^ n ≤ secondEnd) : (Float.ofNat v * Json.powerOfTen n).isInf = false := by
  by_cases h53 : v < 2 ^ 53
  · exact isInf_mul_powerOfTen_eq_false hv (c := v) (g := 0) (by omega) (by omega) hn (by simpa)
  · have hn' : n ≤ 292 := by
      by_contra hcon
      have hv' : 2 ^ 53 ≤ v := by omega
      have hten : 10 ^ 293 ≤ 10 ^ n := pow_le_pow_right₀ (by decide) (by omega)
      have hcmp : secondEnd < v * 10 ^ n :=
        calc secondEnd < 2 ^ 53 * 10 ^ 293 := by decide +kernel
          _ ≤ v * 10 ^ n := Nat.mul_le_mul hv' hten
      omega
    by_cases h292 : n = 292
    · have hdiv : secondEnd / 10 ^ n = 8988465674311578 * 2 ^ 1 := by
        rw [h292]
        decide +kernel
      have hv' : v ≤ secondEnd / 10 ^ n :=
        (Nat.le_div_iff_mul_le (Nat.pow_pos (by decide))).2 h
      rw [hdiv] at hv'
      have hfit : 8988465674311578 * 2 ^ 1 * 10 ^ n ≤ secondEnd := by
        rw [h292]
        decide +kernel
      exact isInf_mul_powerOfTen_eq_false hv hv' (by omega) hn hfit
    · have hroom : 6250000000000000 * 2 ^ 4 * 10 ^ n ≤ secondEnd :=
        calc 6250000000000000 * 2 ^ 4 * 10 ^ n ≤ 6250000000000000 * 2 ^ 4 * 10 ^ 291 :=
              Nat.mul_le_mul_left _ (Nat.pow_le_pow_right (by decide) (by omega))
          _ ≤ secondEnd := by decide +kernel
      exact isInf_mul_powerOfTen_eq_false hv (by omega) (by omega) hn hroom

/-! ## 8. Finite numbers -/

theorem toNat_unpackExponent (b : BitVec 64) :
    (@unpackExponent .binary64 b).toNat = b.toNat / hiddenBit % 2048 := by
  simp [unpackExponent, BitVec.extractLsb, Nat.shiftRight_eq_div_pow, hiddenBit]

/-- Only what is no number, or infinite, has the largest exponent field. -/
theorem field_of_isFinite {x : Float} (hx : x.isFinite = true) :
    x.toBits.toNat / hiddenBit % 2048 ≠ 2047 := by
  intro hcon
  have hexp : @unpackExponent .binary64 x.toModel.toBits.toBitVec = -1#11 := by
    apply BitVec.eq_of_toNat_eq
    rw [toNat_unpackExponent]
    exact hcon
  have hinf : x.toModel.unpack.isFinite = false := by
    unfold Float.Model.unpack UnpackedFloat.unpack
    simp only [hexp]
    split
    · split <;> rfl
    · rename_i hne
      exact absurd trivial hne
  exact absurd (hx.symm.trans hinf) (by decide)

/-- **A finite number has a significand and an exponent in range.** -/
theorem shape_of_isFinite {x : Float} (hx : x.isFinite = true) :
    ∃ negative m e, Shape.ofFloat x = .finite negative m e ∧ m < 2 ^ 53 ∧ -1074 ≤ e ∧
      e ≤ topPlace := by
  have hfield := field_of_isFinite hx
  have hfraction : x.toBits.toNat % hiddenBit < hiddenBit := Nat.mod_lt _ (by decide)
  have hlt : x.toBits.toNat / hiddenBit % 2048 < 2048 := Nat.mod_lt _ (by decide)
  have htop : topPlace = 971 := rfl
  simp only [Shape.ofFloat, Shape.ofWord]
  unfold hiddenBit at *
  rw [if_neg hfield]
  split
  · exact ⟨_, _, _, rfl, by omega, by omega, by omega⟩
  · exact ⟨_, _, _, rfl, by omega, by omega, by omega⟩

end Vitals.Decimal
