import ChannelFilter.Proofs.NearestDouble
import ChannelFilter.Proofs.RenderedNumbers
import Mathlib.Algebra.Order.Field.Power
import Mathlib.Algebra.Order.Field.Rat
import Mathlib.Algebra.Order.Ring.Abs
import Mathlib.Tactic.FieldSimp
import Mathlib.Tactic.NormNum
import Mathlib.Tactic.Positivity
import Mathlib.Tactic.Ring

/-!
# The value of a decimal number

A decimal number denotes a rational number. Of two that denote the same one, and not zero, one
comes from the other by zeros at the end of the coefficient, so they round to the same double; two
zeros may differ in their sign, which the integer zero does not keep. An integer below `2 ^ 53` is
a double, so rounding does not change it. Rounding never crosses a power of two, so a decimal
number from `2 ^ 53` on rounds to a double that does not become an integer.
-/
namespace ChannelFilter

namespace Decimal

variable {d e : Decimal}

def toRat (d : Decimal) : ℚ :=
  (signed d.negative d.coefficient : ℤ) * 10 ^ d.exponent

def ofInt (i : ℤ) : Decimal :=
  { negative := decide (i < 0), coefficient := i.natAbs, exponent := 0 }

theorem natAbs_signed (negative : Bool) (n : ℕ) : (signed negative n).natAbs = n := by
  cases negative <;> simp [signed]

theorem signed_mul (negative : Bool) (m n : ℕ) :
    signed negative (m * n) = signed negative m * n := by
  cases negative <;> simp [signed]

theorem signed_eq_zero_iff {negative : Bool} {n : ℕ} : signed negative n = 0 ↔ n = 0 := by
  cases negative <;> simp [signed]

theorem toRat_ofInt (i : ℤ) : (ofInt i).toRat = i := by
  rw [toRat, ofInt, signed_natAbs, zpow_zero, mul_one]

theorem toRat_raised (d : Decimal) (k : ℕ) : (d.raised k).toRat = d.toRat := by
  have ten : (10 : ℚ) ≠ 0 := by norm_num
  have power : (10 : ℚ) ^ k ≠ 0 := pow_ne_zero k ten
  calc (d.raised k).toRat
      = ((signed d.negative d.coefficient : ℤ) * 10 ^ k) * (10 ^ d.exponent / 10 ^ k) := by
        rw [toRat, raised, signed_mul, zpow_sub₀ ten, zpow_natCast]
        push_cast
        rfl
    _ = d.toRat := by
        rw [toRat]
        field_simp

theorem toRat_eq_zero_iff : d.toRat = 0 ↔ d.coefficient = 0 := by
  have power : (10 : ℚ) ^ d.exponent ≠ 0 := zpow_ne_zero _ (by norm_num)
  rw [toRat, mul_eq_zero, or_iff_left power, Int.cast_eq_zero, signed_eq_zero_iff]

theorem signed_injective {b c : Bool} {m n : ℕ} (nonzero : m ≠ 0)
    (same : signed b m = signed c n) : b = c ∧ m = n := by
  have size : m = n := by rw [← natAbs_signed b m, same, natAbs_signed]
  refine ⟨?_, size⟩
  cases b <;> cases c <;> simp [signed] at same ⊢ <;> omega

theorem eq_of_toRat_eq (nonzero : d.coefficient ≠ 0) (exponents : d.exponent = e.exponent)
    (same : d.toRat = e.toRat) : d = e := by
  have power : (10 : ℚ) ^ e.exponent ≠ 0 := zpow_ne_zero _ (by norm_num)
  rw [toRat, toRat, exponents, mul_left_inj' power, Int.cast_inj] at same
  obtain ⟨signs, coefficients⟩ := signed_injective nonzero same
  cases d
  cases e
  simp_all

/-- Of two decimal numbers with one value, the one with the lower exponent is the other one with
more zeros in its coefficient. -/
theorem exists_raised_eq (nonzero : d.coefficient ≠ 0) (lower : e.exponent ≤ d.exponent)
    (same : d.toRat = e.toRat) : ∃ k, d.raised k = e := by
  obtain ⟨k, difference⟩ := Int.le.dest lower
  refine ⟨k, eq_of_toRat_eq ?_ ?_ ?_⟩
  · exact Nat.mul_ne_zero nonzero (Nat.ne_of_gt (Nat.pow_pos (by decide)))
  · show d.exponent - k = e.exponent
    omega
  · rw [toRat_raised, same]

theorem abs_toRat (d : Decimal) : |d.toRat| = d.coefficient * 10 ^ d.exponent := by
  have power : (0 : ℚ) < 10 ^ d.exponent := zpow_pos (by norm_num) _
  rw [toRat, abs_mul, abs_of_pos power, ← Int.cast_abs, Int.abs_eq_natAbs, natAbs_signed,
    Int.cast_natCast]

/-- A bound on the value, without negative powers. -/
theorem abs_toRat_lt_iff (bound : ℕ) : |d.toRat| < bound ↔
    d.coefficient * 10 ^ d.exponent.toNat < bound * 10 ^ (-d.exponent).toNat := by
  have power : (0 : ℚ) < 10 ^ (-d.exponent).toNat := pow_pos (by norm_num) _
  have split : d.exponent = (d.exponent.toNat : ℤ) - ((-d.exponent).toNat : ℤ) := by omega
  have value : |d.toRat| = d.coefficient * 10 ^ d.exponent.toNat / 10 ^ (-d.exponent).toNat := by
    rw [abs_toRat, mul_div_assoc]
    conv_lhs => rw [split, zpow_sub₀ (by norm_num), zpow_natCast, zpow_natCast]
  rw [value, div_lt_iff₀ power]
  exact_mod_cast Iff.rfl

theorem digitCount_pos (n : ℕ) : 0 < digitCount n :=
  List.length_pos_iff.2 Nat.toDigits_ne_nil

theorem pow_le_of_digitCount {n k : ℕ} (nonzero : n ≠ 0) (count : digitCount n = k + 1) :
    10 ^ k ≤ n := by
  cases k with
  | zero => exact Nat.pos_of_ne_zero nonzero
  | succ k =>
      by_contra below
      have few := (digitCount_le_iff k.succ_pos).2 (Nat.not_le.1 below)
      omega

/-- The magnitude is the power of ten of the leading digit. -/
theorem zpow_magnitude_le (nonzero : d.coefficient ≠ 0) : (10 : ℚ) ^ d.magnitude ≤ |d.toRat| := by
  obtain ⟨k, count⟩ : ∃ k, digitCount d.coefficient = k + 1 :=
    ⟨_, (Nat.sub_add_cancel (digitCount_pos d.coefficient)).symm⟩
  have leading : ((10 ^ k : ℕ) : ℚ) ≤ d.coefficient :=
    Nat.cast_le.2 (pow_le_of_digitCount nonzero count)
  have magnitude : d.magnitude = k + d.exponent := by
    rw [Decimal.magnitude, count]
    omega
  rw [magnitude, zpow_add₀ (by norm_num), zpow_natCast, abs_toRat]
  push_cast at leading
  exact mul_le_mul_of_nonneg_right leading (zpow_nonneg (by norm_num) _)

theorem abs_toRat_lt_zpow (d : Decimal) : |d.toRat| < (10 : ℚ) ^ (d.magnitude + 1) := by
  have digits : ((d.coefficient : ℕ) : ℚ) < ((10 ^ digitCount d.coefficient : ℕ) : ℚ) :=
    Nat.cast_lt.2 ((digitCount_le_iff (digitCount_pos _)).1 le_rfl)
  have magnitude : d.magnitude + 1 = digitCount d.coefficient + d.exponent := by
    rw [Decimal.magnitude]
    omega
  rw [magnitude, zpow_add₀ (by norm_num), zpow_natCast, abs_toRat]
  push_cast at digits
  exact mul_lt_mul_of_pos_right digits (zpow_pos (by norm_num) _)

end Decimal

namespace Double

variable {d e : Decimal} {x : Double} {negative : Bool} {num den : ℕ}

theorem div_le_roundToEven (num den : ℕ) : num / den ≤ roundToEven num den := by
  simp only [roundToEven]
  split_ifs <;> omega

/-- The scale leaves a mantissa with 53 bits, unless it is the least one. -/
theorem two_pow_le_mantissa (large : 52 ≤ Nat.log2 (num / den)) :
    2 ^ 52 ≤ roundToEven num (den * 2 ^ (Nat.log2 (num / den) - 52)) := by
  have nonzero : num / den ≠ 0 := by
    intro none
    rw [none] at large
    exact absurd large (by decide)
  refine le_trans ?_ (div_le_roundToEven _ _)
  rw [← Nat.div_div_eq_div_mul, Nat.le_div_iff_mul_le (Nat.two_pow_pos _), ← Nat.pow_add,
    Nat.add_sub_cancel' large]
  exact Nat.log2_self_le nonzero

theorem steps_of_ofParts? {mantissa scale : ℕ} (h : ofParts? negative mantissa scale = some x) :
    x.steps = mantissa * 2 ^ scale := by
  unfold ofParts? at h
  split at h
  · obtain rfl := Option.some.inj h
    rfl
  · cases h

/-- What is at least a power of two still is when it has been rounded. -/
theorem two_pow_le_steps {p : ℕ} (normal : 52 ≤ p) (large : 2 ^ p ≤ num / den)
    (rounded : nearest? negative num den = some x) : 2 ^ p ≤ x.steps := by
  have nonzero : num / den ≠ 0 := Nat.ne_of_gt (lt_of_lt_of_le (Nat.two_pow_pos p) large)
  have log : p ≤ Nat.log2 (num / den) := (Nat.le_log2 nonzero).2 large
  have mantissa := two_pow_le_mantissa (le_trans normal log)
  obtain ⟨scale, sum⟩ : ∃ scale, Nat.log2 (num / den) = 52 + scale :=
    Nat.exists_eq_add_of_le (le_trans normal log)
  simp only [nearest?, sum, Nat.add_sub_cancel_left] at mantissa rounded
  refine le_trans (Nat.pow_le_pow_right (by decide) (sum ▸ log)) ?_
  rw [Nat.pow_add]
  split at rounded
  · rw [steps_of_ofParts? rounded]
    exact Nat.mul_le_mul_right _ mantissa
  · rw [steps_of_ofParts? rounded]
    exact Nat.mul_le_mul_left _ (Nat.pow_le_pow_right (by decide) (Nat.le_succ scale))

/-- Whatever is below the range of the greatest scales rounds to a double. -/
theorem exists_nearest? {p : ℕ} (small : num / den < 2 ^ p) (range : p ≤ 2097) :
    ∃ x, nearest? negative num den = some x := by
  obtain ⟨scale, difference⟩ : ∃ scale, Nat.log2 (num / den) - 52 = scale := ⟨_, rfl⟩
  have least : scale ≤ 2044 := by
    by_cases none : num / den = 0
    · rw [none, Nat.log2_zero] at difference
      omega
    · have log := (Nat.log2_lt none).2 small
      omega
  have normal : scale = 0 ∨ 2 ^ 52 ≤ roundToEven num (den * 2 ^ scale) := by
    by_cases large : 52 ≤ Nat.log2 (num / den)
    · exact .inr (difference ▸ two_pow_le_mantissa large)
    · exact .inl (by omega)
  simp only [nearest?, difference]
  split
  · next fits =>
    exact ⟨_, dif_pos ⟨fits, normal, by omega⟩⟩
  · exact ⟨_, dif_pos ⟨by decide, .inr le_rfl, by omega⟩⟩

theorem stepsPerUnit_pos : 0 < stepsPerUnit :=
  stepsPerUnit_eq ▸ Nat.two_pow_pos places

/-- Each whole number below the exact limit is a double. -/
theorem exists_steps_eq (negative : Bool) {n : ℕ} (small : n < Number.exactLimit) :
    ∃ x : Double, x.negative = negative ∧ x.steps = n * stepsPerUnit := by
  by_cases none : n = 0
  · refine ⟨zero negative, rfl, ?_⟩
    rw [none, Nat.zero_mul]
    rfl
  · -- The mantissa is shifted until it has 53 bits, and the scale makes up for the shift.
    obtain ⟨shift, bits⟩ : ∃ shift, Nat.log2 n + shift = 52 := by
      have log := (Nat.log2_lt none).2 small
      exact ⟨52 - Nat.log2 n, by omega⟩
    have power := Nat.two_pow_pos shift
    have low : 2 ^ 52 ≤ n * 2 ^ shift := by
      rw [← bits, Nat.pow_add]
      exact Nat.mul_le_mul_right _ (Nat.log2_self_le none)
    have high : n * 2 ^ shift < 2 ^ 53 := by
      have bits' : Nat.log2 n + 1 + shift = 53 := by omega
      rw [← bits', Nat.pow_add]
      exact Nat.mul_lt_mul_of_pos_right Nat.lt_log2_self power
    have range : places - shift ≤ 2045 := by
      unfold places
      omega
    refine ⟨⟨negative, n * 2 ^ shift, places - shift, high, .inr low, range⟩, rfl, ?_⟩
    have scales : shift + (places - shift) = places := by
      unfold places
      omega
    rw [steps, Nat.mul_assoc, ← Nat.pow_add, scales, stepsPerUnit_eq]

/-- A whole number of units is the exact value of its double. -/
theorem ofDecimal?_of_steps {n : ℕ} (h : x.steps = n * stepsPerUnit) :
    ofDecimal? { negative := x.negative, coefficient := n, exponent := 0 } = some x := by
  let whole : Decimal := { negative := x.negative, coefficient := n, exponent := 0 }
  have coefficient : n * 10 ^ places = x.exact.coefficient := by
    rw [exact_coefficient, h, stepsPerUnit_eq, Nat.mul_assoc, ← Nat.mul_pow]
  have same : whole.raised places = x.exact := by
    have exponent : (0 : ℤ) - places = x.exact.exponent := Int.zero_sub _
    simp only [Decimal.raised, whole, coefficient, exponent]
    rfl
  rw [← ofDecimal?_raised whole places, same, ofDecimal?_exact]

theorem ofDecimal?_of_toRat_eq (nonzero : d.coefficient ≠ 0) (same : d.toRat = e.toRat) :
    ofDecimal? d = ofDecimal? e := by
  rcases le_total e.exponent d.exponent with lower | lower
  · obtain ⟨k, rfl⟩ := Decimal.exists_raised_eq nonzero lower same
    exact (ofDecimal?_raised d k).symm
  · have other : e.coefficient ≠ 0 := by
      rwa [Ne, ← Decimal.toRat_eq_zero_iff, ← same, Decimal.toRat_eq_zero_iff]
    obtain ⟨k, rfl⟩ := Decimal.exists_raised_eq other lower same.symm
    exact ofDecimal?_raised e k

theorem exactLimit_steps : Number.exactLimit * stepsPerUnit = 2 ^ (53 + places) := by
  rw [Number.exactLimit, stepsPerUnit_eq, Nat.pow_add]

theorem quotient_lt_iff (d : Decimal) :
    d.coefficient * 10 ^ d.exponent.toNat * stepsPerUnit / 10 ^ (-d.exponent).toNat <
      2 ^ (53 + places) ↔ |d.toRat| < Number.exactLimit := by
  rw [Decimal.abs_toRat_lt_iff, Nat.div_lt_iff_lt_mul (Nat.pow_pos (by decide)),
    ← exactLimit_steps, Nat.mul_right_comm Number.exactLimit, Nat.mul_lt_mul_right stepsPerUnit_pos]

/-- Each decimal number below the exact limit rounds to a double. -/
theorem exists_ofDecimal? (small : |d.toRat| < Number.exactLimit) :
    ∃ x, ofDecimal? d = some x := by
  unfold ofDecimal?
  split
  · exact ⟨_, rfl⟩
  · next nonzero =>
    have magnitude : d.magnitude < 16 := by
      have limit : (Number.exactLimit : ℚ) < 10 ^ (16 : ℤ) := by norm_num [Number.exactLimit]
      have power := (Decimal.zpow_magnitude_le nonzero).trans_lt (small.trans limit)
      exact (zpow_lt_zpow_iff_right₀ (by norm_num)).1 power
    rw [if_neg (by unfold greatestMagnitude; omega)]
    split
    · exact ⟨_, rfl⟩
    · exact exists_nearest? ((quotient_lt_iff d).2 small) (by decide)

/-- A decimal number from the exact limit on rounds to a double from there on. -/
theorem exactLimit_le_steps (large : Number.exactLimit ≤ |d.toRat|)
    (rounded : ofDecimal? d = some x) : Number.exactLimit * stepsPerUnit ≤ x.steps := by
  have nonzero : d.coefficient ≠ 0 := by
    intro none
    rw [Decimal.toRat_eq_zero_iff.2 none, abs_zero] at large
    norm_num [Number.exactLimit] at large
  have magnitude : 0 < d.magnitude + 1 := by
    have limit : (10 : ℚ) ^ (0 : ℤ) < Number.exactLimit := by norm_num [Number.exactLimit]
    have power := (limit.trans_le large).trans d.abs_toRat_lt_zpow
    exact (zpow_lt_zpow_iff_right₀ (by norm_num)).1 power
  have quotient := Nat.not_lt.1 (mt (quotient_lt_iff d).1 (not_lt.2 large))
  rw [ofDecimal?, if_neg nonzero] at rounded
  split at rounded
  · cases rounded
  · rw [if_neg (by unfold leastMagnitude; omega)] at rounded
    rw [exactLimit_steps]
    exact two_pow_le_steps (by decide) quotient rounded

end Double

namespace Number

variable {d e : Decimal} {x : Double}

theorem ofDouble_of_steps {n : ℕ} (steps : x.steps = n * Double.stepsPerUnit)
    (small : n < exactLimit) :
    ∃ fits, ofDouble x = .integer (Decimal.signed x.negative n) fits := by
  have whole : x.integer? = some (Decimal.signed x.negative n) := by
    rw [Double.integer?, steps, if_pos (Nat.mul_mod_left _ _),
      Nat.mul_div_cancel _ Double.stepsPerUnit_pos]
  have size := Decimal.natAbs_signed x.negative n
  have fits : FitsWord (Decimal.signed x.negative n) := fitsWord_of_lt (by rwa [size])
  refine ⟨fits, ?_⟩
  simp only [ofDouble, whole, size, if_pos small, ofInt?, dif_pos fits, Option.getD_some]

theorem ofDouble_of_limit (large : exactLimit * Double.stepsPerUnit ≤ x.steps) :
    ofDouble x = .double x := by
  have quotient : exactLimit ≤ x.steps / Double.stepsPerUnit :=
    (Nat.le_div_iff_mul_le Double.stepsPerUnit_pos).2 large
  by_cases divides : x.steps % Double.stepsPerUnit = 0
  · have size := Decimal.natAbs_signed x.negative (x.steps / Double.stepsPerUnit)
    simp only [ofDouble, Double.integer?, if_pos divides, size, if_neg (Nat.not_lt.2 quotient)]
  · simp only [ofDouble, Double.integer?, if_neg divides]

theorem ofDecimal?_zero (none : d.coefficient = 0) :
    ∃ fits, ofDecimal? d = some (.integer 0 fits) := by
  have steps : (Double.zero d.negative).steps = 0 * Double.stepsPerUnit := by
    rw [Nat.zero_mul]
    rfl
  obtain ⟨fits, number⟩ := ofDouble_of_steps steps (by decide)
  have sign : Decimal.signed (Double.zero d.negative).negative 0 = 0 :=
    Decimal.signed_eq_zero_iff.2 rfl
  simp only [sign] at fits number
  exact ⟨fits, by rw [ofDecimal?, Double.ofDecimal?_of_coefficient none, Option.map_some, number]⟩

/-- Decimal numbers with one value are read as one number. -/
theorem ofDecimal?_of_toRat_eq (same : d.toRat = e.toRat) : ofDecimal? d = ofDecimal? e := by
  by_cases none : d.coefficient = 0
  · have other : e.coefficient = 0 := by
      rwa [← Decimal.toRat_eq_zero_iff, ← same, Decimal.toRat_eq_zero_iff]
    obtain ⟨_, left⟩ := ofDecimal?_zero none
    obtain ⟨_, right⟩ := ofDecimal?_zero other
    rw [left, right]
  · rw [ofDecimal?, ofDecimal?, Double.ofDecimal?_of_toRat_eq none same]

/-- A decimal number that is an integer below the exact limit is read as that integer. -/
theorem ofDecimal?_of_toRat_eq_int {i : ℤ} (whole : d.toRat = i) (small : i.natAbs < exactLimit) :
    ∃ fits, ofDecimal? d = some (.integer i fits) := by
  obtain ⟨x, sign, steps⟩ := Double.exists_steps_eq (decide (i < 0)) small
  have rounded : Double.ofDecimal? (.ofInt i) = some x := by
    rw [Decimal.ofInt, ← sign]
    exact Double.ofDecimal?_of_steps steps
  obtain ⟨fits, number⟩ := ofDouble_of_steps steps small
  simp only [sign, signed_natAbs] at fits number
  refine ⟨fits, ?_⟩
  rw [ofDecimal?_of_toRat_eq (whole.trans (Decimal.toRat_ofInt i).symm), ofDecimal?, rounded,
    Option.map_some, number]

/-- A decimal number from the exact limit on is read as the double that it rounds to. -/
theorem ofDecimal?_of_limit (large : exactLimit ≤ |d.toRat|) :
    ofDecimal? d = (Double.ofDecimal? d).map .double := by
  cases rounded : Double.ofDecimal? d with
  | none => rw [ofDecimal?, rounded, Option.map_none, Option.map_none]
  | some x =>
      have kept := ofDouble_of_limit (Double.exactLimit_le_steps large rounded)
      rw [ofDecimal?, rounded, Option.map_some, Option.map_some, kept]

end Number

end ChannelFilter
