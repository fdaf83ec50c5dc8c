import ChannelFilter.Number.Shortest

/-!
# The double nearest to a decimal number

A decimal number keeps its double when zeros are added to its coefficient and taken off its
exponent, since rounding looks at a quotient only. The exact value of a double rounds to that
double, so the search for its shortest decimal number always ends with one that reads back.
-/
namespace ChannelFilter

-- Powers are the built-in ones, whatever else is imported.
attribute [local instance (high)] instPowNat

namespace Decimal

/-- The same number with `k` more zeros in its coefficient. -/
def raised (d : Decimal) (k : Nat) : Decimal :=
  { d with coefficient := d.coefficient * 10 ^ k, exponent := d.exponent - k }

theorem toDigits_mul_pow {n : Nat} (positive : 0 < n) (k : Nat) :
    Nat.toDigits 10 (n * 10 ^ k) = Nat.toDigits 10 n ++ List.replicate k '0' := by
  induction k with
  | zero => simp
  | succ k ih =>
      have shifted : n * 10 ^ (k + 1) = 10 * (n * 10 ^ k) + 0 := by
        rw [Nat.pow_succ, ← Nat.mul_assoc, Nat.mul_comm, Nat.add_zero]
      have above : 0 < n * 10 ^ k := Nat.mul_pos positive (Nat.pow_pos (by decide))
      have last := Nat.toDigits_append_toDigits (b := 10) (by decide) above (by decide : 0 < 10)
      rw [shifted, ← last, ih, List.append_assoc, List.replicate_succ']
      rfl

theorem digitCount_mul_pow {n : Nat} (positive : 0 < n) (k : Nat) :
    digitCount (n * 10 ^ k) = digitCount n + k := by
  simp [digitCount, toDigits_mul_pow positive]

theorem digitCount_le_iff {n k : Nat} (positive : 0 < k) : digitCount n ≤ k ↔ n < 10 ^ k :=
  Nat.length_toDigits_le_iff (by decide) positive

theorem magnitude_raised {d : Decimal} (nonzero : d.coefficient ≠ 0) (k : Nat) :
    (d.raised k).magnitude = d.magnitude := by
  simp only [magnitude, raised, digitCount_mul_pow (Nat.pos_of_ne_zero nonzero)]
  omega

end Decimal

namespace Double

theorem roundToEven_mul (num den : Nat) {k : Nat} (positive : 0 < k) :
    roundToEven (num * k) (den * k) = roundToEven num den := by
  have quotient : num * k / (den * k) = num / den := Nat.mul_div_mul_right num den positive
  have remainder : num * k % (den * k) = num % den * k := Nat.mul_mod_mul_right k num den
  have below : 2 * (num % den * k) < den * k ↔ 2 * (num % den) < den := by
    rw [← Nat.mul_assoc, Nat.mul_lt_mul_right positive]
  have above : den * k < 2 * (num % den * k) ↔ den < 2 * (num % den) := by
    rw [← Nat.mul_assoc, Nat.mul_lt_mul_right positive]
  simp only [roundToEven, quotient, remainder, below, above]

theorem nearest?_mul (negative : Bool) (num den : Nat) {k : Nat} (positive : 0 < k) :
    nearest? negative (num * k) (den * k) = nearest? negative num den := by
  have quotient : num * k / (den * k) = num / den := Nat.mul_div_mul_right num den positive
  have scaled (scale : Nat) : den * k * 2 ^ scale = den * 2 ^ scale * k := Nat.mul_right_comm ..
  simp only [nearest?, quotient, scaled, roundToEven_mul _ _ positive]

theorem nearest?_congr (negative : Bool) {num den num' den' : Nat} (positive : 0 < den)
    (positive' : 0 < den') (same : num * den' = num' * den) :
    nearest? negative num den = nearest? negative num' den' := by
  calc nearest? negative num den
      = nearest? negative (num * den') (den * den') := (nearest?_mul _ _ _ positive').symm
    _ = nearest? negative (num' * den) (den' * den) := by rw [same, Nat.mul_comm den]
    _ = nearest? negative num' den' := nearest?_mul _ _ _ positive

theorem raised_quotient (coefficient unit : Nat) (exponent : Int) (k : Nat) :
    coefficient * 10 ^ k * 10 ^ (exponent - k).toNat * unit * 10 ^ (-exponent).toNat =
      coefficient * 10 ^ exponent.toNat * unit * 10 ^ (-(exponent - k)).toNat := by
  have exponents : k + (exponent - k).toNat + (-exponent).toNat =
      exponent.toNat + (-(exponent - k)).toNat := by omega
  have powers : 10 ^ k * 10 ^ (exponent - k).toNat * 10 ^ (-exponent).toNat =
      10 ^ exponent.toNat * 10 ^ (-(exponent - k)).toNat := by
    rw [← Nat.pow_add, ← Nat.pow_add, ← Nat.pow_add, exponents]
  calc coefficient * 10 ^ k * 10 ^ (exponent - k).toNat * unit * 10 ^ (-exponent).toNat
      = coefficient * unit *
          (10 ^ k * 10 ^ (exponent - k).toNat * 10 ^ (-exponent).toNat) := by ac_rfl
    _ = coefficient * unit * (10 ^ exponent.toNat * 10 ^ (-(exponent - k)).toNat) := by rw [powers]
    _ = coefficient * 10 ^ exponent.toNat * unit * 10 ^ (-(exponent - k)).toNat := by ac_rfl

theorem ofDecimal?_of_coefficient {d : Decimal} (none : d.coefficient = 0) :
    ofDecimal? d = some (zero d.negative) := by
  rw [ofDecimal?, if_pos none]

theorem ofDecimal?_raised (d : Decimal) (k : Nat) : ofDecimal? (d.raised k) = ofDecimal? d := by
  by_cases none : d.coefficient = 0
  · have raisedNone : (d.raised k).coefficient = 0 := by rw [Decimal.raised, none, Nat.zero_mul]
    exact (ofDecimal?_of_coefficient raisedNone).trans (ofDecimal?_of_coefficient none).symm
  · have some : (d.raised k).coefficient ≠ 0 :=
      Nat.mul_ne_zero none (Nat.ne_of_gt (Nat.pow_pos (by decide)))
    have quotient := nearest?_congr d.negative (Nat.pow_pos (by decide))
      (Nat.pow_pos (by decide)) (raised_quotient d.coefficient stepsPerUnit d.exponent k)
    rw [ofDecimal?, ofDecimal?, if_neg some, if_neg none, Decimal.magnitude_raised none k]
    simp only [Decimal.raised, quotient]

theorem eq_zero_of_mantissa {x : Double} (h : x.mantissa = 0) : x = zero x.negative := by
  obtain ⟨negative, mantissa, scale, small, normal, atMost⟩ := x
  have none : mantissa = 0 := h
  subst none
  have least : scale = 0 := normal.resolve_right (by decide)
  subst least
  rfl

theorem roundToEven_exact (n : Nat) {den : Nat} (positive : 0 < den) :
    roundToEven (n * den) den = n := by
  simp [roundToEven, Nat.mul_div_cancel n positive, positive]

theorem nearest?_steps (x : Double) : nearest? x.negative x.steps 1 = some x := by
  have scale : Nat.log2 (x.steps / 1) - 52 = x.scale := by
    rw [Nat.div_one]
    rcases x.normal with least | large
    · have small : x.steps < 2 ^ 53 := by simpa [steps, least] using x.mantissa_lt
      by_cases none : x.steps = 0
      · simp [none, least]
      · have below := (Nat.log2_lt none).2 small
        omega
    · have power := Nat.two_pow_pos x.scale
      have low : 2 ^ (52 + x.scale) ≤ x.steps := by
        rw [Nat.pow_add]
        exact Nat.mul_le_mul_right _ large
      have high : x.steps < 2 ^ (52 + x.scale + 1) := by
        rw [Nat.add_right_comm, Nat.pow_add]
        exact Nat.mul_lt_mul_of_pos_right x.mantissa_lt power
      have some : x.steps ≠ 0 := by
        have positive := Nat.two_pow_pos (52 + x.scale)
        omega
      have log : Nat.log2 x.steps = 52 + x.scale := (Nat.log2_eq_iff some).2 ⟨low, high⟩
      omega
  have mantissa : roundToEven x.steps (1 * 2 ^ x.scale) = x.mantissa := by
    rw [Nat.one_mul]
    exact roundToEven_exact x.mantissa (Nat.two_pow_pos x.scale)
  simp only [nearest?, scale, mantissa, x.mantissa_lt, if_true, ofParts?, x.normal, x.scale_le,
    and_self, dif_pos]

/-- How many places an exact value has behind its point. -/
def places : Nat := 1074

theorem exact_coefficient (x : Double) : x.exact.coefficient = x.steps * 5 ^ places := by
  rw [exact, places]

theorem exact_exponent (x : Double) : x.exact.exponent = -(places : Int) := rfl

theorem stepsPerUnit_eq : stepsPerUnit = 2 ^ places := by
  rw [stepsPerUnit, places]

theorem steps_pos {x : Double} (nonzero : x.mantissa ≠ 0) : 0 < x.steps :=
  Nat.mul_pos (Nat.pos_of_ne_zero nonzero) (Nat.two_pow_pos x.scale)

theorem steps_lt (x : Double) : x.steps < 10 ^ greatestMagnitude.toNat * 2 ^ places := by
  -- The greatest scale has a name here, so that its power is formed in one step only.
  obtain ⟨greatest, atMost, value⟩ : ∃ greatest, x.scale ≤ greatest ∧ greatest = 2045 :=
    ⟨2045, x.scale_le, rfl⟩
  have power : 2 ^ x.scale ≤ 2 ^ greatest := Nat.pow_le_pow_right (by decide) atMost
  have product : x.steps < 2 ^ 53 * 2 ^ greatest :=
    Nat.mul_lt_mul_of_lt_of_le x.mantissa_lt power (Nat.two_pow_pos greatest)
  have bound : 2 ^ 53 * 2 ^ greatest ≤ 10 ^ greatestMagnitude.toNat * 2 ^ places := by
    rw [value]
    decide +kernel
  exact Nat.lt_of_lt_of_le product bound

theorem exact_coefficient_lt (x : Double) :
    x.exact.coefficient < 10 ^ (greatestMagnitude.toNat + places) := by
  have powers : 10 ^ (greatestMagnitude.toNat + places) =
      10 ^ greatestMagnitude.toNat * 2 ^ places * 5 ^ places := by
    rw [Nat.pow_add, Nat.mul_assoc, ← Nat.mul_pow]
  rw [exact_coefficient, powers]
  exact Nat.mul_lt_mul_of_pos_right x.steps_lt (Nat.pow_pos (by decide))

theorem le_exact_coefficient {x : Double} (nonzero : x.mantissa ≠ 0) :
    10 ^ (places - leastMagnitude.natAbs) ≤ x.exact.coefficient := by
  have bound : 10 ^ (places - leastMagnitude.natAbs) ≤ 1 * 5 ^ places := by decide +kernel
  rw [exact_coefficient]
  exact Nat.le_trans bound (Nat.mul_le_mul_right _ (steps_pos nonzero))

/-- The leading digit of an exact value other than zero is within the range of doubles. -/
theorem magnitude_exact {x : Double} (nonzero : x.mantissa ≠ 0) :
    leastMagnitude ≤ x.exact.magnitude ∧ x.exact.magnitude ≤ greatestMagnitude := by
  have atMost : Decimal.digitCount x.exact.coefficient ≤ greatestMagnitude.toNat + places :=
    (Decimal.digitCount_le_iff (by decide)).2 x.exact_coefficient_lt
  have more : ¬Decimal.digitCount x.exact.coefficient ≤ places - leastMagnitude.natAbs := by
    rw [Decimal.digitCount_le_iff (by decide)]
    exact Nat.not_lt.2 (le_exact_coefficient nonzero)
  rw [Decimal.magnitude, exact_exponent]
  simp only [greatestMagnitude, leastMagnitude, places] at *
  omega

theorem exact_quotient (x : Double) :
    x.exact.coefficient * 10 ^ x.exact.exponent.toNat * stepsPerUnit * 1 =
      x.steps * 10 ^ (-x.exact.exponent).toNat := by
  have up : x.exact.exponent.toNat = 0 := rfl
  have down : (-x.exact.exponent).toNat = places := rfl
  rw [up, down, exact_coefficient, stepsPerUnit_eq, Nat.pow_zero, Nat.mul_one, Nat.mul_one,
    Nat.mul_assoc, ← Nat.mul_pow]

theorem exact_coefficient_ne_zero {x : Double} (nonzero : x.mantissa ≠ 0) :
    x.exact.coefficient ≠ 0 := by
  rw [exact_coefficient]
  exact Nat.mul_ne_zero (Nat.ne_of_gt (steps_pos nonzero)) (Nat.ne_of_gt (Nat.pow_pos (by decide)))

theorem ofDecimal?_exact_of_mantissa {x : Double} (nonzero : x.mantissa ≠ 0) :
    ofDecimal? x.exact = some x := by
  obtain ⟨least, greatest⟩ := magnitude_exact nonzero
  have positive : 0 < 10 ^ (-x.exact.exponent).toNat := Nat.pow_pos (by decide)
  rw [ofDecimal?, if_neg (exact_coefficient_ne_zero nonzero), if_neg (Int.not_lt.2 greatest),
    if_neg (Int.not_lt.2 least), nearest?_congr _ positive Nat.one_pos x.exact_quotient]
  exact x.nearest?_steps

/-- Rounding the exact value of a double gives that double. -/
theorem ofDecimal?_exact (x : Double) : ofDecimal? x.exact = some x := by
  by_cases none : x.mantissa = 0
  · have noSteps : x.exact.coefficient = 0 := by
      rw [exact_coefficient, steps, none, Nat.zero_mul, Nat.zero_mul]
    exact (ofDecimal?_of_coefficient noSteps).trans (congrArg some (eq_zero_of_mantissa none).symm)
  · exact ofDecimal?_exact_of_mantissa none

theorem readsBack_of_choose? {x : Double} {preferFirst : Bool} {first second d : Decimal}
    (h : x.choose? preferFirst first second = some d) : x.readsBack d = true := by
  unfold choose? at h
  split at h
  · cases h
  · next readsFirst _ => cases h; exact readsFirst
  · next _ readsSecond => cases h; exact readsSecond
  · next readsFirst readsSecond =>
    split at h <;> cases h
    · exact readsFirst
    · exact readsSecond

theorem ofDecimal?_of_neighbour? {x : Double} {dropped : Nat} {d : Decimal}
    (h : x.neighbour? dropped = some d) : ofDecimal? d = some x :=
  eq_of_beq (readsBack_of_choose? h)

theorem ofDecimal?_shortestFrom (x : Double) (dropped : Nat) :
    ofDecimal? (x.shortestFrom dropped) = some x := by
  induction dropped with
  | zero => exact x.ofDecimal?_exact
  | succ dropped ih =>
      rw [shortestFrom]
      cases found : x.neighbour? (dropped + 1) with
      | none => exact ih
      | some d => exact ofDecimal?_of_neighbour? found

/-- The shortest decimal number of a double rounds to that double. -/
theorem ofDecimal?_shortest (x : Double) : ofDecimal? x.shortest = some x := by
  unfold shortest
  split
  · next none => exact congrArg some (eq_zero_of_mantissa none).symm
  · exact x.ofDecimal?_shortestFrom _

end Double

end ChannelFilter
