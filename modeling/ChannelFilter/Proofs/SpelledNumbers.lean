import ChannelFilter.Proofs.DecimalValues

/-!
# The spelling of a number does not matter

The text of a number denotes the rational number that its digits, its point and its exponent part
give. A text that is accepted at all is spelled in this way. Below `2 ^ 53` the number that is read
depends on the rational number only: the text of an integer may be read by its digits or by way of
a double, and both give the integer. From there on the two ways differ. The digits of an integer
give that integer as long as it fits a signed word; beyond that, as well as with a point or an
exponent part, the text gives the nearest double.
-/
namespace ChannelFilter

namespace Decimal

theorem digitsValue_append (digits others : List Char) :
    digitsValue (digits ++ others) =
      digitsValue digits * 10 ^ others.length + digitsValue others := by
  rw [digitsValue, Nat.ofDigitChars_append, Nat.ofDigitChars_eq_ofDigitChars_zero, Nat.mul_comm]
  rfl

namespace Spelling

variable {s : Spelling} {text : String} {i : ℤ}

/-- The rational number that the digits, the point and the exponent part denote. -/
def value (s : Spelling) : ℚ :=
  (signed s.negative 1 : ℤ) *
    (digitsValue s.whole + digitsValue s.fractionDigits / 10 ^ s.fractionDigits.length) *
      10 ^ exponentValue s.exponent

theorem value_eq_toRat (s : Spelling) : s.value = s.parts.value.toRat := by
  have ten : (10 : ℚ) ≠ 0 := by norm_num
  have sign := signed_mul s.negative 1 (digitsValue (s.whole ++ s.fractionDigits))
  rw [Nat.one_mul] at sign
  rw [value, toRat, parts, Parts.value, sign, digitsValue_append, zpow_sub₀ ten, zpow_natCast]
  push_cast
  field_simp

theorem value_of_isInteger (integer : s.IsInteger) :
    s.value = (signed s.negative (digitsValue s.whole) : ℤ) := by
  have sign := signed_mul s.negative 1 (digitsValue s.whole)
  rw [Nat.one_mul] at sign
  rw [value, fractionDigits, integer.1, integer.2, sign]
  simp [digitsValue]

theorem abs_value_lt_iff (whole : s.value = i) {bound : ℕ} :
    |s.value| < bound ↔ i.natAbs < bound := by
  rw [whole, ← Int.cast_abs, Int.abs_eq_natAbs, Int.cast_natCast, Nat.cast_lt]

theorem readInt?_chars (integer : s.IsInteger) (whole : s.value = i) :
    readInt? s.chars = some i := by
  rw [value_of_isInteger integer, Int.cast_inj] at whole
  rw [readInt?_chars_of_isInteger integer, whole]

/-- An integer that fits a signed word is read by its digits. -/
theorem read?_of_fits (spelled : s.IsOf text) (integer : s.IsInteger) (whole : s.value = i)
    (least : -2 ^ 63 ≤ i) (greatest : i < 2 ^ 63) :
    ∃ fits, Number.read? text = some (.integer i fits) := by
  have fits : FitsWord i := by
    unfold FitsWord
    omega
  refine ⟨fits, ?_⟩
  rw [read?_eq spelled, readInt?_chars integer whole, Option.bind_some,
    Number.ofSigned?_of_fits greatest fits, Option.some_or]

/-- An integer that does not fit a signed word is read by way of a double, and stays one. -/
theorem read?_beyond (spelled : s.IsOf text) (integer : s.IsInteger) (whole : s.value = i)
    (beyond : i < -2 ^ 63 ∨ 2 ^ 63 ≤ i) :
    Number.read? text = (Double.ofDecimal? s.parts.value).map .double := by
  have unsigned : Number.ofSigned? i = none := by
    cases taken : Number.ofSigned? i with
    | none => rfl
    | some n =>
        obtain ⟨greatest, ⟨least, -⟩, -⟩ := Number.ofSigned?_eq_some taken
        omega
  have large : (Number.exactLimit : ℚ) ≤ |s.parts.value.toRat| := by
    rw [← value_eq_toRat, ← not_lt, abs_value_lt_iff whole]
    unfold Number.exactLimit
    omega
  rw [read?_eq spelled, readInt?_chars integer whole, Option.bind_some, unsigned, Option.none_or,
    Number.ofDecimal?_of_limit large]

/-- Below the exact limit each text is read as by way of a double, also an integer's. -/
theorem read?_of_small (spelled : s.IsOf text) (small : |s.value| < Number.exactLimit) :
    Number.read? text = Number.ofDecimal? s.parts.value := by
  by_cases integer : s.IsInteger
  · have whole := value_of_isInteger integer
    have size := (abs_value_lt_iff whole).1 small
    obtain ⟨fits, rounded⟩ :=
      Number.ofDecimal?_of_toRat_eq_int (s.value_eq_toRat.symm.trans whole) size
    unfold Number.exactLimit at size
    obtain ⟨_, digits⟩ := read?_of_fits spelled integer whole (by omega) (by omega)
    rw [digits, rounded]
  · exact read?_of_not_isInteger spelled integer

theorem exists_read?_of_small (spelled : s.IsOf text) (small : |s.value| < Number.exactLimit) :
    ∃ n, Number.read? text = some n := by
  rw [value_eq_toRat] at small
  obtain ⟨x, rounded⟩ := Double.exists_ofDecimal? small
  refine ⟨Number.ofDouble x, ?_⟩
  rw [read?_of_small spelled (by rwa [value_eq_toRat]), Number.ofDecimal?, rounded, Option.map_some]

/-- Two spellings of one value below the exact limit are accepted and give one number, which is the
value itself if that is an integer. -/
theorem exists_read?_of_value_eq {t : Spelling} {other : String} (first : s.IsOf text)
    (second : t.IsOf other) (same : s.value = t.value) (small : |s.value| < Number.exactLimit) :
    ∃ n, Number.read? text = some n ∧ Number.read? other = some n ∧
      ∀ i : ℤ, s.value = i → ∃ fits, n = .integer i fits := by
  obtain ⟨n, accepted⟩ := exists_read?_of_small first small
  have double := read?_of_small first small
  have rounded : Number.ofDecimal? t.parts.value = Number.ofDecimal? s.parts.value := by
    apply Number.ofDecimal?_of_toRat_eq
    rw [← value_eq_toRat, ← value_eq_toRat, same]
  refine ⟨n, accepted, ?_, ?_⟩
  · rw [read?_of_small second (same ▸ small), rounded, ← double, accepted]
  · intro i whole
    have size := (abs_value_lt_iff whole).1 small
    obtain ⟨fits, number⟩ :=
      Number.ofDecimal?_of_toRat_eq_int (s.value_eq_toRat.symm.trans whole) size
    rw [double, number] at accepted
    exact ⟨fits, (Option.some.inj accepted).symm⟩

/-- Each accepted text is a spelling. Two spellings of one value below `2 ^ 53` are accepted and
give one number, which is the value itself if that is an integer. The digits of an integer that
fits a signed word give that integer, and those of any other integer give at most a double. -/
theorem value_decides_number :
    (∀ (text : String) (n : Number), Number.read? text = some n → ∃ s : Spelling, s.IsOf text) ∧
    (∀ (a b : Spelling) (first second : String), a.IsOf first → b.IsOf second →
      a.value = b.value → |a.value| < 2 ^ 53 →
        ∃ n, Number.read? first = some n ∧ Number.read? second = some n ∧
          ∀ i : ℤ, a.value = i → ∃ fits, n = .integer i fits) ∧
    (∀ (s : Spelling) (text : String), s.IsOf text → s.IsInteger →
      ∃ i : ℤ, s.value = i ∧
        (-2 ^ 63 ≤ i ∧ i < 2 ^ 63 → ∃ fits, Number.read? text = some (.integer i fits)) ∧
        (¬(-2 ^ 63 ≤ i ∧ i < 2 ^ 63) → ∀ n, Number.read? text = some n →
          ∃ x, n = .double x ∧ Double.ofDecimal? s.parts.value = some x)) := by
  refine ⟨fun _ _ => exists_of_read?, ?_, ?_⟩
  · intro a b first second spelled spelled' same small
    have limit : |a.value| < Number.exactLimit := by
      unfold Number.exactLimit
      exact_mod_cast small
    exact exists_read?_of_value_eq spelled spelled' same limit
  · intro s text spelled integer
    have whole := value_of_isInteger integer
    refine ⟨_, whole, ?_, ?_⟩
    · rintro ⟨least, greatest⟩
      exact read?_of_fits spelled integer whole least greatest
    · intro beyond n accepted
      rw [read?_beyond spelled integer whole (by omega)] at accepted
      obtain ⟨x, rounded, double⟩ := Option.map_eq_some_iff.1 accepted
      exact ⟨x, double.symm, rounded⟩

def shiftedSample : Spelling :=
  { sign := [], whole := ['0'], fraction := some ['0', '0', '1'], exponent := some (.ofInt 3)
    sign_mem := .inl rfl, isDigit_whole := List.all_eq_true.1 rfl
    isDigit_fraction := List.all_eq_true.1 rfl, some_digit := .inl (List.cons_ne_nil _ _) }

/-- The digits of an integer behind a plus. -/
def plusSample (n : ℕ) : Spelling :=
  { sign := ['+'], whole := Nat.toDigits 10 n, fraction := none, exponent := none
    sign_mem := .inr (.inl rfl), isDigit_whole := isDigit_of_mem_toDigits, isDigit_fraction := nofun
    some_digit := .inl Nat.toDigits_ne_nil }

theorem value_plusSample (n : ℕ) : (plusSample n).value = (n : ℤ) := by
  rw [value_of_isInteger ⟨rfl, rfl⟩]
  exact congrArg (fun n : ℕ => ((n : ℤ) : ℚ)) Nat.ofDigitChars_ten_toDigits

def wordSample : Double :=
  { negative := false, mantissa := 2 ^ 52 + 1, scale := 1085, mantissa_lt := by decide,
    normal := .inr (by decide), scale_le := by decide }

/-- One is one number however it is spelled, and an integer beyond the words is a double. -/
theorem value_decides_number_sample :
    (∃ n, Number.read? " 0.001e+3" = some n ∧ Number.read? "+1\t" = some n ∧
      (∃ fits, n = .integer 1 fits) ∧ ∃ s : Spelling, s.IsOf "+1\t") ∧
    Number.read? "+9223372036854777856" = some (.double wordSample) ∧
      Double.ofDecimal? (plusSample 9223372036854777856).parts.value = some wordSample := by
  obtain ⟨spelled, equal, integers⟩ := value_decides_number
  constructor
  · have one : shiftedSample.value = ((1 : ℤ) : ℚ) := by
      have decimal : shiftedSample.parts.value = .ofInt 1 := by decide
      rw [value_eq_toRat, decimal, toRat_ofInt]
    have same : shiftedSample.value = (plusSample 1).value := by
      rw [one, value_plusSample]
      rfl
    have small : |shiftedSample.value| < 2 ^ 53 := by
      rw [one]
      norm_num
    obtain ⟨n, left, right, whole⟩ := equal shiftedSample (plusSample 1) " 0.001e+3" "+1\t"
      (by decide +kernel) (by decide +kernel) same small
    exact ⟨n, left, right, whole 1 one, spelled "+1\t" n right⟩
  · have accepted : Number.read? "+9223372036854777856" = some (.double wordSample) := by
      decide +kernel
    obtain ⟨i, value, -, double⟩ := integers (plusSample 9223372036854777856)
      "+9223372036854777856" (by decide +kernel) ⟨rfl, rfl⟩
    obtain rfl : i = 9223372036854777856 :=
      (Int.cast_inj.1 (value.symm.trans (value_plusSample _)) : i = _)
    obtain ⟨x, same, rounded⟩ := double (by omega) _ accepted
    obtain rfl : wordSample = x := by injection same
    exact ⟨accepted, rounded⟩

end Spelling

end Decimal

end ChannelFilter
