import ChannelFilter.Proofs.NearestDouble
import ChannelFilter.Proofs.NumberLiterals

/-!
# Numbers are read as they are written

The text of a decimal number is a literal with the digits of its coefficient, the zeros at their
end left out or others put there. Neither changes the double that is nearest, and the shortest
decimal number of a double has that double as its nearest one. An integer is written as a literal
without a point and an exponent, and a double as one with at least one of them, so each number is
read back from its text as what it is.
-/
namespace ChannelFilter

-- Powers are the built-in ones, whatever else is imported.
attribute [local instance (high)] instPowNat

open Decimal.Spelling (exponentChars exponentValue exponentChars_none exponentValue_none
  exponentValue_ofInt)

namespace Decimal

variable {d : Decimal} {cs : List Char}

theorem head?_toDigits {n : Nat} (positive : 0 < n) :
    ∃ c ∈ (Nat.toDigits 10 n).head?, c ≠ '0' := by
  induction n using Nat.strongRecOn with
  | ind n ih =>
      rw [Nat.toDigits_eq_if (by decide)]
      split
      · refine ⟨Nat.digitChar n, rfl, ?_⟩
        rw [Ne, Nat.digitChar_eq_zero]
        exact Nat.ne_of_gt positive
      · next large =>
        obtain ⟨c, first, nonzero⟩ := ih (n / 10) (by omega) (by omega)
        refine ⟨c, ?_, nonzero⟩
        rw [List.head?_append, Option.mem_def.1 first]
        rfl

theorem digitsValue_append_zeros (digits : List Char) (k : Nat) :
    digitsValue (digits ++ List.replicate k '0') = digitsValue digits * 10 ^ k := by
  rw [digitsValue, Nat.ofDigitChars_append, Nat.ofDigitChars_replicate_zero, Nat.mul_comm]
  rfl

theorem digitsValue_zeros_append (k : Nat) (digits : List Char) :
    digitsValue (List.replicate k '0' ++ digits) = digitsValue digits := by
  rw [digitsValue, Nat.ofDigitChars_append, Nat.ofDigitChars_replicate_zero, Nat.mul_zero]
  rfl

theorem exists_zeros (d : Decimal) :
    ∃ k, Nat.toDigits 10 d.coefficient = d.significant ++ List.replicate k '0' := by
  let digits := (Nat.toDigits 10 d.coefficient).reverse
  have zeros : digits.takeWhile (· == '0') =
      List.replicate (digits.takeWhile (· == '0')).length '0' := by
    refine List.eq_replicate_of_mem ?_
    intro c member
    exact eq_of_beq (List.all_eq_true.1 List.all_takeWhile c member)
  refine ⟨(digits.takeWhile (· == '0')).length, ?_⟩
  calc Nat.toDigits 10 d.coefficient
      = digits.reverse := (List.reverse_reverse _).symm
    _ = (digits.takeWhile (· == '0') ++ digits.dropWhile (· == '0')).reverse := by
        rw [List.takeWhile_append_dropWhile]
    _ = d.significant ++ (digits.takeWhile (· == '0')).reverse := List.reverse_append
    _ = d.significant ++ List.replicate (digits.takeWhile (· == '0')).length '0' := by
        rw [zeros, List.reverse_replicate, List.length_replicate]

theorem significant_digits (d : Decimal) : ∀ c ∈ d.significant, c.isDigit = true := by
  intro c member
  obtain ⟨k, digits⟩ := d.exists_zeros
  have among : c ∈ Nat.toDigits 10 d.coefficient := by
    rw [digits]
    exact List.mem_append_left _ member
  exact isDigit_of_mem_toDigits c among

theorem head?_significant (nonzero : d.coefficient ≠ 0) :
    ∃ c ∈ d.significant.head?, c ≠ '0' := by
  obtain ⟨k, digits⟩ := d.exists_zeros
  obtain ⟨c, first, other⟩ := head?_toDigits (Nat.pos_of_ne_zero nonzero)
  rw [digits, List.head?_append] at first
  cases some : d.significant.head? with
  | some head =>
      rw [some] at first
      obtain rfl : head = c := Option.some.inj first
      exact ⟨head, rfl, other⟩
  | none =>
      rw [some] at first
      have zero : c ∈ List.replicate k '0' := List.mem_of_mem_head? first
      exact absurd (List.eq_of_mem_replicate zero) other

/-- The same number without the zeros at the end of its coefficient. -/
def reduced (d : Decimal) : Decimal :=
  { negative := d.negative
    coefficient := digitsValue d.significant
    exponent := d.magnitude + 1 - d.significant.length }

theorem exists_raised_reduced (d : Decimal) : ∃ k, d.reduced.raised k = d := by
  obtain ⟨k, digits⟩ := d.exists_zeros
  have coefficient : digitsValue d.significant * 10 ^ k = d.coefficient := by
    rw [← digitsValue_append_zeros, ← digits]
    exact Nat.ofDigitChars_ten_toDigits
  have count : digitCount d.coefficient = d.significant.length + k := by
    rw [digitCount, digits, List.length_append, List.length_replicate]
  have exponent : d.magnitude + 1 - d.significant.length - k = d.exponent := by
    rw [magnitude, count]
    omega
  refine ⟨k, ?_⟩
  rw [raised, reduced, coefficient, exponent]

theorem ofDecimal?_reduced (d : Decimal) : Double.ofDecimal? d.reduced = Double.ofDecimal? d := by
  obtain ⟨k, same⟩ := d.exists_raised_reduced
  calc Double.ofDecimal? d.reduced
      = Double.ofDecimal? (d.reduced.raised k) := (Double.ofDecimal?_raised _ k).symm
    _ = Double.ofDecimal? d := by rw [same]

/-- The literal has the given characters behind the sign of the number. It is not the literal of
an integer, and with enough zeros put behind them its digits are those of the number. -/
structure Spells (d : Decimal) (cs : List Char) (l : Literal) : Prop where
  negative : l.negative = d.negative
  unsigned : l.unsigned = cs
  marked : l.fraction ≠ [] ∨ l.exponent ≠ none
  value : ∃ k, l.parts.value = d.reduced.raised k

theorem value_eq_raised {l : Literal} {j k : Nat} (negative : l.negative = d.negative)
    (digits : l.whole ++ l.fraction =
      List.replicate j '0' ++ (d.significant ++ List.replicate k '0'))
    (place : exponentValue l.exponent - l.fraction.length =
      d.magnitude + 1 - d.significant.length - k) :
    l.parts.value = d.reduced.raised k := by
  have coefficient : digitsValue (l.whole ++ l.fraction) = digitsValue d.significant * 10 ^ k := by
    rw [digits, digitsValue_zeros_append, digitsValue_append_zeros]
  simp only [Literal.parts, Parts.value, raised, reduced, negative, coefficient, place]

theorem zeros_digits (k : Nat) : ∀ c ∈ List.replicate k '0', c.isDigit = true := by
  intro c member
  rw [List.eq_of_mem_replicate member]
  rfl

theorem orZero_ne_nil (digits : List Char) : orZero digits ≠ [] := by
  unfold orZero
  split
  · exact List.cons_ne_nil _ _
  · assumption

theorem orZero_digits (digits : ∀ c ∈ cs, c.isDigit = true) :
    ∀ c ∈ orZero cs, c.isDigit = true := by
  unfold orZero
  split
  · exact zeros_digits 1
  · exact digits

def wholeDigits (d : Decimal) : List Char :=
  (d.significant.take (d.magnitude.toNat + 1)).rightpad (d.magnitude.toNat + 1) '0'

/-- The digits behind the ones, at least one. -/
def fractionDigits (d : Decimal) : List Char :=
  orZero (d.significant.drop (d.magnitude.toNat + 1))

theorem isDigit_wholeDigits (d : Decimal) : ∀ c ∈ d.wholeDigits, c.isDigit = true := by
  intro c member
  rcases List.mem_append.1 member with member | member
  · exact d.significant_digits c (List.mem_of_mem_take member)
  · exact zeros_digits _ c member

theorem isDigit_fractionDigits (d : Decimal) : ∀ c ∈ d.fractionDigits, c.isDigit = true :=
  orZero_digits fun c member => d.significant_digits c (List.mem_of_mem_drop member)

theorem head?_wholeDigits (nonzero : d.coefficient ≠ 0) :
    ∃ c ∈ d.wholeDigits.head?, c ≠ '0' := by
  obtain ⟨c, head, other⟩ := head?_significant nonzero
  have kept : (d.significant.take (d.magnitude.toNat + 1)).head? = some c := by
    rw [List.head?_take, if_neg (Nat.succ_ne_zero _), head]
  exact ⟨c, by simp [wholeDigits, List.rightpad, List.head?_append, kept], other⟩

/-- On both sides of the point together stand the digits of the number and some zeros. -/
theorem exists_padding (large : 0 ≤ d.magnitude) :
    ∃ k, d.wholeDigits ++ d.fractionDigits = d.significant ++ List.replicate k '0' ∧
      -(d.fractionDigits.length : Int) = d.magnitude + 1 - d.significant.length - k := by
  obtain ⟨places, count⟩ : ∃ places, d.magnitude.toNat + 1 = places := ⟨_, rfl⟩
  rw [wholeDigits, fractionDigits, count]
  by_cases short : d.significant.length ≤ places
  · -- The ones are padded, and a single zero stands behind the point.
    have kept : d.significant.take places = d.significant := List.take_of_length_le short
    have none : d.significant.drop places = [] := List.drop_of_length_le short
    refine ⟨places - d.significant.length + 1, ?_, ?_⟩
    · rw [kept, none, List.replicate_succ', ← List.append_assoc]
      rfl
    · have one : (orZero (d.significant.drop places)).length = 1 := by rw [none]; rfl
      rw [one]
      omega
  · have some : d.significant.drop places ≠ [] := by simpa using short
    have full : places - (d.significant.take places).length = 0 := by
      rw [List.length_take]
      omega
    refine ⟨0, ?_, ?_⟩
    · rw [orZero, if_neg some, List.rightpad, full]
      simp
    · rw [orZero, if_neg some, List.length_drop]
      omega

theorem exists_spells_large (nonzero : d.coefficient ≠ 0) (large : 0 ≤ d.magnitude) :
    ∃ l, d.Spells d.plainText l := by
  let l : Literal :=
    { negative := d.negative, whole := d.wholeDigits, fraction := d.fractionDigits,
      exponent := none,
      isDigit_whole := d.isDigit_wholeDigits, isDigit_fraction := d.isDigit_fractionDigits,
      leading := .inr (head?_wholeDigits nonzero) }
  have some : d.fractionDigits ≠ [] := orZero_ne_nil _
  have unsigned : l.unsigned = d.plainText := by
    have fraction : Literal.fractionChars l.fraction = '.' :: d.fractionDigits := if_neg some
    rw [Literal.unsigned, fraction, exponentChars_none, List.append_nil, plainText,
      if_pos large]
    rfl
  obtain ⟨k, digits, place⟩ := exists_padding large
  have value : l.parts.value = d.reduced.raised k := by
    apply value_eq_raised (j := 0) rfl
    · exact digits
    · rw [← place, exponentValue_none, Int.zero_sub]
  exact ⟨l, rfl, unsigned, .inl some, k, value⟩

/-- A zero stands before the point, and further zeros between the point and the digits. -/
theorem exists_spells_small (nonzero : d.coefficient ≠ 0) (small : ¬0 ≤ d.magnitude) :
    ∃ l, d.Spells d.plainText l := by
  obtain ⟨zeros, count⟩ : ∃ zeros, zeros = (-d.magnitude - 1).toNat := ⟨_, rfl⟩
  let fraction := List.replicate zeros '0' ++ d.significant
  have fractionDigits : ∀ c ∈ fraction, c.isDigit = true := by
    intro c member
    rcases List.mem_append.1 member with member | member
    · exact zeros_digits zeros c member
    · exact d.significant_digits c member
  have some : fraction ≠ [] := by
    obtain ⟨c, head, -⟩ := head?_significant nonzero
    have member : c ∈ fraction := List.mem_append_right _ (List.mem_of_mem_head? head)
    exact List.ne_nil_of_mem member
  let l : Literal :=
    { negative := d.negative, whole := ['0'], fraction, exponent := none,
      isDigit_whole := zeros_digits 1, isDigit_fraction := fractionDigits, leading := .inl rfl }
  have unsigned : l.unsigned = d.plainText := by
    simp only [Literal.unsigned, Literal.fractionChars, exponentChars_none, l, if_neg some,
      plainText, if_neg small, List.append_nil]
    rw [← count]
    rfl
  have value : l.parts.value = d.reduced.raised 0 := by
    apply value_eq_raised (j := zeros + 1) rfl
    · simp [l, fraction, List.replicate_succ]
    · simp [l, fraction]
      omega
  exact ⟨l, rfl, unsigned, .inl some, 0, value⟩

/-- One digit stands before the point, and the exponent is the place of that digit. -/
theorem exists_spells_exponent (nonzero : d.coefficient ≠ 0) : ∃ l, d.Spells d.exponentText l := by
  obtain ⟨first, head, other⟩ := head?_significant nonzero
  obtain ⟨fraction, digits⟩ : ∃ fraction, d.significant = first :: fraction :=
    List.head?_eq_some_iff.1 head
  have wholeDigits : ∀ c ∈ [first], c.isDigit = true := by
    intro c member
    refine d.significant_digits c ?_
    rw [digits, List.mem_singleton.1 member]
    exact List.mem_cons_self
  have fractionDigits : ∀ c ∈ fraction, c.isDigit = true := by
    intro c member
    refine d.significant_digits c ?_
    rw [digits]
    exact List.mem_cons_of_mem _ member
  let l : Literal :=
    { negative := d.negative, whole := [first], fraction, exponent := some (.ofInt d.magnitude),
      isDigit_whole := wholeDigits, isDigit_fraction := fractionDigits,
      leading := .inr ⟨first, rfl, other⟩ }
  have unsigned : l.unsigned = d.exponentText := by
    simp [Literal.unsigned, Literal.fractionChars, exponentChars, Exponent.chars,
      Exponent.ofInt, l, exponentText, digits]
  have value : l.parts.value = d.reduced.raised 0 := by
    have place : exponentValue l.exponent = d.magnitude := exponentValue_ofInt _
    have count : d.significant.length = l.fraction.length + 1 := by rw [digits, List.length_cons]
    apply value_eq_raised (j := 0) rfl
    · simp [l, digits]
    · rw [place, count]
      omega
  have marked : l.exponent ≠ none := Option.some_ne_none _
  exact ⟨l, rfl, unsigned, .inr marked, 0, value⟩

/-- The text of a decimal number is a literal that is no integer and that rounds as it does. -/
theorem exists_literal_text (nonzero : d.coefficient ≠ 0) :
    ∃ l : Literal, l.chars = d.text ∧ (l.fraction ≠ [] ∨ l.exponent ≠ none) ∧
      Double.ofDecimal? l.parts.value = Double.ofDecimal? d := by
  have spelled : ∃ cs l, d.Spells cs l ∧ d.text = if d.negative then '-' :: cs else cs := by
    unfold text
    split
    · by_cases large : 0 ≤ d.magnitude
      · obtain ⟨l, spells⟩ := exists_spells_large nonzero large
        exact ⟨d.plainText, l, spells, rfl⟩
      · obtain ⟨l, spells⟩ := exists_spells_small nonzero large
        exact ⟨d.plainText, l, spells, rfl⟩
    · obtain ⟨l, spells⟩ := exists_spells_exponent nonzero
      exact ⟨d.exponentText, l, spells, rfl⟩
  obtain ⟨cs, l, spells, same⟩ := spelled
  obtain ⟨k, value⟩ := spells.value
  refine ⟨l, ?_, spells.marked, ?_⟩
  · rw [same, Literal.chars, spells.negative, spells.unsigned]
  · rw [value, Double.ofDecimal?_raised, ofDecimal?_reduced]

end Decimal

def Literal.zero (negative : Bool) : Literal :=
  { negative, whole := ['0'], fraction := ['0'], exponent := none,
    isDigit_whole := Decimal.zeros_digits 1, isDigit_fraction := Decimal.zeros_digits 1,
    leading := .inl rfl }

theorem Decimal.text_zero (negative : Bool) :
    Decimal.text { negative, coefficient := 0, exponent := 0 } = (Literal.zero negative).chars := by
  cases negative <;> decide

namespace Double

theorem shortest_coefficient_ne_zero {x : Double} (nonzero : x.mantissa ≠ 0) :
    x.shortest.coefficient ≠ 0 := by
  intro none
  have read := x.ofDecimal?_shortest
  rw [ofDecimal?_of_coefficient none] at read
  have same : zero x.shortest.negative = x := Option.some.inj read
  exact nonzero (same ▸ rfl)

/-- The text of a double is a literal that is no integer and that rounds to the double. -/
theorem exists_literal_shortest (x : Double) :
    ∃ l : Literal, l.chars = x.shortest.text ∧ (l.fraction ≠ [] ∨ l.exponent ≠ none) ∧
      ofDecimal? l.parts.value = some x := by
  by_cases none : x.mantissa = 0
  · refine ⟨Literal.zero x.negative, ?_, .inl (List.cons_ne_nil _ _), ?_⟩
    · rw [shortest, if_pos none, Decimal.text_zero]
    · exact (ofDecimal?_of_coefficient rfl).trans (congrArg some (eq_zero_of_mantissa none).symm)
  · have nonzero := shortest_coefficient_ne_zero none
    obtain ⟨l, chars, marked, value⟩ := Decimal.exists_literal_text nonzero
    exact ⟨l, chars, marked, value.trans x.ofDecimal?_shortest⟩

end Double

namespace Number

theorem ofLiteral?_of_marked {l : Literal} (marked : l.fraction ≠ [] ∨ l.exponent ≠ none) :
    ofLiteral? l.chars = (Double.ofDecimal? l.parts.value).map .double := by
  have noInteger : integerLiteral? l.chars = none := by
    rw [integerLiteral?, Literal.readInt?_chars_of_marked marked]
    split <;> rfl
  rw [ofLiteral?, noInteger, Option.none_or, l.readDouble?_chars]

/-- The text of an integer is a literal without a point and an exponent, whose digits are read as
that integer. -/
theorem exists_literal_intText (n : Int) :
    ∃ l : Literal, l.chars = Decimal.intText n ∧ Decimal.readInt? l.chars = some n := by
  have leading : Nat.toDigits 10 n.natAbs = ['0'] ∨
      ∃ c ∈ (Nat.toDigits 10 n.natAbs).head?, c ≠ '0' := by
    by_cases zero : n = 0
    · exact .inl (by rw [zero]; rfl)
    · exact .inr (Decimal.head?_toDigits (by omega))
  let l : Literal :=
    { negative := decide (n < 0), whole := Nat.toDigits 10 n.natAbs, fraction := [],
      exponent := none, isDigit_whole := isDigit_of_mem_toDigits,
      isDigit_fraction := nofun, leading }
  have chars : l.chars = Decimal.intText n := by
    simp [Literal.chars, Literal.unsigned, Literal.fractionChars, exponentChars, l,
      Decimal.intText]
  refine ⟨l, chars, ?_⟩
  have digits : Decimal.digitsValue l.whole = n.natAbs := Nat.ofDigitChars_ten_toDigits
  rw [Literal.readInt?_chars_of_whole rfl rfl, digits]
  exact congrArg some (signed_natAbs n)

theorem intText_ne_negative_zero (n : Int) : Decimal.intText n ≠ ['-', '0'] := by
  intro same
  obtain ⟨l, chars, value⟩ := exists_literal_intText n
  rw [chars, same] at value
  obtain rfl : 0 = n := Option.some.inj value
  cases same

/-- The text of an integer is a literal without a point and an exponent that is read as it. -/
theorem exists_literal_integer (n : Int) (fits : FitsWord n) :
    ∃ l : Literal, l.chars = Decimal.intText n ∧ ofLiteral? l.chars = some (.integer n fits) := by
  obtain ⟨l, chars, value⟩ := exists_literal_intText n
  have noZero : l.chars ≠ ['-', '0'] := chars ▸ intText_ne_negative_zero n
  refine ⟨l, chars, ?_⟩
  rw [ofLiteral?, integerLiteral?, if_neg noZero, value]
  simp [ofInt?, fits]

/-- A number is written as a literal, which is read as that number. -/
theorem exists_literal (n : Number) :
    ∃ l : Literal, n.chars = l.chars ∧ ofLiteral? l.chars = some n := by
  cases n with
  | integer n fits =>
      obtain ⟨l, chars, read⟩ := exists_literal_integer n fits
      exact ⟨l, chars.symm, read⟩
  | double x =>
      obtain ⟨l, chars, marked, value⟩ := x.exists_literal_shortest
      refine ⟨l, chars.symm, ?_⟩
      rw [ofLiteral?_of_marked marked, value]
      rfl

theorem ofLiteral?_chars (n : Number) : ofLiteral? n.chars = some n := by
  obtain ⟨l, chars, read⟩ := n.exists_literal
  rw [chars, read]

end Number

end ChannelFilter
