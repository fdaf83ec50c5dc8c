import ChannelFilter.Number.Basic
import ChannelFilter.Proofs.StrippedText

/-!
# How decimal numbers are spelled

A decimal number is spelled with an optional sign, digits, a point among them or next to them if
there is one, and an exponent part if there is one. At least one digit stands in front of the
exponent part. The parts of a spelling are read back from its characters, and every text whose
parts are read is a spelling of them. The texts that are read as integers are the spellings that
have neither a point nor an exponent part. A filter expression accepts spellings only, with any
blanks around them.
-/
namespace ChannelFilter

open Text (takeWhile_run dropWhile_run)

/-- An exponent part: a mark, an optional sign and at least one digit. -/
structure Exponent where
  mark : Char
  sign : List Char
  digits : List Char
  mark_mem : mark = 'e' ∨ mark = 'E'
  sign_mem : sign = [] ∨ sign = ['+'] ∨ sign = ['-']
  digits_ne_nil : digits ≠ []
  isDigit : ∀ c ∈ digits, c.isDigit = true

/-- The parts that a decimal number is spelled with. There is a fraction as soon as there is a
point, also when no digits stand behind it. -/
structure Decimal.Spelling where
  sign : List Char
  whole : List Char
  fraction : Option (List Char)
  exponent : Option Exponent
  sign_mem : sign = [] ∨ sign = ['+'] ∨ sign = ['-']
  isDigit_whole : ∀ c ∈ whole, c.isDigit = true
  isDigit_fraction : ∀ c ∈ fraction.getD [], c.isDigit = true
  some_digit : whole ≠ [] ∨ fraction.getD [] ≠ []

variable {cs digits rest tail : List Char}

theorem ne_of_isDigit {c other : Char} (digit : c.isDigit = true)
    (noDigit : other.isDigit = false) : c ≠ other := by
  rintro rfl
  rw [digit] at noDigit
  cases noDigit

theorem exists_digits_cons (some : digits ≠ []) (all : ∀ c ∈ digits, c.isDigit = true) :
    ∃ c cs, digits = c :: cs ∧ c.isDigit = true := by
  cases digits with
  | nil => exact absurd rfl some
  | cons c cs => exact ⟨c, cs, rfl, all c List.mem_cons_self⟩

theorem isDigit_of_mem_toDigits {n : Nat} : ∀ c ∈ Nat.toDigits 10 n, c.isDigit = true :=
  fun _ member => Nat.isDigit_of_mem_toDigits (by decide) (by decide) member

theorem isDigit_of_mem_takeWhile (cs : List Char) :
    ∀ c ∈ cs.takeWhile Char.isDigit, c.isDigit = true :=
  fun c member => List.all_eq_true.1 List.all_takeWhile c member

theorem readNat?_digits (some : digits ≠ []) (all : ∀ c ∈ digits, c.isDigit = true) :
    Decimal.readNat? digits = .some (Decimal.digitsValue digits) := by
  rw [Decimal.readNat?, if_pos ⟨some, List.all_eq_true.2 all⟩]

theorem readNat?_eq_some {n : Nat} (h : Decimal.readNat? cs = .some n) :
    cs ≠ [] ∧ ∀ c ∈ cs, c.isDigit = true := by
  unfold Decimal.readNat? at h
  split at h
  · next digits => exact ⟨digits.1, List.all_eq_true.1 digits.2⟩
  · cases h

theorem signed_natAbs (n : Int) : Decimal.signed (decide (n < 0)) n.natAbs = n := by
  simp only [Decimal.signed, decide_eq_true_iff]
  omega

theorem readSign_sign {sign : List Char} (sign_mem : sign = [] ∨ sign = ['+'] ∨ sign = ['-'])
    (unsigned : ∀ c ∈ rest.head?, c ≠ '-' ∧ c ≠ '+') :
    Decimal.readSign (sign ++ rest) = (sign == ['-'], rest) := by
  rcases sign_mem with rfl | rfl | rfl
  · cases rest with
    | nil => rfl
    | cons c rest =>
        obtain ⟨noMinus, noPlus⟩ := unsigned c rfl
        simp [Decimal.readSign, noMinus, noPlus]
  · rfl
  · rfl

theorem exists_readSign (cs : List Char) :
    ∃ sign rest, (sign = [] ∨ sign = ['+'] ∨ sign = ['-']) ∧ cs = sign ++ rest ∧
      Decimal.readSign cs = (sign == ['-'], rest) := by
  unfold Decimal.readSign
  split
  · next rest => exact ⟨['-'], rest, .inr (.inr rfl), rfl, rfl⟩
  · next rest => exact ⟨['+'], rest, .inr (.inl rfl), rfl, rfl⟩
  · exact ⟨[], cs, .inl rfl, rfl, rfl⟩

theorem head?_of_digits (some : digits ≠ []) (all : ∀ c ∈ digits, c.isDigit = true) :
    ∀ c ∈ (digits ++ rest).head?, c ≠ '-' ∧ c ≠ '+' := by
  obtain ⟨first, others, rfl, digit⟩ := exists_digits_cons some all
  intro c member
  obtain rfl : first = c := Option.some.inj member
  exact ⟨ne_of_isDigit digit rfl, ne_of_isDigit digit rfl⟩

/-- Digits behind an optional sign are read as an integer. -/
theorem readInt?_sign {sign : List Char} (sign_mem : sign = [] ∨ sign = ['+'] ∨ sign = ['-'])
    (some : digits ≠ []) (all : ∀ c ∈ digits, c.isDigit = true) :
    Decimal.readInt? (sign ++ digits) =
      .some (Decimal.signed (sign == ['-']) (Decimal.digitsValue digits)) := by
  have unsigned : ∀ c ∈ digits.head?, c ≠ '-' ∧ c ≠ '+' := by
    rw [← List.append_nil digits]
    exact head?_of_digits some all
  rw [Decimal.readInt?, readSign_sign sign_mem unsigned]
  simp only [readNat?_digits some all, Option.map_some]

theorem exists_of_readInt? {i : Int} (h : Decimal.readInt? cs = some i) :
    ∃ sign digits, (sign = [] ∨ sign = ['+'] ∨ sign = ['-']) ∧ digits ≠ [] ∧
      (∀ c ∈ digits, c.isDigit = true) ∧ cs = sign ++ digits ∧
      i = Decimal.signed (sign == ['-']) (Decimal.digitsValue digits) := by
  obtain ⟨sign, digits, sign_mem, spelled, read⟩ := exists_readSign cs
  rw [Decimal.readInt?, read] at h
  obtain ⟨n, digitsRead, signed⟩ := Option.map_eq_some_iff.1 h
  obtain ⟨some, all⟩ := readNat?_eq_some digitsRead
  obtain rfl : Decimal.digitsValue digits = n :=
    Option.some.inj ((readNat?_digits some all).symm.trans digitsRead)
  exact ⟨sign, digits, sign_mem, some, all, spelled, signed.symm⟩

namespace Exponent

def chars (e : Exponent) : List Char :=
  e.mark :: (e.sign ++ e.digits)

def value (e : Exponent) : Int :=
  Decimal.signed (e.sign == ['-']) (Decimal.digitsValue e.digits)

def ofInt (n : Int) : Exponent :=
  { mark := 'e'
    sign := [if n < 0 then '-' else '+']
    digits := Nat.toDigits 10 n.natAbs
    mark_mem := .inl rfl
    sign_mem := by split <;> simp
    digits_ne_nil := Nat.toDigits_ne_nil
    isDigit := isDigit_of_mem_toDigits }

theorem value_ofInt (n : Int) : (ofInt n).value = n := by
  have digits : Decimal.digitsValue (ofInt n).digits = n.natAbs := Nat.ofDigitChars_ten_toDigits
  have sign : ((ofInt n).sign == ['-']) = decide (n < 0) := by
    by_cases minus : n < 0 <;> simp [ofInt, minus]
  rw [value, digits, sign, signed_natAbs]

theorem readExponent?_chars (e : Exponent) : Decimal.readExponent? e.chars = some e.value := by
  rw [chars, Decimal.readExponent?, if_pos e.mark_mem]
  exact readInt?_sign e.sign_mem e.digits_ne_nil e.isDigit

theorem exists_of_readExponent? {n : Int} {mark : Char}
    (h : Decimal.readExponent? (mark :: cs) = some n) :
    ∃ e : Exponent, e.chars = mark :: cs ∧ e.value = n := by
  rw [Decimal.readExponent?] at h
  split at h
  · next mark_mem =>
    obtain ⟨sign, digits, sign_mem, digits_ne_nil, isDigit, rfl, rfl⟩ := exists_of_readInt? h
    exact ⟨⟨mark, sign, digits, mark_mem, sign_mem, digits_ne_nil, isDigit⟩, rfl, rfl⟩
  · cases h

end Exponent

/-- The number for a decimal number that is not taken as an integer: that of its double. -/
def Number.ofDecimal? (d : Decimal) : Option Number :=
  (Double.ofDecimal? d).map ofDouble

namespace Decimal.Spelling

def pointChars (fraction : Option (List Char)) : List Char :=
  fraction.elim [] ('.' :: ·)

def exponentChars (exponent : Option Exponent) : List Char :=
  exponent.elim [] Exponent.chars

def exponentValue (exponent : Option Exponent) : Int :=
  exponent.elim 0 Exponent.value

@[simp]
theorem exponentChars_none : exponentChars none = [] := rfl

@[simp]
theorem exponentValue_none : exponentValue none = 0 := rfl

@[simp]
theorem exponentValue_ofInt (n : Int) : exponentValue (some (.ofInt n)) = n :=
  Exponent.value_ofInt n

theorem readExponent?_exponentChars (exponent : Option Exponent) :
    Decimal.readExponent? (exponentChars exponent) = some (exponentValue exponent) := by
  cases exponent with
  | none => rfl
  | some e => exact e.readExponent?_chars

theorem exists_of_readExponent? {n : Int} (h : Decimal.readExponent? tail = some n) :
    ∃ exponent, exponentChars exponent = tail ∧ exponentValue exponent = n := by
  cases tail with
  | nil => exact ⟨none, rfl, Option.some.inj h⟩
  | cons mark cs =>
      obtain ⟨e, chars, value⟩ := Exponent.exists_of_readExponent? h
      exact ⟨some e, chars, value⟩

theorem head?_exponentChars (exponent : Option Exponent) :
    ∀ c ∈ (exponentChars exponent).head?, c.isDigit = false ∧ c ≠ '.' := by
  intro c member
  cases exponent with
  | none => cases member
  | some e =>
      obtain rfl : e.mark = c := Option.some.inj member
      rcases e.mark_mem with mark | mark <;> rw [mark] <;> decide

theorem head?_pointChars (fraction : Option (List Char))
    (ends : ∀ c ∈ tail.head?, c.isDigit = false) :
    ∀ c ∈ (pointChars fraction ++ tail).head?, c.isDigit = false := by
  intro c member
  cases fraction with
  | none => exact ends c member
  | some digits =>
      obtain rfl : '.' = c := Option.some.inj member
      rfl

theorem readFraction_pointChars {fraction : Option (List Char)}
    (all : ∀ c ∈ fraction.getD [], c.isDigit = true)
    (ends : ∀ c ∈ tail.head?, c.isDigit = false ∧ c ≠ '.') :
    Decimal.readFraction (pointChars fraction ++ tail) = (fraction.getD [], tail) := by
  cases fraction with
  | none =>
      show Decimal.readFraction tail = ([], tail)
      unfold Decimal.readFraction
      split
      · exact absurd rfl (ends '.' rfl).2
      · rfl
  | some digits =>
      have noDigit := fun c member => (ends c member).1
      have taken : (digits ++ tail).takeWhile Char.isDigit = digits := takeWhile_run all noDigit
      have left : (digits ++ tail).dropWhile Char.isDigit = tail := dropWhile_run all noDigit
      show Decimal.readFraction ('.' :: (digits ++ tail)) = (digits, tail)
      rw [Decimal.readFraction, taken, left]

theorem exists_readFraction (cs : List Char) :
    ∃ fraction tail, (∀ c ∈ fraction.getD [], c.isDigit = true) ∧ pointChars fraction ++ tail = cs ∧
      Decimal.readFraction cs = (fraction.getD [], tail) := by
  unfold Decimal.readFraction
  split
  · next cs =>
    refine ⟨some (cs.takeWhile Char.isDigit), cs.dropWhile Char.isDigit,
      isDigit_of_mem_takeWhile cs, ?_, rfl⟩
    exact congrArg ('.' :: ·) List.takeWhile_append_dropWhile
  · exact ⟨none, cs, nofun, rfl, rfl⟩

def negative (s : Spelling) : Bool :=
  s.sign == ['-']

def fractionDigits (s : Spelling) : List Char :=
  s.fraction.getD []

def unsigned (s : Spelling) : List Char :=
  s.whole ++ (pointChars s.fraction ++ exponentChars s.exponent)

def chars (s : Spelling) : List Char :=
  s.sign ++ s.unsigned

def parts (s : Spelling) : Decimal.Parts :=
  { negative := s.negative, whole := s.whole, fraction := s.fractionDigits,
    exponent := exponentValue s.exponent }

/-- The spelling has neither a point nor an exponent part. -/
def IsInteger (s : Spelling) : Prop :=
  s.fraction = none ∧ s.exponent = none

theorem head?_unsigned (s : Spelling) : ∀ c ∈ s.unsigned.head?, c ≠ '-' ∧ c ≠ '+' := by
  by_cases none : s.whole = []
  · cases fraction : s.fraction with
    | none =>
        have noDigit : s.fraction.getD [] = [] := by rw [fraction]; rfl
        exact s.some_digit.elim (absurd none) (absurd noDigit)
    | some digits =>
        intro c member
        rw [unsigned, none, fraction] at member
        obtain rfl : '.' = c := Option.some.inj member
        decide
  · exact head?_of_digits none s.isDigit_whole

theorem readSign_chars (s : Spelling) : Decimal.readSign s.chars = (s.negative, s.unsigned) :=
  readSign_sign s.sign_mem s.head?_unsigned

/-- The parts of a spelling are read back from its characters. -/
theorem readParts?_chars (s : Spelling) : Decimal.readParts? s.chars = some s.parts := by
  have afterFraction := head?_exponentChars s.exponent
  have afterWhole := head?_pointChars s.fraction fun c member => (afterFraction c member).1
  have whole := takeWhile_run s.isDigit_whole afterWhole
  have behind := dropWhile_run s.isDigit_whole afterWhole
  have fraction := readFraction_pointChars s.isDigit_fraction afterFraction
  have some : ¬(s.whole = [] ∧ s.fraction.getD [] = []) := by
    rintro ⟨noWhole, noFraction⟩
    exact s.some_digit.elim (absurd noWhole) (absurd noFraction)
  rw [Decimal.readParts?, s.readSign_chars]
  simp only [unsigned, whole, behind, fraction, if_neg some, readExponent?_exponentChars,
    Option.map_some]
  rfl

/-- A text whose parts are read is a spelling of these parts. -/
theorem exists_of_readParts? {parts : Decimal.Parts} (h : Decimal.readParts? cs = some parts) :
    ∃ s : Spelling, s.chars = cs ∧ s.parts = parts := by
  obtain ⟨sign, rest, sign_mem, spelled, signRead⟩ := exists_readSign cs
  obtain ⟨fraction, tail, isDigit_fraction, behind, fractionRead⟩ :=
    exists_readFraction (rest.dropWhile Char.isDigit)
  rw [Decimal.readParts?, signRead] at h
  simp only [fractionRead] at h
  split at h
  · cases h
  · next digits =>
    obtain ⟨n, exponentRead, same⟩ := Option.map_eq_some_iff.1 h
    obtain ⟨exponent, exponentSpelled, value⟩ := exists_of_readExponent? exponentRead
    let s : Spelling :=
      { sign, whole := rest.takeWhile Char.isDigit, fraction, exponent, sign_mem,
        isDigit_whole := isDigit_of_mem_takeWhile rest, isDigit_fraction,
        some_digit := Decidable.not_and_iff_not_or_not.1 digits }
    refine ⟨s, ?_, ?_⟩
    · rw [spelled, ← List.takeWhile_append_dropWhile (p := Char.isDigit) (l := rest), ← behind,
        ← exponentSpelled]
      rfl
    · rw [← same, ← value]
      rfl

theorem readInt?_chars_of_isInteger {s : Spelling} (integer : s.IsInteger) :
    Decimal.readInt? s.chars = some (Decimal.signed s.negative (Decimal.digitsValue s.whole)) := by
  have noFraction : s.fraction.getD [] = [] := by rw [integer.1]; rfl
  have whole : s.whole ≠ [] := s.some_digit.resolve_right (absurd noFraction)
  have plain : s.chars = s.sign ++ s.whole := by
    rw [chars, unsigned, integer.1, integer.2]
    exact congrArg _ (List.append_nil _)
  rw [plain, readInt?_sign s.sign_mem whole s.isDigit_whole]
  rfl

/-- A point or the mark of an exponent part is no digit. -/
theorem exists_mark {s : Spelling} (marked : ¬s.IsInteger) :
    ∃ c ∈ s.unsigned, c.isDigit = false := by
  cases fraction : s.fraction with
  | some digits =>
      refine ⟨'.', ?_, rfl⟩
      rw [unsigned, fraction]
      exact List.mem_append_right _ List.mem_cons_self
  | none =>
      cases exponent : s.exponent with
      | none => exact absurd ⟨fraction, exponent⟩ marked
      | some e =>
          refine ⟨e.mark, ?_, ?_⟩
          · rw [unsigned, fraction, exponent]
            exact List.mem_append_right _ List.mem_cons_self
          · exact (head?_exponentChars (some e) e.mark rfl).1

theorem readInt?_chars_of_not_isInteger {s : Spelling} (marked : ¬s.IsInteger) :
    Decimal.readInt? s.chars = none := by
  obtain ⟨c, member, noDigit⟩ := exists_mark marked
  have notAll : ¬(s.unsigned ≠ [] ∧ s.unsigned.all Char.isDigit = true) := by
    rintro ⟨-, all⟩
    exact ne_of_isDigit (List.all_eq_true.1 all c member) noDigit rfl
  rw [Decimal.readInt?, s.readSign_chars]
  simp only [Decimal.readNat?, if_neg notAll, Option.map_none]

theorem readDouble?_chars (s : Spelling) :
    Number.readDouble? s.chars = Double.ofDecimal? s.parts.value := by
  rw [Number.readDouble?, Decimal.read?, s.readParts?_chars]
  rfl

variable {s : Spelling} {text : String}

/-- The text is the spelling, with any blanks around it. -/
def IsOf (s : Spelling) (text : String) : Prop :=
  Text.strip Text.isBlank text.toList = s.chars
deriving Decidable

/-- A text is read by the digits of an integer if it can be, and otherwise by way of a double. -/
theorem read?_eq (spelled : s.IsOf text) : Number.read? text =
    ((readInt? s.chars).bind Number.ofSigned?).or (Number.ofDecimal? s.parts.value) := by
  rw [Number.read?, spelled, readDouble?_chars]
  rfl

theorem read?_of_not_isInteger (spelled : s.IsOf text) (marked : ¬s.IsInteger) :
    Number.read? text = Number.ofDecimal? s.parts.value := by
  rw [read?_eq spelled, readInt?_chars_of_not_isInteger marked, Option.bind_none, Option.none_or]

/-- A text that is accepted is a spelling. -/
theorem exists_of_read? {n : Number} (accepted : Number.read? text = some n) :
    ∃ s : Spelling, s.IsOf text := by
  rw [Number.read?, Option.or_eq_some_iff] at accepted
  rcases accepted with digits | ⟨-, double⟩
  · obtain ⟨i, read, -⟩ := Option.bind_eq_some_iff.1 digits
    obtain ⟨sign, whole, sign_mem, some_digit, isDigit_whole, spelled, -⟩ := exists_of_readInt? read
    let s : Spelling :=
      { sign, whole, fraction := none, exponent := none, sign_mem, isDigit_whole,
        isDigit_fraction := fun _ member => absurd member List.not_mem_nil
        some_digit := .inl some_digit }
    refine ⟨s, spelled.trans ?_⟩
    simp [s, chars, unsigned, pointChars]
  · obtain ⟨x, read, -⟩ := Option.map_eq_some_iff.1 double
    obtain ⟨d, decimal, -⟩ := Option.bind_eq_some_iff.1 read
    obtain ⟨parts, partsRead, -⟩ := Option.map_eq_some_iff.1 decimal
    obtain ⟨s, spelled, -⟩ := exists_of_readParts? partsRead
    exact ⟨s, spelled.symm⟩

end Decimal.Spelling

end ChannelFilter
