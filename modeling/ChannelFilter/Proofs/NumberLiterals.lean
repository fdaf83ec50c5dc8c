import ChannelFilter.Json.Lexeme
import ChannelFilter.Proofs.NumberSpellings

/-!
# Number literals by their parts

A number literal of a document is an optional minus, whole digits without a needless zero at the
front, and, as far as there are any, fraction digits behind a point and an exponent part. Two
readers meet such a literal. The one that finds lexical elements takes all of it, if nothing behind
it could belong to a number. For the one that finds decimal numbers a literal is one of the
spellings that it reads the parts back from.
-/
namespace ChannelFilter

open Text (takeWhile_run dropWhile_run)
open Decimal.Spelling (exponentChars exponentValue)

/-- The parts that a number literal is written from. -/
structure Literal where
  negative : Bool
  whole : List Char
  fraction : List Char
  exponent : Option Exponent
  isDigit_whole : ∀ c ∈ whole, c.isDigit = true
  isDigit_fraction : ∀ c ∈ fraction, c.isDigit = true
  leading : whole = ['0'] ∨ ∃ c ∈ whole.head?, c ≠ '0'

variable {digits rest tail : List Char}

theorem readSign_digits (some : digits ≠ []) (all : ∀ c ∈ digits, c.isDigit = true) :
    Json.Lexeme.readSign (digits ++ tail) = ([], digits ++ tail) := by
  obtain ⟨c, cs, rfl, digit⟩ := exists_digits_cons some all
  have noMinus : c ≠ '-' := ne_of_isDigit digit rfl
  have noPlus : c ≠ '+' := ne_of_isDigit digit rfl
  simp [Json.Lexeme.readSign, noMinus, noPlus]

theorem Exponent.readSign_sign (e : Exponent) (rest : List Char) :
    Json.Lexeme.readSign (e.sign ++ (e.digits ++ rest)) = (e.sign, e.digits ++ rest) := by
  rcases e.sign_mem with sign | sign | sign <;> rw [sign]
  · rw [List.nil_append]
    exact readSign_digits e.digits_ne_nil e.isDigit
  · rfl
  · rfl

namespace Literal

def fractionChars (fraction : List Char) : List Char :=
  if fraction = [] then [] else '.' :: fraction

def unsigned (l : Literal) : List Char :=
  l.whole ++ (fractionChars l.fraction ++ exponentChars l.exponent)

def chars (l : Literal) : List Char :=
  if l.negative then '-' :: l.unsigned else l.unsigned

def parts (l : Literal) : Decimal.Parts :=
  { negative := l.negative, whole := l.whole, fraction := l.fraction,
    exponent := exponentValue l.exponent }

/-- The first character of a text cannot belong to a number that ends in front of it. -/
def Ends (rest : List Char) : Prop :=
  ∀ c ∈ rest.head?, c.isDigit = false ∧ c ≠ '.' ∧ c ≠ 'e' ∧ c ≠ 'E'

theorem ends_nil : Ends [] := by
  intro c member
  cases member

theorem ends_cons {c : Char} (other : c.isDigit = false ∧ c ≠ '.' ∧ c ≠ 'e' ∧ c ≠ 'E')
    (cs : List Char) : Ends (c :: cs) := by
  intro d member
  obtain rfl : c = d := Option.some.inj member
  exact other

theorem whole_ne_nil (l : Literal) : l.whole ≠ [] := by
  intro none
  rcases l.leading with zero | ⟨c, member, -⟩
  · rw [none] at zero
    cases zero
  · rw [none] at member
    cases member

theorem head?_exponentChars (exponent : Option Exponent) (ends : Ends rest) :
    ∀ c ∈ (exponentChars exponent ++ rest).head?, c.isDigit = false ∧ c ≠ '.' := by
  intro c member
  cases exponent with
  | none => exact ⟨(ends c member).1, (ends c member).2.1⟩
  | some e =>
      obtain rfl : e.mark = c := Option.some.inj member
      rcases e.mark_mem with mark | mark <;> rw [mark] <;> decide

theorem head?_fractionChars (fraction : List Char) (ends : ∀ c ∈ tail.head?, c.isDigit = false) :
    ∀ c ∈ (fractionChars fraction ++ tail).head?, c.isDigit = false := by
  intro c member
  unfold fractionChars at member
  split at member
  · exact ends c member
  · obtain rfl : '.' = c := Option.some.inj member
    rfl

theorem head?_afterWhole (l : Literal) (ends : Ends rest) :
    ∀ c ∈ (fractionChars l.fraction ++ (exponentChars l.exponent ++ rest)).head?,
      c.isDigit = false :=
  head?_fractionChars _ fun c member => (head?_exponentChars _ ends c member).1

theorem ne_point_cons (ends : ∀ c ∈ tail.head?, c.isDigit = false ∧ c ≠ '.') (cs : List Char) :
    tail ≠ '.' :: cs := by
  rintro rfl
  exact (ends '.' rfl).2 rfl

theorem readWhole?_whole (l : Literal) (ends : ∀ c ∈ tail.head?, c.isDigit = false) :
    Json.Lexeme.readWhole? (l.whole ++ tail) = some (l.whole, tail) := by
  rcases l.leading with zero | ⟨c, member, nonzero⟩
  · rw [zero]
    rfl
  · have taken := takeWhile_run l.isDigit_whole ends
    have left := dropWhile_run l.isDigit_whole ends
    unfold Json.Lexeme.readWhole?
    split
    · next cs spelled =>
      have first : (l.whole ++ tail).head? = some c := by
        rw [List.head?_append, Option.mem_def.1 member]
        rfl
      rw [spelled] at first
      exact absurd (Option.some.inj first).symm nonzero
    · rw [taken, left, if_neg l.whole_ne_nil]

theorem readFraction?_fractionChars (all : ∀ c ∈ digits, c.isDigit = true)
    (ends : ∀ c ∈ tail.head?, c.isDigit = false ∧ c ≠ '.') :
    Json.Lexeme.readFraction? (fractionChars digits ++ tail) =
      some (fractionChars digits, tail) := by
  unfold fractionChars
  split
  · unfold Json.Lexeme.readFraction?
    split
    · next cs spelled => exact absurd spelled (ne_point_cons ends cs)
    · rfl
  · next some =>
    have noDigit := fun c member => (ends c member).1
    have taken := takeWhile_run all noDigit
    have left := dropWhile_run all noDigit
    rw [List.cons_append, Json.Lexeme.readFraction?, taken, left, if_neg some]

theorem readExponent?_exponentChars (exponent : Option Exponent) (ends : Ends rest) :
    Json.Lexeme.readExponent? (exponentChars exponent ++ rest) =
      some (exponentChars exponent, rest) := by
  cases exponent with
  | none =>
      cases rest with
      | nil => rfl
      | cons c rest =>
          obtain ⟨-, -, lower, upper⟩ := ends c rfl
          simp [exponentChars, Json.Lexeme.readExponent?, lower, upper]
  | some e =>
      have noDigit := fun c member => (ends c member).1
      have taken := takeWhile_run e.isDigit noDigit
      have left := dropWhile_run e.isDigit noDigit
      simp [exponentChars, Exponent.chars, Json.Lexeme.readExponent?, e.mark_mem, e.readSign_sign,
        taken, left, e.digits_ne_nil]

theorem readUnsigned?_unsigned (l : Literal) (ends : Ends rest) :
    Json.Lexeme.readUnsigned? (l.unsigned ++ rest) = some (l.unsigned, rest) := by
  have afterFraction := head?_exponentChars l.exponent ends
  have whole := l.readWhole?_whole (l.head?_afterWhole ends)
  have fraction := readFraction?_fractionChars l.isDigit_fraction afterFraction
  have exponent := readExponent?_exponentChars l.exponent ends
  have spelled : l.unsigned ++ rest =
      l.whole ++ (fractionChars l.fraction ++ (exponentChars l.exponent ++ rest)) := by
    simp [unsigned]
  rw [spelled, Json.Lexeme.readUnsigned?, whole]
  simp only [fraction, exponent, unsigned, List.append_assoc]

theorem exists_unsigned_cons (l : Literal) :
    ∃ c cs, l.unsigned = c :: cs ∧ c.isDigit = true := by
  obtain ⟨c, cs, spelled, digit⟩ := exists_digits_cons l.whole_ne_nil l.isDigit_whole
  exact ⟨c, cs ++ _, by rw [unsigned, spelled, List.cons_append], digit⟩

/-- A literal is taken off the front of a text as one number element. -/
theorem next?_chars (l : Literal) (ends : Ends rest) :
    ∃ c cs, l.chars = c :: cs ∧ Json.Lexeme.isSpace c = false ∧
      Json.Lexeme.next? c (cs ++ rest) = some (.number l.chars, rest) := by
  have read := l.readUnsigned?_unsigned ends
  unfold chars
  split
  · refine ⟨'-', l.unsigned, rfl, rfl, ?_⟩
    simp [Json.Lexeme.next?, Json.Lexeme.punctuation?, Json.Lexeme.nextLong?, read]
  · obtain ⟨c, cs, spelled, digit⟩ := l.exists_unsigned_cons
    have apart : ∀ other : Char, other.isDigit = false → c ≠ other :=
      fun _ noDigit => ne_of_isDigit digit noDigit
    rw [spelled, List.cons_append] at read
    refine ⟨c, cs, spelled, by simp [Json.Lexeme.isSpace, apart], ?_⟩
    simp [Json.Lexeme.next?, Json.Lexeme.punctuation?, Json.Lexeme.nextLong?, apart, digit, read,
      spelled]

/-- The fraction of a spelling that has a point only with digits behind it. -/
def pointed (digits : List Char) : Option (List Char) :=
  if digits = [] then none else some digits

theorem getD_pointed (digits : List Char) : (pointed digits).getD [] = digits := by
  unfold pointed
  split
  · next none => exact none.symm
  · rfl

theorem pointChars_pointed (digits : List Char) :
    Decimal.Spelling.pointChars (pointed digits) = fractionChars digits := by
  unfold pointed fractionChars
  split <;> rfl

def spelling (l : Literal) : Decimal.Spelling :=
  { sign := if l.negative then ['-'] else []
    whole := l.whole
    fraction := pointed l.fraction
    exponent := l.exponent
    sign_mem := by split <;> simp
    isDigit_whole := l.isDigit_whole
    isDigit_fraction := (getD_pointed l.fraction).symm ▸ l.isDigit_fraction
    some_digit := .inl l.whole_ne_nil }

theorem spelling_chars (l : Literal) : l.spelling.chars = l.chars := by
  have unsigned : l.spelling.unsigned = l.unsigned := by
    rw [unsigned, ← pointChars_pointed]
    rfl
  rw [Decimal.Spelling.chars, unsigned, chars]
  cases minus : l.negative <;> simp [spelling, minus]

theorem spelling_parts (l : Literal) : l.spelling.parts = l.parts := by
  have sign : l.spelling.negative = l.negative := by
    cases minus : l.negative <;> simp [Decimal.Spelling.negative, spelling, minus]
  have fraction : l.spelling.fractionDigits = l.fraction := getD_pointed l.fraction
  rw [Decimal.Spelling.parts, sign, fraction]
  rfl

theorem isInteger_spelling_iff {l : Literal} :
    l.spelling.IsInteger ↔ l.fraction = [] ∧ l.exponent = none := by
  simp [Decimal.Spelling.IsInteger, spelling, pointed]

theorem readDouble?_chars (l : Literal) :
    Number.readDouble? l.chars = Double.ofDecimal? l.parts.value := by
  rw [← l.spelling_chars, Decimal.Spelling.readDouble?_chars, l.spelling_parts]

theorem readInt?_chars_of_whole {l : Literal} (noFraction : l.fraction = [])
    (noExponent : l.exponent = none) :
    Decimal.readInt? l.chars = some (Decimal.signed l.negative (Decimal.digitsValue l.whole)) := by
  have integer := isInteger_spelling_iff.2 ⟨noFraction, noExponent⟩
  have sign : l.spelling.negative = l.negative := congrArg Decimal.Parts.negative l.spelling_parts
  rw [← l.spelling_chars, Decimal.Spelling.readInt?_chars_of_isInteger integer, sign]
  rfl

theorem readInt?_chars_of_marked {l : Literal} (marked : l.fraction ≠ [] ∨ l.exponent ≠ none) :
    Decimal.readInt? l.chars = none := by
  rw [← l.spelling_chars]
  apply Decimal.Spelling.readInt?_chars_of_not_isInteger
  rw [isInteger_spelling_iff]
  rintro ⟨noFraction, noExponent⟩
  exact marked.elim (absurd noFraction) (absurd noExponent)

end Literal

end ChannelFilter
