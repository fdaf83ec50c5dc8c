import ChannelFilter.Token.Lexer

/-!
# Classes of characters

The lexer asks of a character whether it is a blank, a parenthesis, a quote, a character of
operators, a digit, or one that a word starts with, and the first class that holds it decides how
the token is read. The order of these questions does not matter where the classes are disjoint.
For the classes that tables give, disjointness is checked on the ranges of the tables.
-/
namespace ChannelFilter.Text

variable {table other : List CodeRange} {c : Char}

/-- No range of the one table meets a range of the other. -/
def apart (table other : List CodeRange) : Bool :=
  table.all fun range => other.all fun away =>
    decide (range.last < away.first) || decide (away.last < range.first)

theorem not_inTable_of_apart (h : apart table other = true) (inside : inTable table c = true) :
    inTable other c = false := by
  obtain ⟨range, member, low, high⟩ := (inTable_iff table c).1 inside
  have away := List.all_eq_true.1 (List.all_eq_true.1 h range member)
  rw [Bool.eq_false_iff]
  intro outside
  obtain ⟨q, memberOther, lowOther, highOther⟩ := (inTable_iff other c).1 outside
  have separate := away q memberOther
  simp only [Bool.or_eq_true, decide_eq_true_eq] at separate
  omega

theorem isDigit_iff : c.isDigit = true ↔ 48 ≤ c.toNat ∧ c.toNat ≤ 57 := by
  simp [Char.isDigit, UInt32.le_iff_toNat_le]

theorem isAlpha_iff :
    c.isAlpha = true ↔ 65 ≤ c.toNat ∧ c.toNat ≤ 90 ∨ 97 ≤ c.toNat ∧ c.toNat ≤ 122 := by
  have upper : c.isUpper = true ↔ 65 ≤ c.toNat ∧ c.toNat ≤ 90 :=
    decide_eq_true_iff.trans (and_congr UInt32.le_iff_toNat_le UInt32.le_iff_toNat_le)
  have lower : c.isLower = true ↔ c.val ≥ 97 ∧ c.val ≤ 122 :=
    Bool.and_eq_true_iff.trans (and_congr decide_eq_true_iff decide_eq_true_iff)
  have either : c.isAlpha = true ↔ c.isUpper = true ∨ c.isLower = true := Bool.or_eq_true_iff
  rw [either, upper, lower, ge_iff_le, UInt32.le_iff_toNat_le, UInt32.le_iff_toNat_le]
  rfl

/-- The ASCII letters are letters. -/
theorem isLetter_of_isAlpha (h : c.isAlpha = true) : isLetter c = true := by
  have bounds := isAlpha_iff.1 h
  have ascii : c.toNat < 0x80 := by omega
  simp [isLetter, ascii, h]

theorem not_isLetter_of_isDigit (h : c.isDigit = true) : isLetter c = false := by
  have bounds := isDigit_iff.1 h
  have ascii : c.toNat < 0x80 := by omega
  rw [isLetter, if_pos ascii, Bool.eq_false_iff, ne_eq, isAlpha_iff]
  omega

theorem blank_bounds (h : isBlank c = true) :
    c.toNat ≤ 0x0D ∨ c.toNat = 0x20 ∨ 0x85 ≤ c.toNat := by
  obtain ⟨range, member, low, high⟩ := (inTable_iff blankTable c).1 h
  have bound : ∀ range ∈ blankTable, range.last ≤ 0x0D ∨ range.first = 0x20 ∧ range.last = 0x20 ∨
      0x85 ≤ range.first := by decide
  have within := bound range member
  omega

theorem not_isLetter_of_isBlank (h : isBlank c = true) : isLetter c = false := by
  have bounds := blank_bounds h
  have tables : apart blankTable letterTable = true := by decide +kernel
  unfold isLetter
  split
  · rw [Bool.eq_false_iff, ne_eq, isAlpha_iff]
    omega
  · exact not_inTable_of_apart tables h

theorem not_isNumeral_of_isBlank (h : isBlank c = true) : isNumeral c = false := by
  have bounds := blank_bounds h
  have tables : apart blankTable numeralTable = true := by decide +kernel
  unfold isNumeral
  split
  · rw [Bool.eq_false_iff, ne_eq, isDigit_iff]
    omega
  · exact not_inTable_of_apart tables h

theorem not_isBlank_of_isDigit (h : c.isDigit = true) : isBlank c = false := by
  have digit := isDigit_iff.1 h
  rw [Bool.eq_false_iff]
  intro blank
  have bounds := blank_bounds blank
  omega

/-- A character whose lower case is a letter of ASCII is one itself. -/
theorem isAlpha_of_toLower (h : c.toLower.isLower = true) : c.isAlpha = true := by
  unfold Char.toLower at h
  split at h
  · next upper =>
    have isUpper : c.isUpper = true := decide_eq_true upper
    exact Bool.or_eq_true_iff.2 (.inl isUpper)
  · exact Bool.or_eq_true_iff.2 (.inr h)

end ChannelFilter.Text

namespace ChannelFilter.Token

open Text (isBlank isLetter isQuote isLetter_of_isAlpha)

variable {c : Char} {cs : List Char} {keyword other : String}

theorem isWordStart_of_isAlpha (h : c.isAlpha = true) : isWordStart c = true := by
  simp [isWordStart, isLetter_of_isAlpha h]

theorem isWordChar_of_isWordStart (h : isWordStart c = true) : isWordChar c = true := by
  unfold isWordStart at h
  rcases Bool.or_eq_true_iff.1 h with letter | underscore
  · simp [isWordChar, letter]
  · simp [isWordChar, underscore]

theorem not_isBlank_of_isWordStart (h : isWordStart c = true) : isBlank c = false := by
  rw [Bool.eq_false_iff]
  intro blank
  unfold isWordStart at h
  rcases Bool.or_eq_true_iff.1 h with letter | underscore
  · rw [Text.not_isLetter_of_isBlank blank] at letter
    cases letter
  · rw [beq_iff_eq.1 underscore] at blank
    exact absurd blank (by decide)

theorem not_isWordChar_of_isBlank (h : isBlank c = true) : isWordChar c = false := by
  have other : ∀ sign, isBlank sign = false → c ≠ sign := by
    intro sign visible same
    rw [same, visible] at h
    cases h
  simp only [isWordChar, Text.not_isLetter_of_isBlank h, Text.not_isNumeral_of_isBlank h,
    Bool.false_or, Bool.or_eq_false_iff, beq_eq_false_iff_ne]
  exact ⟨⟨other '_' (by decide), other '-' (by decide)⟩, other '.' (by decide)⟩

theorem not_isDigit_of_isWordStart (h : isWordStart c = true) : c.isDigit = false := by
  rw [Bool.eq_false_iff]
  intro digit
  unfold isWordStart at h
  rcases Bool.or_eq_true_iff.1 h with letter | underscore
  · rw [Text.not_isLetter_of_isDigit digit] at letter
    cases letter
  · rw [beq_iff_eq.1 underscore] at digit
    exact absurd digit (by decide)

/-- The word is written in lower-case letters of ASCII, one at least. -/
def Lowercase (word : String) : Prop :=
  word.toList ≠ [] ∧ ∀ c ∈ word.toList, c.isLower = true

-- Spelled out, since a search may find the instance that runs through every character there is.
instance (word : String) : Decidable (Lowercase word) :=
  @instDecidableAnd _ _ inferInstance (List.decidableBAll (·.isLower = true) word.toList)

theorem Lowercase.isAlpha_of_isWord (lower : Lowercase keyword) (h : isWord keyword cs = true) :
    ∀ c ∈ cs, c.isAlpha = true := by
  intro c member
  have spelled : cs.map Char.toLower = keyword.toList := beq_iff_eq.1 h
  have image : c.toLower ∈ keyword.toList := by
    rw [← spelled]
    exact List.mem_map_of_mem member
  exact Text.isAlpha_of_toLower (lower.2 _ image)

theorem Lowercase.ne_nil_of_isWord (lower : Lowercase keyword) (h : isWord keyword cs = true) :
    cs ≠ [] := by
  intro empty
  rw [empty] at h
  exact lower.1 (beq_iff_eq.1 h).symm

/-- No text is two words at once. -/
theorem not_isWord_of_ne (h : isWord keyword cs = true) (ne : keyword ≠ other) :
    isWord other cs = false := by
  rw [Bool.eq_false_iff]
  intro k
  have same : keyword.toList = other.toList := (beq_iff_eq.1 h).symm.trans (beq_iff_eq.1 k)
  exact ne (String.toList_inj.1 same)

end ChannelFilter.Token
