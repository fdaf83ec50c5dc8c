import ChannelFilter.Proofs.CharacterClasses
import ChannelFilter.Proofs.StrippedText

/-!
# The rules by which tokens are read

The rules by which a token is read off the front of a text say which characters it takes, what its
value is, and what the characters behind it must not be: none of them could be taken too. They are
stated on words, null checks, numbers and strings as such, without the functions that run over a
text, and share with the lexer what single characters may start a word or a number and go on with
it. Each of the four is first shown to be what the lexer's own runs of characters give.
-/
namespace ChannelFilter.Token

open Text (isBlank isQuote takeWhile_run dropWhile_run)

variable {c quote previous : Char} {cs tail rest middle word blanks body is : List Char}
variable {keyword : String} {lexed : Lexed}

theorem of_mem_takeWhile {p : Char → Bool} (h : c ∈ cs.takeWhile p) : p c = true :=
  List.all_eq_true.1 List.all_takeWhile c h

theorem forall_mem_cons_takeWhile {p : Char → Bool} (h : p c = true) (cs : List Char) :
    ∀ d ∈ c :: cs.takeWhile p, p d = true :=
  List.forall_mem_cons.2 ⟨h, fun _ member => of_mem_takeWhile member⟩

def keywords : List (Kind × String) :=
  [(.and, "and"), (.or, "or"), (.not, "not")]

structure IsWordText (word : List Char) : Prop where
  start : ∃ c ∈ word.head?, isWordStart c = true
  chars : ∀ c ∈ word, isWordChar c = true

/-- A word that names a channel: it is no keyword in any case of the ASCII letters. -/
structure IsName (word : List Char) : Prop extends IsWordText word where
  noKeyword : ∀ entry ∈ keywords, isWord entry.2 word = false

def WordEnds (rest : List Char) : Prop :=
  ∀ c ∈ rest.head?, isWordChar c = false

/-- One or more blanks. -/
def IsGap (blanks : List Char) : Prop :=
  blanks ≠ [] ∧ ∀ c ∈ blanks, isBlank c = true

/-- Behind some blanks stands the complete word, in any case, and then the rest. -/
def Follows (keyword : String) (cs rest : List Char) : Prop :=
  ∃ blanks word, IsGap blanks ∧ isWord keyword word = true ∧ WordEnds rest ∧
    cs = blanks ++ word ++ rest

/-- What follows would make a null check of the word "is". -/
def NullCheckFollows (cs : List Char) : Prop :=
  (∃ rest, Follows "null" cs rest) ∨
    ∃ middle rest, Follows "not" cs middle ∧ Follows "null" middle rest

theorem Lowercase.isWordText (lower : Lowercase keyword) (h : isWord keyword word = true) :
    IsWordText word := by
  have letters := lower.isAlpha_of_isWord h
  constructor
  · cases word with
    | nil => exact absurd rfl (lower.ne_nil_of_isWord h)
    | cons c word => exact ⟨c, rfl, isWordStart_of_isAlpha (letters c List.mem_cons_self)⟩
  · intro c member
    exact isWordChar_of_isWordStart (isWordStart_of_isAlpha (letters c member))

theorem IsWordText.not_blank (h : IsWordText word) : ∀ c ∈ word.head?, isBlank c = false := by
  obtain ⟨first, member, start⟩ := h.start
  intro c other
  cases Option.mem_unique member other
  exact not_isBlank_of_isWordStart start

theorem IsGap.wordEnds (h : IsGap blanks) (word rest : List Char) :
    WordEnds (blanks ++ word ++ rest) := by
  obtain ⟨nonempty, blank⟩ := h
  cases blanks with
  | nil => exact absurd rfl nonempty
  | cons b blanks =>
      intro c member
      cases member
      exact not_isWordChar_of_isBlank (blank _ List.mem_cons_self)

theorem isGap_space : IsGap [' '] :=
  ⟨List.cons_ne_nil _ _, List.forall_mem_singleton.2 (by decide)⟩

theorem spacedWord_eq (blank : ∀ c ∈ blanks, isBlank c = true) (text : IsWordText word)
    (ends : WordEnds rest) : spacedWord (blanks ++ word ++ rest) = ⟨blanks, word, rest⟩ := by
  have stop : ∀ c ∈ (word ++ rest).head?, isBlank c = false := by
    intro c member
    obtain ⟨first, start, -⟩ := text.start
    rw [List.head?_append, Option.mem_def.1 start] at member
    exact text.not_blank c (start.trans member)
  rw [List.append_assoc, spacedWord, takeWhile_run blank stop, dropWhile_run blank stop,
    takeWhile_run text.chars ends, dropWhile_run text.chars ends]

theorem Follows.spacedWord_eq (lower : Lowercase keyword) (h : Follows keyword cs rest) :
    isWord keyword (spacedWord cs).word = true ∧ (spacedWord cs).rest = rest := by
  obtain ⟨blanks, word, gap, spelled, ends, rfl⟩ := h
  rw [Token.spacedWord_eq gap.2 (lower.isWordText spelled) ends]
  exact ⟨spelled, rfl⟩

theorem wordEnds_spacedWord (cs : List Char) : WordEnds (spacedWord cs).rest :=
  Text.head?_dropWhile isWordChar _

/-- Where no word goes on, a word cannot stand without blanks in front of it. -/
theorem isGap_spacedWord (lower : Lowercase keyword) (ends : WordEnds cs)
    (h : isWord keyword (spacedWord cs).word = true) : IsGap (spacedWord cs).blanks := by
  refine ⟨?_, fun c member => of_mem_takeWhile member⟩
  intro none
  obtain ⟨first, start, -⟩ := (lower.isWordText h).start
  have whole := spacedWord_append cs
  rw [none, List.nil_append] at whole
  have head : first ∈ cs.head? := by
    rw [← whole, List.head?_append, Option.mem_def.1 start]
    rfl
  have goesOn : isWordChar first = true :=
    (lower.isWordText h).chars first (List.mem_of_mem_head? start)
  rw [ends first head] at goesOn
  cases goesOn

theorem follows_iff (lower : Lowercase keyword) (ends : WordEnds cs) :
    Follows keyword cs rest ↔
      isWord keyword (spacedWord cs).word = true ∧ (spacedWord cs).rest = rest := by
  constructor
  · exact Follows.spacedWord_eq lower
  · intro h
    obtain ⟨spelled, rfl⟩ := h
    exact ⟨_, _, isGap_spacedWord lower ends spelled, spelled, wordEnds_spacedWord cs,
      (spacedWord_append cs).symm⟩

theorem lowercase_null : Lowercase "null" := by decide

theorem lowercase_not : Lowercase "not" := by decide

theorem lowercase_is : Lowercase "is" := by decide

theorem lowercase_of_mem_keywords {entry : Kind × String} (h : entry ∈ keywords) :
    Lowercase entry.2 := by
  revert entry
  decide

theorem nullCheckFollows_iff (ends : WordEnds cs) :
    NullCheckFollows cs ↔
      isWord "null" (spacedWord cs).word = true ∨
        isWord "not" (spacedWord cs).word = true ∧
          isWord "null" (spacedWord (spacedWord cs).rest).word = true := by
  have second := wordEnds_spacedWord cs
  simp only [NullCheckFollows, follows_iff lowercase_null ends, follows_iff lowercase_not ends]
  constructor
  · intro h
    rcases h with ⟨rest, h, -⟩ | ⟨middle, rest, ⟨h, rfl⟩, follows⟩
    · exact .inl h
    · exact .inr ⟨h, ((follows_iff lowercase_null second).1 follows).1⟩
  · intro h
    rcases h with h | ⟨h, k⟩
    · exact .inl ⟨_, h, rfl⟩
    · exact .inr ⟨_, _, ⟨h, rfl⟩, (follows_iff lowercase_null second).2 ⟨k, rfl⟩⟩

/-- The text of a number goes on with these characters behind the previous one. -/
def IsNumberTail (previous : Char) : List Char → Prop
  | [] => True
  | c :: cs => isNumberChar (isExponentMark previous) c = true ∧ IsNumberTail c cs

def IsNumberText : List Char → Prop
  | [] => False
  | c :: cs => startsNumber c cs = true ∧ IsNumberTail c cs

theorem isNumberTail_numberRun (previous : Char) (cs : List Char) :
    IsNumberTail previous (numberRun (isExponentMark previous) cs).1 := by
  induction cs generalizing previous with
  | nil => trivial
  | cons c cs ih =>
      unfold numberRun
      split
      · next goesOn => exact ⟨goesOn, ih c⟩
      · trivial

theorem numberRun_ends (previous : Char) (cs : List Char) :
    ∀ c ∈ (numberRun (isExponentMark previous) cs).2.head?,
      ¬IsNumberTail previous ((numberRun (isExponentMark previous) cs).1 ++ [c]) := by
  induction cs generalizing previous with
  | nil => simp [numberRun]
  | cons d cs ih =>
      unfold numberRun
      split
      · intro c member goesOn
        exact ih d c member goesOn.2
      · next stops =>
        intro c member goesOn
        cases member
        exact stops goesOn.1

theorem numberRun_eq (h : IsNumberTail previous cs)
    (ends : ∀ c ∈ rest.head?, ¬IsNumberTail previous (cs ++ [c])) :
    numberRun (isExponentMark previous) (cs ++ rest) = (cs, rest) := by
  induction cs generalizing previous with
  | nil =>
      cases rest with
      | nil => rfl
      | cons c rest =>
          have stops : ¬isNumberChar (isExponentMark previous) c = true :=
            fun goesOn => ends c rfl ⟨goesOn, trivial⟩
          rw [List.nil_append, numberRun, if_neg stops]
  | cons d cs ih =>
      obtain ⟨goesOn, others⟩ := h
      have stops : ∀ c ∈ rest.head?, ¬IsNumberTail d (cs ++ [c]) :=
        fun c member more => ends c member ⟨goesOn, more⟩
      rw [List.cons_append, numberRun, if_pos goesOn, ih others stops]

theorem not_isNumberTail_concat (stops : ∀ signAllowed, isNumberChar signAllowed c = false)
    (previous : Char) (cs : List Char) : ¬IsNumberTail previous (cs ++ [c]) := by
  induction cs generalizing previous with
  | nil =>
      intro h
      exact absurd h.1 (by simp [stops])
  | cons d cs ih => exact fun h => ih d h.2

theorem not_isNumberText_concat (stops : ∀ signAllowed, isNumberChar signAllowed c = false)
    (noDigit : c.isDigit = false) (cs : List Char) : ¬IsNumberText (cs ++ [c]) := by
  cases cs with
  | nil => exact fun h => absurd h.1 (by simp [startsNumber, startsWithDigit, noDigit])
  | cons d cs => exact fun h => not_isNumberTail_concat stops d cs h.2

theorem isDigit_or_sign_of_startsNumber (h : startsNumber c cs = true) :
    c.isDigit = true ∨ c = '-' ∨ c = '.' := by
  simp only [startsNumber, Bool.or_eq_true, Bool.and_eq_true, beq_iff_eq] at h
  rcases h with (digit | ⟨sign, -⟩) | ⟨⟨sign, -⟩, -⟩
  · exact .inl digit
  · exact .inr sign
  · exact .inr (.inl sign)

theorem not_isExponentMark_of_startsNumber (h : startsNumber c cs = true) :
    isExponentMark c = false := by
  have other : ∀ mark, mark.isDigit = false ∧ mark ≠ '-' ∧ mark ≠ '.' → c ≠ mark := by
    intro mark none same
    obtain ⟨digit, sign, point⟩ := none
    rcases isDigit_or_sign_of_startsNumber h with h | h | h
    · rw [same, digit] at h
      cases h
    · exact sign (same.symm.trans h)
    · exact point (same.symm.trans h)
  simp [isExponentMark, other 'e' (by decide), other 'E' (by decide)]

theorem startsWithDigit_numberRun (signAllowed : Bool) (h : startsWithDigit cs = true) :
    startsWithDigit (numberRun signAllowed cs).1 = true := by
  cases cs with
  | nil => cases h
  | cons d cs =>
      have digit : d.isDigit = true := h
      have goesOn : isNumberChar signAllowed d = true := by
        simp [isNumberChar, Char.isAlphanum, digit]
      rw [numberRun, if_pos goesOn]
      exact digit

/-- What shows that a number starts here belongs to the number. -/
theorem startsNumber_numberRun (h : startsNumber c cs = true) :
    startsNumber c (numberRun false cs).1 = true := by
  simp only [startsNumber, Bool.or_eq_true, Bool.and_eq_true, beq_iff_eq] at h ⊢
  rcases h with (digit | ⟨sign, digit⟩) | ⟨⟨sign, point⟩, digit⟩
  · exact .inl (.inl digit)
  · exact .inl (.inr ⟨sign, startsWithDigit_numberRun false digit⟩)
  · refine .inr ?_
    cases cs with
    | nil => cases point
    | cons d cs =>
        cases point
        exact ⟨⟨sign, rfl⟩, startsWithDigit_numberRun (isExponentMark '.') digit⟩

theorem startsNumber_append (h : startsNumber c cs = true) (rest : List Char) :
    startsNumber c (cs ++ rest) = true := by
  have digit : ∀ {ds}, startsWithDigit ds = true → startsWithDigit (ds ++ rest) = true := by
    intro ds h
    cases ds with
    | nil => cases h
    | cons d ds => exact h
  simp only [startsNumber, Bool.or_eq_true, Bool.and_eq_true, beq_iff_eq] at h ⊢
  rcases h with (digits | ⟨sign, digits⟩) | ⟨⟨sign, point⟩, digits⟩
  · exact .inl (.inl digits)
  · exact .inl (.inr ⟨sign, digit digits⟩)
  · refine .inr ?_
    cases cs with
    | nil => cases point
    | cons d cs => exact ⟨⟨sign, point⟩, digit digits⟩

theorem stringRun_closed (absent : quote ∉ body) :
    stringRun quote (body ++ quote :: rest) = (body ++ [quote], rest) := by
  induction body with
  | nil => simp [stringRun]
  | cons c body ih =>
      obtain ⟨differs, absent⟩ := not_or.1 (mt List.mem_cons.2 absent)
      rw [List.cons_append, stringRun, if_neg (Ne.symm differs), ih absent]
      rfl

theorem stringRun_unclosed (absent : quote ∉ body) : stringRun quote body = (body, []) := by
  induction body with
  | nil => rfl
  | cons c body ih =>
      obtain ⟨differs, absent⟩ := not_or.1 (mt List.mem_cons.2 absent)
      rw [stringRun, if_neg (Ne.symm differs), ih absent]

def reserved : List Char :=
  ['(', ')', '"', '\'', '<', '>', '=', '!']

/-- A character that is a token of its own because it starts nothing else. -/
structure IsSymbol (c : Char) : Prop where
  notBlank : isBlank c = false
  notReserved : c ∉ reserved
  notDigit : c.isDigit = false
  notWordStart : isWordStart c = false

/-- A token is read from its spelling in front of the rest. -/
inductive Reading : Lexed → Prop
  | openParen {rest : List Char} : Reading (.ofRun .openParen ['('] rest)
  | closeParen {rest : List Char} : Reading (.ofRun .closeParen [')'] rest)
  | closedString {quote : Char} {body rest : List Char} (opens : isQuote quote = true)
      (absent : quote ∉ body) : Reading (.ofRun .string (quote :: (body ++ [quote])) rest)
  | unclosedString {quote : Char} {body : List Char} (opens : isQuote quote = true)
      (absent : quote ∉ body) : Reading (.ofRun .string (quote :: body) [])
  | operator {run rest : List Char} (nonempty : run ≠ [])
      (chars : ∀ c ∈ run, isOperatorChar c = true)
      (ends : ∀ c ∈ rest.head?, isOperatorChar c = false) : Reading (.ofRun .comparison run rest)
  | symbol {c : Char} {rest : List Char} (lone : IsSymbol c)
      (noNumber : startsNumber c rest = false) : Reading (.ofRun .comparison [c] rest)
  | number {number rest : List Char} (text : IsNumberText number)
      (ends : ∀ c ∈ rest.head?, ¬IsNumberText (number ++ [c])) :
      Reading (.ofRun .number number rest)
  | keyword {kind : Kind} {value : String} {word rest : List Char}
      (known : (kind, value) ∈ keywords) (spelled : isWord value word = true)
      (ends : WordEnds rest) : Reading ⟨⟨kind, value⟩, word, rest⟩
  | isNull {is blanks null rest : List Char} (first : isWord "is" is = true)
      (gap : IsGap blanks) (last : isWord "null" null = true) (ends : WordEnds rest) :
      Reading ⟨⟨.unary, "is null"⟩, is ++ blanks ++ null, rest⟩
  | isNotNull {is blanks not more null rest : List Char} (first : isWord "is" is = true)
      (gap : IsGap blanks) (second : isWord "not" not = true) (another : IsGap more)
      (last : isWord "null" null = true) (ends : WordEnds rest) :
      Reading ⟨⟨.unary, "is not null"⟩, is ++ blanks ++ not ++ more ++ null, rest⟩
  | channel {word rest : List Char} (name : IsName word) (ends : WordEnds rest)
      (alone : isWord "is" word = true → ¬NullCheckFollows rest) :
      Reading (.ofRun .channel word rest)

end ChannelFilter.Token
