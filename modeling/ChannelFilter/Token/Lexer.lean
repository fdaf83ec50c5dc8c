import ChannelFilter.Text.Letter
import ChannelFilter.Text.Numeral
import ChannelFilter.Text.Quote
import ChannelFilter.Token.Basic

/-!
# Tokens of free text

Free text is cut into tokens from left to right. Blanks separate tokens and are dropped, and every
other character ends up in exactly one token, so no text is refused: a sign that starts nothing
else becomes a comparison operator of its own, which the catalog of operators then does not know.

* A parenthesis is a token.
* A quote starts a string, which goes on to the next quote of the same sort or to the end of the
  text, and keeps its quotes.
* A run of `<`, `>`, `=` and `!` is a comparison operator.
* A digit starts a number, and so do a minus or a point in front of a digit and a minus in front of
  a point and a digit. A number goes on through ASCII letters, digits and points, and through a
  sign right behind an `e` or `E`.
* A letter or underscore starts a word, which goes on through letters, numerals, underscores,
  hyphens and points. The words `and`, `or` and `not` are keywords, and `is null` and `is not null`
  are unary operators, in any case of the ASCII letters. Any other word names a channel.
-/
namespace ChannelFilter.Token

open Text (isBlank isLetter isNumeral isQuote)

/-- A token with the characters it was read from and those that follow them. -/
structure Lexed where
  token : Token
  spelling : List Char
  rest : List Char
deriving DecidableEq, Repr

def isOperatorChar (c : Char) : Bool :=
  c == '<' || c == '>' || c == '=' || c == '!'

def isWordStart (c : Char) : Bool :=
  isLetter c || c == '_'

def isWordChar (c : Char) : Bool :=
  isLetter c || isNumeral c || c == '_' || c == '-' || c == '.'

def startsWithDigit (cs : List Char) : Bool :=
  cs.head?.any Char.isDigit

/-- Whether a number starts with `c` when `cs` follows. -/
def startsNumber (c : Char) (cs : List Char) : Bool :=
  c.isDigit || ((c == '-' || c == '.') && startsWithDigit cs) ||
    (c == '-' && cs.head? == some '.' && startsWithDigit cs.tail)

/-- Whether a sign may follow `c` inside a number. -/
def isExponentMark (c : Char) : Bool :=
  c == 'e' || c == 'E'

/-- Whether a number goes on with `c`, where `signAllowed` says whether a sign may stand here. -/
def isNumberChar (signAllowed : Bool) (c : Char) : Bool :=
  c.isAlphanum || c == '.' || (signAllowed && (c == '-' || c == '+'))

/-- The rest of a number and what follows it. -/
def numberRun (signAllowed : Bool) : List Char → List Char × List Char
  | [] => ([], [])
  | c :: cs =>
    if isNumberChar signAllowed c then
      let (run, rest) := numberRun (isExponentMark c) cs
      (c :: run, rest)
    else ([], c :: cs)

/-- The rest of a string up to and with the closing quote, and what follows it. -/
def stringRun (quote : Char) : List Char → List Char × List Char
  | [] => ([], [])
  | c :: cs =>
    if c = quote then ([c], cs)
    else
      let (run, rest) := stringRun quote cs
      (c :: run, rest)

/-- Whether a word is the given lower-case word in any case of the ASCII letters. -/
def isWord (word : String) (cs : List Char) : Bool :=
  cs.map Char.toLower == word.toList

/-- Blanks, the word that follows them, and what follows that. The word may be empty. -/
structure SpacedWord where
  blanks : List Char
  word : List Char
  rest : List Char
deriving DecidableEq, Repr

def spacedWord (cs : List Char) : SpacedWord :=
  let afterBlanks := cs.dropWhile isBlank
  { blanks := cs.takeWhile isBlank
    word := afterBlanks.takeWhile isWordChar
    rest := afterBlanks.dropWhile isWordChar }

theorem numberRun_append (signAllowed : Bool) (cs : List Char) :
    (numberRun signAllowed cs).1 ++ (numberRun signAllowed cs).2 = cs := by
  fun_induction numberRun signAllowed cs <;> simp_all

theorem stringRun_append (quote : Char) (cs : List Char) :
    (stringRun quote cs).1 ++ (stringRun quote cs).2 = cs := by
  fun_induction stringRun quote cs <;> simp_all

theorem spacedWord_append (cs : List Char) :
    (spacedWord cs).blanks ++ (spacedWord cs).word ++ (spacedWord cs).rest = cs := by
  simp [spacedWord]

/-- The token of the given kind whose value is its spelling. -/
def Lexed.ofRun (kind : Kind) (spelling rest : List Char) : Lexed :=
  { token := { kind, value := String.ofList spelling }, spelling, rest }

/-- The null check that starts with the word `is`, if the words behind it complete one. -/
def nullCheck? (is cs : List Char) : Option Lexed :=
  let first := spacedWord cs
  let second := spacedWord first.rest
  if isWord "null" first.word then
    some { token := { kind := .unary, value := "is null" }
           spelling := is ++ first.blanks ++ first.word
           rest := first.rest }
  else if isWord "not" first.word && isWord "null" second.word then
    some { token := { kind := .unary, value := "is not null" }
           spelling := is ++ first.blanks ++ first.word ++ second.blanks ++ second.word
           rest := second.rest }
  else none

/-- The token that starts with the given complete word. -/
def lexWord (word rest : List Char) : Lexed :=
  if isWord "and" word then
    { token := { kind := .and, value := "and" }, spelling := word, rest }
  else if isWord "or" word then
    { token := { kind := .or, value := "or" }, spelling := word, rest }
  else if isWord "not" word then
    { token := { kind := .not, value := "not" }, spelling := word, rest }
  else if isWord "is" word then
    (nullCheck? word rest).getD (.ofRun .channel word rest)
  else .ofRun .channel word rest

/-- The token that starts with the character `c`, which is not a blank. -/
def lexFirst (c : Char) (cs : List Char) : Lexed :=
  if c = '(' then .ofRun .openParen [c] cs
  else if c = ')' then .ofRun .closeParen [c] cs
  else if isQuote c then
    .ofRun .string (c :: (stringRun c cs).1) (stringRun c cs).2
  else if isOperatorChar c then
    .ofRun .comparison (c :: cs.takeWhile isOperatorChar) (cs.dropWhile isOperatorChar)
  else if startsNumber c cs then
    .ofRun .number (c :: (numberRun false cs).1) (numberRun false cs).2
  else if isWordStart c then
    lexWord (c :: cs.takeWhile isWordChar) (cs.dropWhile isWordChar)
  else .ofRun .comparison [c] cs

def next? (cs : List Char) : Option Lexed :=
  match cs.dropWhile isBlank with
  | [] => none
  | c :: cs => some (lexFirst c cs)

theorem nullCheck?_append {is cs : List Char} {lexed : Lexed} (h : nullCheck? is cs = some lexed) :
    lexed.spelling ++ lexed.rest = is ++ cs := by
  have first := spacedWord_append cs
  have second := spacedWord_append (spacedWord cs).rest
  simp only [nullCheck?] at h
  split at h
  · cases h
    simpa using first
  · split at h
    · cases h
      rw [← second] at first
      simpa using first
    · simp at h

theorem nullCheck?_spelling {is cs : List Char} {lexed : Lexed}
    (h : nullCheck? is cs = some lexed) : is <+: lexed.spelling := by
  simp only [nullCheck?] at h
  split at h
  · cases h
    simp
  · split at h
    · cases h
      simp
    · simp at h

theorem lexWord_append (word rest : List Char) :
    (lexWord word rest).spelling ++ (lexWord word rest).rest = word ++ rest := by
  unfold lexWord
  repeat' split
  any_goals rfl
  cases h : nullCheck? word rest with
  | none => rfl
  | some lexed => exact nullCheck?_append h

theorem lexWord_spelling (word rest : List Char) : word <+: (lexWord word rest).spelling := by
  unfold lexWord
  repeat' split
  any_goals exact ⟨[], List.append_nil _⟩
  cases h : nullCheck? word rest with
  | none => exact ⟨[], List.append_nil _⟩
  | some lexed => exact nullCheck?_spelling h

theorem lexFirst_append (c : Char) (cs : List Char) :
    (lexFirst c cs).spelling ++ (lexFirst c cs).rest = c :: cs := by
  unfold lexFirst
  repeat' split
  · rfl
  · rfl
  · simp [Lexed.ofRun, stringRun_append]
  · simp [Lexed.ofRun]
  · simp [Lexed.ofRun, numberRun_append]
  · simp [lexWord_append]
  · rfl

theorem lexFirst_spelling_ne_nil (c : Char) (cs : List Char) : (lexFirst c cs).spelling ≠ [] := by
  unfold lexFirst
  repeat' split
  all_goals try exact List.cons_ne_nil _ _
  intro h
  have := lexWord_spelling (c :: cs.takeWhile isWordChar) (cs.dropWhile isWordChar)
  simp [h] at this

theorem next?_length {cs : List Char} {lexed : Lexed} (h : next? cs = some lexed) :
    lexed.rest.length < cs.length := by
  unfold next? at h
  split at h
  · simp at h
  · next c tail hdrop =>
    cases h
    have whole := congrArg List.length (lexFirst_append c tail)
    have positive := List.length_pos_iff.2 (lexFirst_spelling_ne_nil c tail)
    have shorter := (List.dropWhile_suffix (l := cs) isBlank).length_le
    rw [hdrop] at shorter
    simp only [List.length_append, List.length_cons] at whole shorter
    omega

/-- All tokens of the text with their spellings. -/
def lexAll (cs : List Char) : List Lexed :=
  match h : next? cs with
  | none => []
  | some lexed =>
    have := next?_length h
    lexed :: lexAll lexed.rest
termination_by cs.length

def lex (text : String) : List Token :=
  (lexAll text.toList).map (·.token)

end ChannelFilter.Token
