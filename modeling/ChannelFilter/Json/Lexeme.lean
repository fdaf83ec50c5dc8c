/-!
# Lexical elements of document text

Document text is a sequence of lexical elements with space between them. A string element carries
the text that its characters and escapes denote. An escape may name one half of a surrogate pair
only; such a string denotes no text, but it is still a string element, since a reader that skips
the value never asks for its text. A number element carries its literal as it is spelled.

Each reader here takes an element off the front of a list of characters and returns what follows.
The lemmas beside them say that what follows is shorter, which is what `scan` recurses on.
-/
namespace ChannelFilter.Json

inductive Lexeme
  | openBrace
  | closeBrace
  | openBracket
  | closeBracket
  | colon
  | comma
  | null
  | bool (value : Bool)
  | number (literal : List Char)
  | string (text : Option String)
deriving DecidableEq, Repr

namespace Lexeme

/-- The characters that may stand between lexical elements. -/
def isSpace (c : Char) : Bool :=
  c == ' ' || c == '\t' || c == '\n' || c == '\r'

/-- One unit of a string: a character, or the code unit that a numeric escape names. -/
inductive StringUnit
  | char (c : Char)
  | code (unit : Nat)
deriving DecidableEq, Repr

def hexDigit? (c : Char) : Option Nat :=
  if c.isDigit then some (c.toNat - '0'.toNat)
  else if 'a' ≤ c ∧ c ≤ 'f' then some (c.toNat - 'a'.toNat + 10)
  else if 'A' ≤ c ∧ c ≤ 'F' then some (c.toNat - 'A'.toNat + 10)
  else none

/-- The code unit that four hexadecimal digits name. -/
def codeUnit? (a b c d : Char) : Option Nat := do
  let a ← hexDigit? a
  let b ← hexDigit? b
  let c ← hexDigit? c
  let d ← hexDigit? d
  return ((a * 16 + b) * 16 + c) * 16 + d

def namedEscape? (c : Char) : Option Char :=
  if c = '"' ∨ c = '\\' ∨ c = '/' then some c
  else if c = 'b' then some '\x08'
  else if c = 'f' then some '\x0c'
  else if c = 'n' then some '\n'
  else if c = 'r' then some '\r'
  else if c = 't' then some '\t'
  else none

def consUnit (unit : StringUnit) (read : List StringUnit × List Char) :
    List StringUnit × List Char :=
  (unit :: read.1, read.2)

/-- The units up to the closing quote, and what follows it. -/
def readUnits? : List Char → Option (List StringUnit × List Char)
  | [] => none
  | c :: cs =>
    if c = '"' then some ([], cs)
    else if c = '\\' then
      match cs with
      | 'u' :: h₁ :: h₂ :: h₃ :: h₄ :: rest =>
        match codeUnit? h₁ h₂ h₃ h₄ with
        | some unit => (readUnits? rest).map (consUnit (.code unit))
        | none => none
      | e :: rest =>
        match namedEscape? e with
        | some named => (readUnits? rest).map (consUnit (.char named))
        | none => none
      | [] => none
    else if c.toNat < 0x20 then none
    else (readUnits? cs).map (consUnit (.char c))

/-- Whether a code unit is the first half of a surrogate pair. -/
def isHighHalf (unit : Nat) : Bool :=
  decide (0xD800 ≤ unit) && decide (unit < 0xDC00)

def isLowHalf (unit : Nat) : Bool :=
  decide (0xDC00 ≤ unit) && decide (unit < 0xE000)

/-- The characters that the units denote; `none` if half a surrogate pair stands alone. -/
def decodeUnits? : List StringUnit → Option (List Char)
  | [] => some []
  | .char c :: units => (decodeUnits? units).map (c :: ·)
  | .code unit :: units =>
    if isHighHalf unit then
      match units with
      | .code low :: units =>
        if isLowHalf low then
          let point := 0x10000 + (unit - 0xD800) * 0x400 + (low - 0xDC00)
          (decodeUnits? units).map (Char.ofNat point :: ·)
        else none
      | _ => none
    else if isLowHalf unit then none
    else (decodeUnits? units).map (Char.ofNat unit :: ·)

theorem readUnits?_length {cs : List Char} {units : List StringUnit} {rest : List Char}
    (h : readUnits? cs = some (units, rest)) : rest.length < cs.length := by
  fun_induction readUnits? cs generalizing units <;>
    simp only [Option.map_eq_some_iff, consUnit, Prod.exists, Prod.mk.injEq, Option.some.injEq,
      reduceCtorEq, List.length_cons] at h ⊢
  · simp [h.2]
  all_goals
    rename_i ih
    obtain ⟨_, _, h, _, rfl⟩ := h
    have := ih h
    omega

/-- The digits before the point, without a needless zero at the front. -/
def readWhole? : List Char → Option (List Char × List Char)
  | '0' :: cs => some (['0'], cs)
  | cs =>
    if cs.takeWhile Char.isDigit = [] then none
    else some (cs.takeWhile Char.isDigit, cs.dropWhile Char.isDigit)

def readFraction? : List Char → Option (List Char × List Char)
  | '.' :: cs =>
    if cs.takeWhile Char.isDigit = [] then none
    else some ('.' :: cs.takeWhile Char.isDigit, cs.dropWhile Char.isDigit)
  | cs => some ([], cs)

def readSign : List Char → List Char × List Char
  | '-' :: cs => (['-'], cs)
  | '+' :: cs => (['+'], cs)
  | cs => ([], cs)

def readExponent? : List Char → Option (List Char × List Char)
  | [] => some ([], [])
  | c :: cs =>
    if c = 'e' ∨ c = 'E' then
      let (sign, unsigned) := readSign cs
      if unsigned.takeWhile Char.isDigit = [] then none
      else some (c :: sign ++ unsigned.takeWhile Char.isDigit, unsigned.dropWhile Char.isDigit)
    else some ([], c :: cs)

/-- A number literal, and what follows it. -/
def readUnsigned? (cs : List Char) : Option (List Char × List Char) :=
  match readWhole? cs with
  | none => none
  | some (whole, afterWhole) =>
    match readFraction? afterWhole with
    | none => none
    | some (fraction, afterFraction) =>
      match readExponent? afterFraction with
      | none => none
      | some (exponent, rest) => some (whole ++ fraction ++ exponent, rest)

theorem readWhole?_append {cs text rest : List Char} (h : readWhole? cs = some (text, rest)) :
    text ++ rest = cs ∧ text ≠ [] := by
  unfold readWhole? at h
  split at h
  · obtain ⟨rfl, rfl⟩ : ['0'] = text ∧ _ = rest := by simpa using h
    simp
  · split at h
    · simp at h
    · next hne =>
      obtain ⟨rfl, rfl⟩ : _ = text ∧ _ = rest := by simpa using h
      exact ⟨List.takeWhile_append_dropWhile, hne⟩

theorem readFraction?_append {cs text rest : List Char}
    (h : readFraction? cs = some (text, rest)) : text ++ rest = cs := by
  unfold readFraction? at h
  split at h
  · split at h
    · simp at h
    · obtain ⟨rfl, rfl⟩ : _ = text ∧ _ = rest := by simpa using h
      simp
  · obtain ⟨rfl, rfl⟩ : [] = text ∧ _ = rest := by simpa using h
    simp

theorem readSign_append (cs : List Char) : (readSign cs).1 ++ (readSign cs).2 = cs := by
  unfold readSign
  split <;> rfl

theorem readExponent?_append {cs text rest : List Char}
    (h : readExponent? cs = some (text, rest)) : text ++ rest = cs := by
  unfold readExponent? at h
  split at h
  · obtain ⟨rfl, rfl⟩ : [] = text ∧ [] = rest := by simpa using h
    simp
  · next c cs =>
    split at h
    · have sign := readSign_append cs
      simp only at h
      split at h
      · simp at h
      · obtain ⟨rfl, rfl⟩ : _ = text ∧ _ = rest := by simpa using h
        simpa using sign
    · obtain ⟨rfl, rfl⟩ : [] = text ∧ _ = rest := by simpa using h
      simp

theorem readUnsigned?_append {cs text rest : List Char}
    (h : readUnsigned? cs = some (text, rest)) : text ++ rest = cs ∧ text ≠ [] := by
  unfold readUnsigned? at h
  split at h
  · simp at h
  · next whole afterWhole hwhole =>
    split at h
    · simp at h
    · next fraction afterFraction hfraction =>
      split at h
      · simp at h
      · next exponent _ hexponent =>
        obtain ⟨rfl, rfl⟩ : _ = text ∧ _ = rest := by simpa using h
        have ⟨hw, hne⟩ := readWhole?_append hwhole
        rw [← hw, ← readFraction?_append hfraction, ← readExponent?_append hexponent]
        simp [hne]

/-- What follows a word at the front of the text. -/
def afterWord? : List Char → List Char → Option (List Char)
  | [], cs => some cs
  | _ :: _, [] => none
  | w :: ws, c :: cs => if w = c then afterWord? ws cs else none

theorem afterWord?_length {word cs rest : List Char} (h : afterWord? word cs = some rest) :
    rest.length ≤ cs.length := by
  fun_induction afterWord? word cs with
  | case1 cs => simp_all
  | case2 => simp at h
  | case3 ws w cs ih => exact Nat.le_succ_of_le (ih h)
  | case4 => simp at h

def punctuation? (c : Char) : Option Lexeme :=
  if c = '\x7b' then some .openBrace
  else if c = '\x7d' then some .closeBrace
  else if c = '[' then some .openBracket
  else if c = ']' then some .closeBracket
  else if c = ':' then some .colon
  else if c = ',' then some .comma
  else none

/-- The element that starts with `c` and is longer than that character, and what follows it. -/
def nextLong? (c : Char) (cs : List Char) : Option (Lexeme × List Char) :=
  if c = '"' then
    (readUnits? cs).map fun (units, rest) =>
      (.string ((decodeUnits? units).map String.ofList), rest)
  else if c = '-' then
    (readUnsigned? cs).map fun (literal, rest) => (.number ('-' :: literal), rest)
  else if c.isDigit then
    (readUnsigned? (c :: cs)).map fun (literal, rest) => (.number literal, rest)
  else if c = 'n' then (afterWord? ['u', 'l', 'l'] cs).map (.null, ·)
  else if c = 't' then (afterWord? ['r', 'u', 'e'] cs).map (.bool true, ·)
  else if c = 'f' then (afterWord? ['a', 'l', 's', 'e'] cs).map (.bool false, ·)
  else none

/-- The element that starts with `c`, and what follows it. -/
def next? (c : Char) (cs : List Char) : Option (Lexeme × List Char) :=
  ((punctuation? c).map (·, cs)).or (nextLong? c cs)

theorem nextLong?_length {c : Char} {cs : List Char} {lexeme : Lexeme} {rest : List Char}
    (h : nextLong? c cs = some (lexeme, rest)) : rest.length < cs.length + 1 := by
  have unsigned {cs text rest : List Char} (h : readUnsigned? cs = some (text, rest)) :
      rest.length < cs.length := by
    obtain ⟨rfl, hne⟩ := readUnsigned?_append h
    have := List.length_pos_iff.2 hne
    simp only [List.length_append]
    omega
  unfold nextLong? at h
  split at h
  · obtain ⟨⟨units, _⟩, hunits, heq⟩ := Option.map_eq_some_iff.1 h
    cases heq
    exact Nat.lt_succ_of_lt (readUnits?_length hunits)
  split at h
  · obtain ⟨⟨literal, _⟩, hliteral, heq⟩ := Option.map_eq_some_iff.1 h
    cases heq
    exact Nat.lt_succ_of_lt (unsigned hliteral)
  split at h
  · obtain ⟨⟨literal, _⟩, hliteral, heq⟩ := Option.map_eq_some_iff.1 h
    cases heq
    exact unsigned hliteral
  iterate 3
    split at h
    · obtain ⟨_, hword, heq⟩ := Option.map_eq_some_iff.1 h
      cases heq
      exact Nat.lt_succ_of_le (afterWord?_length hword)
  simp at h

theorem next?_length {c : Char} {cs : List Char} {lexeme : Lexeme} {rest : List Char}
    (h : next? c cs = some (lexeme, rest)) : rest.length < cs.length + 1 := by
  unfold next? at h
  cases hp : punctuation? c with
  | none => exact nextLong?_length (by simpa [hp] using h)
  | some punctuation =>
    obtain ⟨-, rfl⟩ : punctuation = lexeme ∧ cs = rest := by simpa [hp] using h
    exact Nat.lt_succ_self _

/-- The lexical elements of a text, or `none` if some part of it is not one. -/
def scan : List Char → Option (List Lexeme)
  | [] => some []
  | c :: cs =>
    if isSpace c then scan cs
    else
      match h : next? c cs with
      | none => none
      | some (lexeme, rest) =>
        have := next?_length h
        (scan rest).map (lexeme :: ·)
termination_by cs => cs.length

def hexPair (n : Nat) : List Char :=
  [Nat.digitChar (n / 16), Nat.digitChar (n % 16)]

/-- One character inside a string: only the quote, the backslash and controls are escaped. -/
def escapeChar (c : Char) : List Char :=
  if c = '"' then ['\\', '"']
  else if c = '\\' then ['\\', '\\']
  else if c = '\x08' then ['\\', 'b']
  else if c = '\t' then ['\\', 't']
  else if c = '\n' then ['\\', 'n']
  else if c = '\x0c' then ['\\', 'f']
  else if c = '\r' then ['\\', 'r']
  else if c.toNat < 0x20 then ['\\', 'u', '0', '0'] ++ hexPair c.toNat
  else [c]

def stringChars (text : String) : List Char :=
  '"' :: text.toList.flatMap escapeChar ++ ['"']

/-- The spelling of an element. A string without a text is spelled as a lone first half. -/
def chars : Lexeme → List Char
  | .openBrace => ['\x7b']
  | .closeBrace => ['\x7d']
  | .openBracket => ['[']
  | .closeBracket => [']']
  | .colon => [':']
  | .comma => [',']
  | .null => ['n', 'u', 'l', 'l']
  | .bool true => ['t', 'r', 'u', 'e']
  | .bool false => ['f', 'a', 'l', 's', 'e']
  | .number literal => literal
  | .string (some text) => stringChars text
  | .string none => ['"', '\\', 'u', 'd', '8', '0', '0', '"']

end Lexeme

end ChannelFilter.Json
