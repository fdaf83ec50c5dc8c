import ChannelFilter.Json.Source
import ChannelFilter.Json.Value

/-!
# Writing and reading document values

A value is written compactly, as the spelling of its lexical elements with nothing between them,
or over several lines with an indent of two spaces a level.

Reading goes the same way back: text to elements, elements to a tree, and the tree to a value in
which every string denotes a text and every number literal a number.
-/
namespace ChannelFilter.Json

mutual

def lexemes : Json → List Lexeme
  | .null => [.null]
  | .bool value => [.bool value]
  | .number value => [.number value.chars]
  | .string text => [.string (some text)]
  | .array items => .openBracket :: (itemLexemes items).drop 1 ++ [.closeBracket]
  | .object fields => .openBrace :: (fieldLexemes fields).drop 1 ++ [.closeBrace]

/-- The lexical elements of a list of values, with a comma before each. -/
def itemLexemes : List Json → List Lexeme
  | [] => []
  | item :: items => .comma :: lexemes item ++ itemLexemes items

def fieldLexemes : List (String × Json) → List Lexeme
  | [] => []
  | (key, value) :: fields =>
    .comma :: .string (some key) :: .colon :: lexemes value ++ fieldLexemes fields

end

def chars (value : Json) : List Char :=
  value.lexemes.flatMap Lexeme.chars

def compact (value : Json) : String :=
  String.ofList value.chars

/-- A line break and the indent of the given level. -/
def lineBreak (level : Nat) : List Char :=
  '\n' :: List.replicate (2 * level) ' '

/-- The lines of an array or object between its brackets, at the given level. -/
def enclosed (level : Nat) (opening closing : Char) (lines : List (List Char)) : List Char :=
  if lines = [] then [opening, closing]
  else
    opening :: lineBreak (level + 1) ++ (',' :: lineBreak (level + 1)).intercalate lines ++
      lineBreak level ++ [closing]

mutual

/-- The characters of a value over several lines, inside the given level. -/
def prettyChars (level : Nat) : Json → List Char
  | .array items => enclosed level '[' ']' (prettyItems (level + 1) items)
  | .object fields => enclosed level '\x7b' '\x7d' (prettyFields (level + 1) fields)
  | .null => Lexeme.chars .null
  | .bool value => Lexeme.chars (.bool value)
  | .number value => value.chars
  | .string text => Lexeme.stringChars text

def prettyItems (level : Nat) : List Json → List (List Char)
  | [] => []
  | item :: items => prettyChars level item :: prettyItems level items

def prettyFields (level : Nat) : List (String × Json) → List (List Char)
  | [] => []
  | (key, value) :: fields =>
    (Lexeme.stringChars key ++ [':', ' '] ++ prettyChars level value) :: prettyFields level fields

end

def pretty (value : Json) : String :=
  String.ofList (prettyChars 0 value)

mutual

/-- The value of a tree, if every string in it denotes a text and every literal a number. -/
def ofSource? : Source → Option Json
  | .null => some .null
  | .bool value => some (.bool value)
  | .number literal => (Number.ofLiteral? literal).map .number
  | .string text => text.map .string
  | .array items => (ofItems? items).map .array
  | .object fields => (ofFields? fields).map .object

def ofItems? : List Source → Option (List Json)
  | [] => some []
  | item :: items =>
    match ofSource? item, ofItems? items with
    | some item, some items => some (item :: items)
    | _, _ => none

def ofFields? : List (Option String × Source) → Option (List (String × Json))
  | [] => some []
  | (key, value) :: fields =>
    match key, ofSource? value, ofFields? fields with
    | some key, some value, some fields => some ((key, value) :: fields)
    | _, _, _ => none

end

def read? (text : String) : Option Json :=
  (Source.read? text).bind ofSource?

end ChannelFilter.Json
