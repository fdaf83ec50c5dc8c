import ChannelFilter.Document
import ChannelFilter.Proofs.DocumentLayout
import ChannelFilter.Proofs.WrittenNumbers

/-!
# Documents are read as they are written

A text denotes a value if it is a layout of a tree with that value. Reading returns the value that
a text denotes, so there is one such value at most. The compact text of a value denotes it: the
text of a string stands between its quotes as the body of that string, whatever characters it has,
and the text of a number is a literal. Hence the text of a filter denotes its document and nothing
else, and no channel or operand shows through as anything but a string.
-/
namespace ChannelFilter.Json

namespace Lexeme

variable {cs : List Char} {units : List StringUnit} {lexemes : List Lexeme}

/-- A character is written behind a backslash by its name, or by its number, or as it is. -/
theorem escapeChar_cases (c : Char) :
    (∃ e, namedEscape? e = some c ∧ escapeChar c = ['\\', e]) ∨
      (c.toNat < 0x20 ∧ escapeChar c = ['\\', 'u', '0', '0'] ++ hexPair c.toNat) ∨
      (c ≠ '"' ∧ c ≠ '\\' ∧ 0x20 ≤ c.toNat ∧ escapeChar c = [c]) := by
  unfold escapeChar
  split
  · next same => exact .inl ⟨'"', by rw [same]; rfl, rfl⟩
  · next noQuote =>
    split
    · next same => exact .inl ⟨'\\', by rw [same]; rfl, rfl⟩
    · next noBackslash =>
      split
      · next same => exact .inl ⟨'b', by rw [same]; rfl, rfl⟩
      split
      · next same => exact .inl ⟨'t', by rw [same]; rfl, rfl⟩
      split
      · next same => exact .inl ⟨'n', by rw [same]; rfl, rfl⟩
      split
      · next same => exact .inl ⟨'f', by rw [same]; rfl, rfl⟩
      split
      · next same => exact .inl ⟨'r', by rw [same]; rfl, rfl⟩
      split
      · next control => exact .inr (.inl ⟨control, rfl⟩)
      · next noControl => exact .inr (.inr ⟨noQuote, noBackslash, Nat.not_lt.1 noControl, rfl⟩)

theorem codeUnit?_hexPair : ∀ n < 0x20,
    codeUnit? '0' '0' (Nat.digitChar (n / 16)) (Nat.digitChar (n % 16)) = some n := by
  decide

theorem decodeUnits?_control {n : Nat} (control : n < 0x20) (units : List StringUnit) :
    decodeUnits? (.code n :: units) = (decodeUnits? units).map (Char.ofNat n :: ·) := by
  have noHigh : isHighHalf n = false := by
    simp only [isHighHalf, Bool.and_eq_false_iff, decide_eq_false_iff_not]
    omega
  have noLow : isLowHalf n = false := by
    simp only [isLowHalf, Bool.and_eq_false_iff, decide_eq_false_iff_not]
    omega
  rw [decodeUnits?.eq_def]
  simp only [noHigh, noLow, Bool.false_eq_true, if_false]

theorem exists_unit_escapeChar (c : Char) (behind : Body cs units) {text : List Char}
    (decoded : decodeUnits? units = some text) :
    ∃ unit, Body (escapeChar c ++ cs) (unit :: units) ∧
      decodeUnits? (unit :: units) = some (c :: text) := by
  have asChar : decodeUnits? (.char c :: units) = some (c :: text) := by
    rw [decodeUnits?, decoded]
    rfl
  rcases escapeChar_cases c with ⟨e, name, escape⟩ | ⟨control, escape⟩ | ⟨quote, slash, seen, plain⟩
  · refine ⟨.char c, ?_, asChar⟩
    rw [escape]
    exact .named name behind
  · refine ⟨.code c.toNat, ?_, ?_⟩
    · rw [escape]
      exact .code (codeUnit?_hexPair _ control) behind
    · rw [decodeUnits?_control control, decoded, Char.ofNat_toNat]
      rfl
  · refine ⟨.char c, ?_, asChar⟩
    rw [plain]
    exact .plain quote slash seen behind

theorem exists_body (text : List Char) :
    ∃ units, Body (text.flatMap escapeChar) units ∧ decodeUnits? units = some text := by
  induction text with
  | nil => exact ⟨[], .nil, rfl⟩
  | cons c text ih =>
      obtain ⟨units, behind, decoded⟩ := ih
      obtain ⟨unit, body, whole⟩ := exists_unit_escapeChar c behind decoded
      exact ⟨unit :: units, body, whole⟩

theorem spelling_string (text : String) : Spelling (.string (some text)) (stringChars text) := by
  obtain ⟨units, body, decoded⟩ := exists_body text.toList
  have spelling := Spelling.string body
  rwa [decoded, Option.map_some, String.ofList_toList] at spelling

theorem spelling_chars (lexeme : Lexeme) (noNumber : lexeme.isNumber = false) :
    Spelling lexeme lexeme.chars := by
  cases lexeme with
  | number literal => cases noNumber
  | bool value =>
      cases value with
      | true => exact .true
      | false => exact .false
  | string text =>
      cases text with
      | none =>
          have half : codeUnit? 'd' '8' '0' '0' = some 0xD800 := rfl
          exact .string (.code half .nil)
      | some text => exact spelling_string text
  | null => exact .null
  | _ => exact .punctuation rfl

theorem spelling_number (n : Number) : Spelling (.number n.chars) n.chars := by
  obtain ⟨l, chars, -⟩ := n.exists_literal
  rw [chars]
  exact .number l

end Lexeme

open Lexeme (Layout Spelling)

variable {elements others : List Lexeme}

mutual

/-- The tree that the text of a value is a layout of. -/
def source : Json → Source
  | .null => .null
  | .bool value => .bool value
  | .number value => .number value.chars
  | .string text => .string (some text)
  | .array items => .array (itemSources items)
  | .object fields => .object (fieldSources fields)

def itemSources : List Json → List Source
  | [] => []
  | item :: items => source item :: itemSources items

def fieldSources : List (String × Json) → List (Option String × Source)
  | [] => []
  | (key, value) :: fields => (some key, source value) :: fieldSources fields

end

theorem itemLexemes_sources {items : List Json}
    (each : ∀ item ∈ items, item.source.lexemes = item.lexemes) :
    Source.itemLexemes (itemSources items) = itemLexemes items := by
  induction items with
  | nil => rfl
  | cons item items ih =>
      obtain ⟨first, behind⟩ := List.forall_mem_cons.1 each
      rw [itemSources, Source.itemLexemes, itemLexemes, first, ih behind]

theorem fieldLexemes_sources {fields : List (String × Json)}
    (each : ∀ field ∈ fields, field.2.source.lexemes = field.2.lexemes) :
    Source.fieldLexemes (fieldSources fields) = fieldLexemes fields := by
  induction fields with
  | nil => rfl
  | cons field fields ih =>
      obtain ⟨first, behind⟩ := List.forall_mem_cons.1 each
      rw [fieldSources, Source.fieldLexemes, fieldLexemes, first, ih behind]

theorem lexemes_source (value : Json) : value.source.lexemes = value.lexemes := by
  induction value with
  | null => rfl
  | bool value => rfl
  | number value => rfl
  | string text => rfl
  | array items ih => rw [source, Source.lexemes, lexemes, itemLexemes_sources ih]
  | object fields ih => rw [source, Source.lexemes, lexemes, fieldLexemes_sources ih]

theorem ofItems?_sources {items : List Json}
    (each : ∀ item ∈ items, ofSource? item.source = some item) :
    ofItems? (itemSources items) = some items := by
  induction items with
  | nil => rfl
  | cons item items ih =>
      obtain ⟨first, behind⟩ := List.forall_mem_cons.1 each
      rw [itemSources, ofItems?, first, ih behind]

theorem ofFields?_sources {fields : List (String × Json)}
    (each : ∀ field ∈ fields, ofSource? field.2.source = some field.2) :
    ofFields? (fieldSources fields) = some fields := by
  induction fields with
  | nil => rfl
  | cons field fields ih =>
      obtain ⟨first, behind⟩ := List.forall_mem_cons.1 each
      simp only [fieldSources, ofFields?, first, ih behind]

theorem ofSource?_source (value : Json) : ofSource? value.source = some value := by
  induction value with
  | null => rfl
  | bool value => rfl
  | number value =>
      rw [source, ofSource?, value.ofLiteral?_chars]
      rfl
  | string text => rfl
  | array items ih =>
      rw [source, ofSource?, ofItems?_sources ih]
      rfl
  | object fields ih =>
      rw [source, ofSource?, ofFields?_sources ih]
      rfl

/-- The spellings of the elements in a row lay them out in front of another layout. -/
def InRow (elements : List Lexeme) : Prop :=
  ∀ lexemes cs, Layout lexemes cs → Literal.Ends cs →
    Layout (elements ++ lexemes) (elements.flatMap Lexeme.chars ++ cs)

/-- A number may stand in front of the spellings of the elements. -/
def Apart (elements : List Lexeme) : Prop :=
  ∀ cs, Literal.Ends (elements.flatMap Lexeme.chars ++ cs)

theorem inRow_single {lexeme : Lexeme} (spelling : Spelling lexeme lexeme.chars) :
    InRow [lexeme] := by
  intro lexemes cs behind ends
  rw [List.flatMap_singleton]
  exact .spelled spelling (fun _ => ends) behind

theorem InRow.cons {lexeme : Lexeme} (h : InRow elements)
    (spelling : Spelling lexeme lexeme.chars) (noNumber : lexeme.isNumber = false) :
    InRow (lexeme :: elements) := by
  intro lexemes cs behind ends
  have apart : lexeme.isNumber = true → Literal.Ends (elements.flatMap Lexeme.chars ++ cs) := by
    rw [noNumber]
    nofun
  have layout := Layout.spelled spelling apart (h lexemes cs behind ends)
  rw [List.flatMap_cons, List.append_assoc]
  exact layout

theorem InRow.append (h : InRow elements) (h' : InRow others) (apart : Apart others) :
    InRow (elements ++ others) := by
  intro lexemes cs behind ends
  have layout := h _ _ (h' lexemes cs behind ends) (apart cs)
  rw [List.append_assoc, List.flatMap_append, List.append_assoc]
  exact layout

theorem apart_cons {lexeme : Lexeme} {c : Char} (spelled : lexeme.chars = [c])
    (other : c.isDigit = false ∧ c ≠ '.' ∧ c ≠ 'e' ∧ c ≠ 'E') : Apart (lexeme :: elements) := by
  intro cs
  rw [List.flatMap_cons, spelled]
  exact Literal.ends_cons other _

theorem inRow_items {items : List Json} (each : ∀ item ∈ items, InRow item.lexemes) :
    InRow (itemLexemes items ++ [.closeBracket]) ∧
      Apart (itemLexemes items ++ [.closeBracket]) := by
  induction items with
  | nil => exact ⟨inRow_single (.punctuation rfl), apart_cons rfl (by decide)⟩
  | cons item items ih =>
      obtain ⟨first, behind⟩ := List.forall_mem_cons.1 each
      obtain ⟨rest, apart⟩ := ih behind
      have elements : itemLexemes (item :: items) ++ [.closeBracket] =
          .comma :: (item.lexemes ++ (itemLexemes items ++ [.closeBracket])) := by
        simp [itemLexemes]
      rw [elements]
      exact ⟨(first.append rest apart).cons (.punctuation rfl) rfl, apart_cons rfl (by decide)⟩

theorem inRow_field {value : Json} (key : String) (h : InRow value.lexemes)
    (rest : InRow others) (apart : Apart others) :
    InRow (.string (some key) :: .colon :: (value.lexemes ++ others)) := by
  have valued : InRow (.colon :: (value.lexemes ++ others)) :=
    (h.append rest apart).cons (.punctuation rfl) rfl
  exact valued.cons (Lexeme.spelling_string key) rfl

theorem inRow_fields {fields : List (String × Json)}
    (each : ∀ field ∈ fields, InRow field.2.lexemes) :
    InRow (fieldLexemes fields ++ [.closeBrace]) ∧
      Apart (fieldLexemes fields ++ [.closeBrace]) := by
  induction fields with
  | nil => exact ⟨inRow_single (.punctuation rfl), apart_cons rfl (by decide)⟩
  | cons field fields ih =>
      obtain ⟨key, value⟩ := field
      obtain ⟨first, behind⟩ := List.forall_mem_cons.1 each
      obtain ⟨rest, apart⟩ := ih behind
      have elements : fieldLexemes ((key, value) :: fields) ++ [.closeBrace] =
          .comma :: .string (some key) :: .colon ::
            (value.lexemes ++ (fieldLexemes fields ++ [.closeBrace])) := by
        simp [fieldLexemes]
      have named := inRow_field key first rest apart
      rw [elements]
      exact ⟨named.cons (.punctuation rfl) rfl, apart_cons rfl (by decide)⟩

/-- The elements of a value are laid out by their spellings in a row. -/
theorem inRow_lexemes (value : Json) : InRow value.lexemes := by
  induction value with
  | null => exact inRow_single .null
  | bool value =>
      cases value with
      | true => exact inRow_single .true
      | false => exact inRow_single .false
  | number value => exact inRow_single (Lexeme.spelling_number value)
  | string text => exact inRow_single (Lexeme.spelling_string text)
  | array items ih =>
      cases items with
      | nil =>
          have closing : InRow [.closeBracket] := inRow_single (.punctuation rfl)
          exact closing.cons (.punctuation rfl) rfl
      | cons item items =>
          obtain ⟨first, behind⟩ := List.forall_mem_cons.1 ih
          obtain ⟨rest, apart⟩ := inRow_items behind
          have elements : lexemes (.array (item :: items)) =
              .openBracket :: (item.lexemes ++ (itemLexemes items ++ [.closeBracket])) := by
            simp [lexemes, itemLexemes]
          rw [elements]
          exact (first.append rest apart).cons (.punctuation rfl) rfl
  | object fields ih =>
      cases fields with
      | nil =>
          have closing : InRow [.closeBrace] := inRow_single (.punctuation rfl)
          exact closing.cons (.punctuation rfl) rfl
      | cons field fields =>
          obtain ⟨key, value⟩ := field
          obtain ⟨first, behind⟩ := List.forall_mem_cons.1 ih
          obtain ⟨rest, apart⟩ := inRow_fields behind
          have elements : lexemes (.object ((key, value) :: fields)) =
              .openBrace :: .string (some key) :: .colon ::
                (value.lexemes ++ (fieldLexemes fields ++ [.closeBrace])) := by
            simp [lexemes, fieldLexemes]
          have named := inRow_field key first rest apart
          rw [elements]
          exact named.cons (.punctuation rfl) rfl

theorem layout_compact (value : Json) : Layout value.source.lexemes value.compact.toList := by
  have nothing : Layout [] [] := .nil (by simp)
  have layout := value.inRow_lexemes [] [] nothing Literal.ends_nil
  rw [List.append_nil, List.append_nil] at layout
  rw [lexemes_source, compact, String.toList_ofList]
  exact layout

/-- The text is well formed, and its tree has the value. -/
def Denotes (text : String) (value : Json) : Prop :=
  ∃ source : Source, Layout source.lexemes text.toList ∧ ofSource? source = some value

theorem denotes_compact (value : Json) : Denotes value.compact value :=
  ⟨value.source, value.layout_compact, value.ofSource?_source⟩

theorem read?_of_denotes {text : String} {value : Json} (h : Denotes text value) :
    read? text = some value := by
  obtain ⟨source, layout, read⟩ := h
  rw [Json.read?, Source.read?_of_layout layout]
  exact read

theorem Denotes.unique {text : String} {value other : Json} (h : Denotes text value)
    (h' : Denotes text other) : value = other := by
  have read := read?_of_denotes h
  rw [read?_of_denotes h'] at read
  exact (Option.some.inj read).symm

end ChannelFilter.Json

namespace ChannelFilter

/-- The text of a filter is well formed. It denotes the document of the condition and no other
value, and it is read as that document. -/
theorem Condition.render_denotes_document (mapping : FieldMapping) (c : Condition) :
    (∀ value, Json.Denotes (c.render mapping) value ↔ value = c.document mapping) ∧
      Json.read? (c.render mapping) = some (c.document mapping) := by
  have denotes : Json.Denotes (c.render mapping) (c.document mapping) :=
    (c.document mapping).denotes_compact
  refine ⟨?_, Json.read?_of_denotes denotes⟩
  intro value
  constructor
  · intro other
    exact other.unique denotes
  · rintro rfl
    exact denotes

/-- A comparison whose channel has a quote in its name, with a text that has a backslash, a line
break and another control character. -/
def specialSample : Condition :=
  .predicate { channel := "a\"b", comparison := .eq, operand := .string "c:\\d\n\u0001" }

theorem Condition.render_denotes_document_sample :
    specialSample.render .builtin =
        "\x7b\"channels.a\\\"b.data\":\x7b\"$eq\":\"c:\\\\d\\n\\u0001\"\x7d\x7d" ∧
      specialSample.document .builtin =
        .single "channels.a\"b.data" (.single "$eq" (.string "c:\\d\n\u0001")) ∧
      Json.Denotes (specialSample.render .builtin) (specialSample.document .builtin) ∧
      Json.read? (specialSample.render .builtin) = some (specialSample.document .builtin) := by
  have denoted := specialSample.render_denotes_document .builtin
  exact ⟨by decide +kernel, rfl, (denoted.1 _).2 rfl, denoted.2⟩

end ChannelFilter
