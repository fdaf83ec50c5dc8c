import Mathlib.Data.List.Forall2
import ChannelFilter.Proofs.ObjectFields
import ChannelFilter.Proofs.WrittenDocuments
import ChannelFilter.Token.Wire

/-!
# Token lists are read as they are written

A token is written as an object with its kind and its value. Other producers may give the two
fields in the other order and may give any further fields, of which a reader of tokens knows
nothing; and they may lay out the text of the list as they like. Whatever they do, the tokens that
are read are those that the objects describe. In particular, the tokens that are written are read
back.
-/
namespace ChannelFilter.Token

open Json (Source)
open Json.Lexeme (Layout)

variable {token : Token} {tokens : List Token} {source : Source} {sources : List Source}

/-- The two fields of a token, in the order in which they are written. -/
def ownFields (token : Token) : List (Option String × Source) :=
  [(some "kind", .string (some token.kind.name)), (some "value", .string (some token.value))]

def object (token : Token) : Source :=
  .object token.ownFields

/-- An object that describes the token: it has the two fields of the token and any number of
foreign ones, in any order and with any values. -/
inductive Describes (token : Token) : Source → Prop
  | object {fields others : List (Option String × Source)}
      (unknown : ∀ field ∈ others, Source.IsForeign keys field)
      (order : fields.Perm (token.ownFields ++ others)) : Describes token (.object fields)

theorem isSome_of_mem_ownFields : ∀ field ∈ token.ownFields, field.1.isSome = true := by
  simp [ownFields]

theorem ofParts?_strings (token : Token) :
    ofParts? (.string (some token.kind.name)) (.string (some token.value)) = some token := by
  simp [ofParts?, Kind.ofSource?, Source.text?]

theorem valuesAt_ownFields (token : Token) : ∀ key ∈ keys,
    ∃ value : Option Source, Source.valuesAt key token.ownFields = value.toList := by
  intro key member
  simp only [keys, List.mem_cons, List.not_mem_nil, or_false] at member
  rcases member with rfl | rfl
  · exact ⟨some (.string (some token.kind.name)), rfl⟩
  · exact ⟨some (.string (some token.value)), rfl⟩

theorem ofSource?_of_describes (h : Describes token source) : ofSource? source = some token := by
  cases h with
  | @object fields others unknown order =>
      have ok : Source.keysOk keys fields = true :=
        Source.keysOk_of_order unknown order isSome_of_mem_ownFields token.valuesAt_ownFields
      have kind : Source.valuesAt "kind" fields =
          (some (Source.string (some token.kind.name))).toList :=
        Source.valuesAt_of_order unknown order (by decide) rfl
      have value : Source.valuesAt "value" fields =
          (some (Source.string (some token.value))).toList :=
        Source.valuesAt_of_order unknown order (by decide) rfl
      simp only [ofSource?, if_pos ok, kind, value, Option.toList_some]
      exact ofParts?_strings token

theorem readAll?_of_describes (h : List.Forall₂ Describes tokens sources) :
    Source.readAll? ofSource? sources = some tokens := by
  induction h with
  | nil => rfl
  | cons first _ ih =>
      rw [Source.readAll?] at ih ⊢
      rw [List.mapM_cons, ofSource?_of_describes first, ih]
      rfl

/-- However the text of objects that describe the tokens is laid out, the tokens are read. -/
theorem readList?_of_layout {text : String} (h : List.Forall₂ Describes tokens sources)
    (layout : Layout (Source.array sources).lexemes text.toList) :
    readList? text = some tokens := by
  rw [readList?, Source.read?_of_layout layout, Option.bind_some, listOfSource?]
  exact readAll?_of_describes h

theorem describes_object (token : Token) : Describes token token.object := by
  have order : token.ownFields.Perm (token.ownFields ++ []) := by rw [List.append_nil]
  exact .object (by simp) order

theorem describes_objects (tokens : List Token) :
    List.Forall₂ Describes tokens (tokens.map object) := by
  rw [List.forall₂_map_right_iff, List.forall₂_same]
  exact fun token _ => describes_object token

theorem itemSources_toJson (tokens : List Token) :
    Json.itemSources (tokens.map toJson) = tokens.map object := by
  induction tokens with
  | nil => rfl
  | cons token tokens ih =>
      rw [List.map_cons, Json.itemSources, ih]
      rfl

theorem layout_writeList (tokens : List Token) :
    Layout (Source.array (tokens.map object)).lexemes (writeList tokens).toList := by
  have layout := (Json.array (tokens.map toJson)).layout_compact
  rwa [Json.source, itemSources_toJson] at layout

/-- The text that tokens are written as has an object with a kind and a value for each of them,
and they are read back from it. They are also read from any other layout of objects that describe
them, with the fields in any order, fields of other producers among them, and any space between
the lexical elements. -/
theorem token_documents_read_back (tokens : List Token) :
    Layout (Source.array (tokens.map object)).lexemes (writeList tokens).toList ∧
      readList? (writeList tokens) = some tokens ∧
      ∀ sources text, List.Forall₂ Describes tokens sources →
        Layout (Source.array sources).lexemes text.toList → readList? text = some tokens := by
  have written := layout_writeList tokens
  refine ⟨written, readList?_of_layout (describes_objects tokens) written, ?_⟩
  intro sources text described layout
  exact readList?_of_layout described layout

/-- A field of another producer, in which a token's key and a string without a text occur. -/
def note : Option String × Source :=
  (some "note", .array [.null, .object [(some "kind", .string none)]])

/-- The objects of a channel and of an operator; that of the operator has its value in front of its
kind, and the note between them. -/
def producedObjects : List Source :=
  [object ⟨.channel, "a"⟩,
   .object
    [(some "value", .string (some "is null")), note, (some "kind", .string (some "unaryOp"))]]

/-- A text of these objects with space around every element. -/
def producedText : String :=
  " [ \x7b \"kind\" : \"channel\" , \"value\" : \"a\" \x7d , \x7b \"value\" : \"is null\" , " ++
    "\"note\" : [ null , \x7b \"kind\" : \"\\ud800\" \x7d ] , \"kind\" : \"unaryOp\" \x7d ] "

theorem token_documents_read_back_sample :
    List.Forall₂ Describes [⟨.channel, "a"⟩, ⟨.unary, "is null"⟩] producedObjects ∧
      Layout (Source.array producedObjects).lexemes producedText.toList ∧
      readList? producedText = some [⟨.channel, "a"⟩, ⟨.unary, "is null"⟩] := by
  have unknown : ∀ field ∈ [note], Source.IsForeign keys field := by
    simp [note, Source.IsForeign, keys]
  have order : List.Perm
      [(some "value", .string (some "is null")), note, (some "kind", .string (some "unaryOp"))]
      (ownFields ⟨.unary, "is null"⟩ ++ [note]) := by
    have first := List.Perm.swap (some "kind", Source.string (some "unaryOp")) note []
    have second := List.Perm.swap (some "kind", Source.string (some "unaryOp"))
      (some "value", Source.string (some "is null")) [note]
    exact (first.cons _).trans second
  have described : List.Forall₂ Describes [⟨.channel, "a"⟩, ⟨.unary, "is null"⟩] producedObjects :=
    .cons (describes_object _) (.cons (.object unknown order) .nil)
  have noNumber : ∀ lexeme ∈ (Source.array producedObjects).lexemes, lexeme.isNumber = false := by
    decide
  have space : ∀ c ∈ [' '], Json.Lexeme.isSpace c = true := by simp [Json.Lexeme.isSpace]
  have text : producedText.toList =
      (Source.array producedObjects).lexemes.flatMap (fun lexeme => [' '] ++ lexeme.chars) ++
        [' '] := by cbv
  have layout : Layout (Source.array producedObjects).lexemes producedText.toList := by
    rw [text]
    exact Json.Lexeme.layout_spaced space (by decide)
      fun lexeme member => Json.Lexeme.spelling_chars lexeme (noNumber lexeme member)
  exact ⟨described, layout, (token_documents_read_back _).2.2 _ _ described layout⟩

end ChannelFilter.Token
