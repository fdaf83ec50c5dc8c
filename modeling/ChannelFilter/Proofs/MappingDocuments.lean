import Mathlib.Data.List.Sort
import Mathlib.Data.String.Basic
import ChannelFilter.FieldMapping.Load
import ChannelFilter.Proofs.ObjectFields
import ChannelFilter.Proofs.WrittenDocuments

/-!
# Field mappings are read as they are written

A mapping is written as an object with four fields, and the metadata channels are listed in it by
their code points. Whoever writes such an object by hand may leave out any of the four fields, list
channels repeatedly and in any order, put the fields in any order and foreign fields among them.
What the object gives is what the mapping has, and the rest is as in the built-in mapping.
-/
namespace ChannelFilter

namespace NameSet

/-- A set is known by its members. -/
theorem eq_of_contains_iff {set other : NameSet}
    (h : ∀ name, set.contains name = true ↔ other.contains name = true) : set = other := by
  have names : set.names = other.names := by
    apply set.increasing.eq_of_mem_iff other.increasing
    intro name
    rw [← contains_iff, ← contains_iff]
    exact h name
  cases set
  cases other
  cases names
  rfl

/-- The first name has the lower code point where the two first differ, or is the start of the
second. -/
def Precedes (name other : String) : Prop :=
  name.toList.map (·.toNat) < other.toList.map (·.toNat)

theorem precedes_of_lt {name other : String} (h : name < other) : Precedes name other := by
  have chars : name.toList < other.toList := String.lt_iff_toList_lt.1 h
  unfold Precedes
  generalize name.toList = cs at chars ⊢
  generalize other.toList = ds at chars ⊢
  induction chars with
  | nil => exact .nil
  | cons _ ih => exact .cons ih
  | rel less => exact .rel (UInt32.lt_iff_toNat_lt.1 less)

end NameSet

namespace FieldMapping

open Json (Source)
open Json.Lexeme (Layout)

variable {mapping other : FieldMapping} {names : List String} {source : Source} {text : String}

/-- What an object gives of a mapping, each of the four values or not. The metadata channels are
listed in any order, and any number of times each. -/
structure Given where
  names : Option (List String)
  metadataField : Option String
  channelField : Option String
  valueField : Option String

def textSource (text : String) : Source :=
  .string (some text)

def listSource (names : List String) : Source :=
  .array (names.map textSource)

/-- The field with the key, if there is a value for it. -/
def fieldAt (key : String) : Option Source → List (Option String × Source)
  | none => []
  | some value => [(some key, value)]

namespace Given

variable {given : Given}

def valueAt (given : Given) (key : String) : Option Source :=
  if key = "metadataFields" then given.names.map listSource
  else if key = "metadataPrefix" then given.metadataField.map textSource
  else if key = "channelPrefix" then given.channelField.map textSource
  else if key = "channelSuffix" then given.valueField.map textSource
  else none

def fields (given : Given) : List (Option String × Source) :=
  keys.flatMap fun key => fieldAt key (given.valueAt key)

/-- An object that gives this and no more of a mapping: its fields are those for what is given and
any foreign ones, in any order. -/
inductive In (given : Given) : Source → Prop
  | object {fields foreign : List (Option String × Source)}
      (unknown : ∀ field ∈ foreign, Source.IsForeign keys field)
      (order : fields.Perm (given.fields ++ foreign)) : In given (.object fields)

/-- The mapping has the values that are given, and the built-in value for each that is not. -/
structure HeldBy (given : Given) (mapping : FieldMapping) : Prop where
  names : ∀ name, mapping.metadataFields.contains name = true ↔
    name ∈ given.names.getD builtinMetadata
  metadataField : mapping.metadataField = given.metadataField.getD builtin.metadataField
  channelField : mapping.channelField = given.channelField.getD builtin.channelField
  valueField : mapping.valueField = given.valueField.getD builtin.valueField

/-- There is one mapping at most that has what is given. -/
theorem HeldBy.unique (h : given.HeldBy mapping) (h' : given.HeldBy other) : mapping = other := by
  have sets : mapping.metadataFields = other.metadataFields :=
    NameSet.eq_of_contains_iff fun name => (h.names name).trans (h'.names name).symm
  have metadata := h.metadataField.trans h'.metadataField.symm
  have channels := h.channelField.trans h'.channelField.symm
  have values := h.valueField.trans h'.valueField.symm
  cases mapping
  cases other
  cases sets
  cases metadata
  cases channels
  cases values
  rfl

/-- The mapping that has what is given. -/
def toMapping (given : Given) : FieldMapping :=
  { metadataFields := .ofList (given.names.getD builtinMetadata)
    metadataField := given.metadataField.getD builtin.metadataField
    channelField := given.channelField.getD builtin.channelField
    valueField := given.valueField.getD builtin.valueField }

theorem heldBy_toMapping (given : Given) : given.HeldBy given.toMapping :=
  ⟨fun _ => NameSet.contains_ofList, rfl, rfl, rfl⟩

/-- All four values of a mapping, with its metadata channels as they are listed. -/
def whole (mapping : FieldMapping) (names : List String) : Given :=
  { names := some names
    metadataField := some mapping.metadataField
    channelField := some mapping.channelField
    valueField := some mapping.valueField }

theorem heldBy_whole (mapping : FieldMapping)
    (listed : ∀ name, name ∈ names ↔ mapping.metadataFields.contains name = true) :
    (whole mapping names).HeldBy mapping :=
  ⟨fun name => (listed name).symm, rfl, rfl, rfl⟩

end Given

@[simp] theorem valuesAt_fieldAt_self (key : String) (value : Option Source) :
    Source.valuesAt key (fieldAt key value) = value.toList := by
  cases value <;> simp [fieldAt, Source.valuesAt]

theorem valuesAt_fieldAt_of_ne {key name : String} (ne : key ≠ name) (value : Option Source) :
    Source.valuesAt key (fieldAt name value) = [] := by
  cases value <;> simp [fieldAt, Source.valuesAt, ne.symm]

theorem readAll?_textSource (names : List String) :
    Source.readAll? Source.text? (names.map textSource) = some names := by
  induction names with
  | nil => rfl
  | cons name names ih =>
      rw [Source.readAll?] at ih ⊢
      rw [List.map_cons, List.mapM_cons, ih]
      rfl

theorem nameSet?_listSource (names : List String) :
    nameSet? (listSource names) = some (.ofList names) := by
  rw [listSource, nameSet?, readAll?_textSource]
  rfl

theorem readOr?_text (absent : String) (value : Option String) :
    readOr? Source.text? absent (value.map textSource) = some (value.getD absent) := by
  cases value <;> rfl

theorem readOr?_list (value : Option (List String)) :
    readOr? nameSet? builtin.metadataFields (value.map listSource) =
      some (.ofList (value.getD builtinMetadata)) := by
  cases value with
  | none => rfl
  | some names => exact nameSet?_listSource names

theorem ofParts?_given (given : Given) :
    ofParts? (given.names.map listSource) (given.metadataField.map textSource)
      (given.channelField.map textSource) (given.valueField.map textSource) =
      some given.toMapping := by
  simp only [ofParts?, readOr?_list, readOr?_text]
  rfl

namespace Given

variable {given : Given}

theorem isSome_of_mem_fields : ∀ field ∈ given.fields, field.1.isSome = true := by
  intro field inside
  obtain ⟨key, -, here⟩ := List.mem_flatMap.1 inside
  cases value : given.valueAt key with
  | none =>
      rw [value] at here
      cases here
  | some value' =>
      rw [value] at here
      cases List.mem_singleton.1 here
      rfl

theorem valuesAt_fields {key : String} (member : key ∈ keys) :
    Source.valuesAt key given.fields = (given.valueAt key).toList := by
  simp only [keys, List.mem_cons, List.not_mem_nil, or_false] at member
  rcases member with rfl | rfl | rfl | rfl <;>
    simp [fields, keys, Source.valuesAt_append, valuesAt_fieldAt_of_ne]

theorem In.ofSource?_eq (h : given.In source) : ofSource? source = some given.toMapping := by
  cases h with
  | @object fields foreign unknown order =>
      have ok : Source.keysOk keys fields = true :=
        Source.keysOk_of_order unknown order isSome_of_mem_fields
          fun key member => ⟨_, valuesAt_fields member⟩
      have value : ∀ key ∈ keys, (Source.valuesAt key fields).head? = given.valueAt key := by
        intro key member
        rw [Source.valuesAt_of_order unknown order member (valuesAt_fields member)]
        cases given.valueAt key <;> rfl
      have first := value "metadataFields" (by decide)
      have second := value "metadataPrefix" (by decide)
      have third := value "channelPrefix" (by decide)
      have fourth := value "channelSuffix" (by decide)
      simp only [ofSource?, if_pos ok, first, second, third, fourth]
      exact ofParts?_given given

theorem in_whole (mapping : FieldMapping) (names : List String) :
    (whole mapping names).In (.object (whole mapping names).fields) := by
  have order : (whole mapping names).fields.Perm ((whole mapping names).fields ++ []) := by
    rw [List.append_nil]
  exact .object (by simp) order

end Given

/-- The text is read as the mapping, by itself and from a file at any path. -/
def ReadsAs (text : String) (mapping : FieldMapping) : Prop :=
  read? text = some mapping ∧
    ∀ causes path, load causes path (.file text.toUTF8) = .ok mapping

/-- However the text of an object is laid out, what the object gives is read. -/
theorem readsAs_of_layout {given : Given} (h : given.In source)
    (layout : Layout source.lexemes text.toList) : ReadsAs text given.toMapping := by
  have read : read? text = some given.toMapping := by
    rw [read?, Source.read?_of_layout layout]
    exact h.ofSource?_eq
  refine ⟨read, ?_⟩
  intro causes path
  rw [load_text, read]
  rfl

theorem itemSources_strings (names : List String) :
    Json.itemSources (names.map .string) = names.map textSource := by
  induction names with
  | nil => rfl
  | cons name names ih =>
      rw [List.map_cons, Json.itemSources, ih]
      rfl

theorem layout_write (mapping : FieldMapping) :
    Layout (Source.object (Given.whole mapping mapping.metadataFields.names).fields).lexemes
      (write mapping).toList := by
  have layout := mapping.toJson.layout_compact
  have source : mapping.toJson.source =
      .object (Given.whole mapping mapping.metadataFields.names).fields := by
    simp only [toJson, Json.source, Json.fieldSources, itemSources_strings]
    rfl
  rwa [source] at layout

/-- The text that a mapping is written as has all four values, with the metadata channels in
strictly increasing order by code points, and the mapping is read back from it. Any object that
gives some of the four values, in any order of the fields and with any foreign fields among them,
however it is laid out, is read as the mapping that has these values and else the built-in
ones. -/
theorem mapping_documents_read_back :
    (∀ mapping : FieldMapping,
      (∃ names : List String, names.Pairwise NameSet.Precedes ∧
        (∀ name, name ∈ names ↔ mapping.metadataFields.contains name = true) ∧
        Layout (Source.object (Given.whole mapping names).fields).lexemes
          (write mapping).toList) ∧
      ReadsAs (write mapping) mapping) ∧
    ∀ (given : Given) (source : Source) (text : String), given.In source →
      Layout source.lexemes text.toList →
      ∃ mapping, ReadsAs text mapping ∧ given.HeldBy mapping := by
  constructor
  · intro mapping
    have written := mapping.layout_write
    have listed : ∀ name, name ∈ mapping.metadataFields.names ↔
        mapping.metadataFields.contains name = true := fun name => NameSet.contains_iff.symm
    refine ⟨⟨mapping.metadataFields.names, ?_, listed, written⟩, ?_⟩
    · exact mapping.metadataFields.increasing.imp NameSet.precedes_of_lt
    · have read := readsAs_of_layout (Given.in_whole mapping _) written
      have same := (Given.heldBy_toMapping _).unique (Given.heldBy_whole mapping listed)
      rwa [same] at read
  · intro given source text inside layout
    exact ⟨given.toMapping, readsAs_of_layout inside layout, given.heldBy_toMapping⟩

/-- Two of the four values. One channel is listed twice, and the greater one first. -/
def givenSample : Given :=
  { names := some ["b", "a", "b"]
    metadataField := none
    channelField := some "ch"
    valueField := none }

/-- A foreign field, in which a known key and a string without a text occur. -/
def foreignSample : Option String × Source :=
  (some "note", .array [.null, .object [(some "channelSuffix", .string none)]])

/-- An object that gives the two values in the order in which they are not written. -/
def objectSample : Source :=
  .object
    [(some "channelPrefix", textSource "ch"), foreignSample,
     (some "metadataFields", listSource ["b", "a", "b"])]

/-- A text of this object with space around every element. -/
def textSample : String :=
  " \x7b \"channelPrefix\" : \"ch\" , \"note\" : [ null , \x7b \"channelSuffix\" : \"\\ud800\" " ++
    "\x7d ] , \"metadataFields\" : [ \"b\" , \"a\" , \"b\" ] \x7d "

theorem mapping_documents_read_back_sample :
    givenSample.In objectSample ∧ Layout objectSample.lexemes textSample.toList ∧
      ∃ mapping, ReadsAs textSample mapping ∧ givenSample.HeldBy mapping := by
  have unknown : ∀ field ∈ [foreignSample], Source.IsForeign keys field := by
    simp [foreignSample, Source.IsForeign, keys]
  have order : List.Perm
      ([(some "channelPrefix", textSource "ch"), foreignSample] ++
        [(some "metadataFields", listSource ["b", "a", "b"])])
      (givenSample.fields ++ [foreignSample]) := List.perm_append_comm
  have inside : givenSample.In objectSample := .object unknown order
  have noNumber : ∀ lexeme ∈ objectSample.lexemes, lexeme.isNumber = false := by decide
  have space : ∀ c ∈ [' '], Json.Lexeme.isSpace c = true := by simp [Json.Lexeme.isSpace]
  have text : textSample.toList =
      objectSample.lexemes.flatMap (fun lexeme => [' '] ++ lexeme.chars) ++ [' '] := by cbv
  have layout : Layout objectSample.lexemes textSample.toList := by
    rw [text]
    exact Json.Lexeme.layout_spaced space (by decide)
      fun lexeme member => Json.Lexeme.spelling_chars lexeme (noNumber lexeme member)
  exact ⟨inside, layout, mapping_documents_read_back.2 _ _ _ inside layout⟩

end FieldMapping

end ChannelFilter
