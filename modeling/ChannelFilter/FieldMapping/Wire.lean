import ChannelFilter.FieldMapping.Basic
import ChannelFilter.Json.Writer

/-!
# Field mappings as documents

A mapping is written as an object with four keys in a fixed order and the metadata channels in
increasing order. It is read from an object with any of the four keys, each at most once and among
any others, or from a list of the values in that order. What is left out has its built-in value.
-/
namespace ChannelFilter.FieldMapping

open Json (Source)

/-- The keys of a mapping, in the order in which they are written. -/
def keys : List String :=
  ["metadataFields", "metadataPrefix", "channelPrefix", "channelSuffix"]

def toJson (mapping : FieldMapping) : Json :=
  .object
    [("metadataFields", .array (mapping.metadataFields.names.map .string)),
     ("metadataPrefix", .string mapping.metadataField),
     ("channelPrefix", .string mapping.channelField),
     ("channelSuffix", .string mapping.valueField)]

def write (mapping : FieldMapping) : String :=
  mapping.toJson.compact

def nameSet? : Source → Option NameSet
  | .array items => (Source.readAll? Source.text? items).map .ofList
  | _ => none

/-- What a source reads as, or the given value if there is no source. -/
def readOr? {α : Type} (read : Source → Option α) (absent : α) : Option Source → Option α
  | none => some absent
  | some source => read source

/-- The mapping whose four values are read from the sources, as far as there are any. -/
def ofParts? (names metadataField channelField valueField : Option Source) :
    Option FieldMapping := do
  let names ← readOr? nameSet? builtin.metadataFields names
  let metadataField ← readOr? Source.text? builtin.metadataField metadataField
  let channelField ← readOr? Source.text? builtin.channelField channelField
  let valueField ← readOr? Source.text? builtin.valueField valueField
  return { metadataFields := names, metadataField, channelField, valueField }

def ofSource? : Source → Option FieldMapping
  | .array items =>
    if items.length ≤ keys.length then ofParts? items[0]? items[1]? items[2]? items[3]? else none
  | .object fields =>
    if Source.keysOk keys fields then
      let value (key : String) := (Source.valuesAt key fields).head?
      ofParts? (value "metadataFields") (value "metadataPrefix") (value "channelPrefix")
        (value "channelSuffix")
    else none
  | _ => none

def read? (text : String) : Option FieldMapping :=
  (Source.read? text).bind ofSource?

end ChannelFilter.FieldMapping
