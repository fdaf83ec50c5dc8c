import ChannelFilter.FieldMapping.NameSet

/-!
# Where channels are stored

A record keeps some channels among its metadata and all others under a field of their own. A field
mapping says which channels are metadata and what the fields are called. It gives every channel
name a path, whatever the name holds.
-/
namespace ChannelFilter

/-- Which channels are metadata, the field of the metadata, the field of all other channels, and
the field inside a channel that holds its value; with no text for the last one, the channel's own
field holds the value. -/
structure FieldMapping where
  metadataFields : NameSet
  metadataField : String
  channelField : String
  valueField : String
deriving DecidableEq

namespace FieldMapping

/-- The channels that are metadata unless a mapping says otherwise. -/
def builtinMetadata : List String :=
  ["timestamp", "shotnum", "activeArea", "activeExperiment"]

/-- The path of a channel under the built-in rule. -/
def builtinPath (channel : String) : String :=
  if channel ∈ builtinMetadata then "metadata." ++ channel
  else "channels." ++ channel ++ ".data"

def builtin : FieldMapping :=
  { metadataFields := .ofList builtinMetadata
    metadataField := "metadata"
    channelField := "channels"
    valueField := "data" }

instance : Inhabited FieldMapping := ⟨builtin⟩

/-- The path of a channel. -/
def path (mapping : FieldMapping) (channel : String) : String :=
  if mapping.metadataFields.contains channel then mapping.metadataField ++ "." ++ channel
  else if mapping.valueField = "" then mapping.channelField ++ "." ++ channel
  else mapping.channelField ++ "." ++ channel ++ "." ++ mapping.valueField

end FieldMapping

end ChannelFilter
