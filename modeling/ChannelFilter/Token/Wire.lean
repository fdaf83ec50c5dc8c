import ChannelFilter.Json.Writer
import ChannelFilter.Token.Basic

/-!
# Tokens as documents

A token is written as an object with the keys `kind` and `value` in this order. It is read from an
object that has each of the two keys once, in any order and among any others, or from the list of
the two values. A kind is read from its name, or from an object with its name as the only key and
null as the value.
-/
namespace ChannelFilter.Token

open Json (Source)

def Kind.ofSource? : Source → Option Kind
  | .string (some name) => Kind.ofName? name
  | .object [(some name, .null)] => Kind.ofName? name
  | _ => none

def ofParts? (kind value : Source) : Option Token :=
  match Kind.ofSource? kind, value.text? with
  | some kind, some value => some { kind, value }
  | _, _ => none

def keys : List String := ["kind", "value"]

def ofSource? : Source → Option Token
  | .array [kind, value] => ofParts? kind value
  | .object fields =>
    if Source.keysOk keys fields then
      match Source.valuesAt "kind" fields, Source.valuesAt "value" fields with
      | [kind], [value] => ofParts? kind value
      | _, _ => none
    else none
  | _ => none

def listOfSource? : Source → Option (List Token)
  | .array items => Source.readAll? ofSource? items
  | _ => none

def readList? (text : String) : Option (List Token) :=
  (Source.read? text).bind listOfSource?

def toJson (token : Token) : Json :=
  .object [("kind", .string token.kind.name), ("value", .string token.value)]

def writeList (tokens : List Token) : String :=
  (Json.array (tokens.map toJson)).compact

end ChannelFilter.Token
