import ChannelFilter.FieldMapping.Basic
import ChannelFilter.Json.Writer
import ChannelFilter.Parser.Run

/-!
# Filter documents

A condition is rendered as a document whose objects have a single key each. A predicate becomes
the path of its channel over its comparison over its operand; the connectives have keys of their
own. A list with a single part is rendered as that part, as it is when a condition is read. A
channel on the right of a comparison is rendered as the text of its path.
-/
namespace ChannelFilter

def Operand.document (mapping : FieldMapping) : Operand → Json
  | .null => .null
  | .channel name => .string (mapping.path name)
  | .string text => .string text
  | .number value => .number value

/-- The object that a predicate is rendered as. -/
def Predicate.document (mapping : FieldMapping) (predicate : Predicate) : Json :=
  .single (mapping.path predicate.channel)
    (.single predicate.comparison.key (predicate.operand.document mapping))

namespace Condition

def anyOfKey : String := "$or"

def allOfKey : String := "$and"

def negationKey : String := "$not"

/-- The document of a connective over the documents of its parts. -/
def joined (key : String) : List Json → Json
  | [part] => part
  | parts => .single key (.array parts)

mutual

def document (mapping : FieldMapping) : Condition → Json
  | .anyOf terms => joined anyOfKey (documents mapping terms)
  | .allOf factors => joined allOfKey (documents mapping factors)
  | .negation condition => .single negationKey (document mapping condition)
  | .predicate leaf => leaf.document mapping

def documents (mapping : FieldMapping) : List Condition → List Json
  | [] => []
  | condition :: conditions => document mapping condition :: documents mapping conditions

end

/-- The text of the document of a condition. -/
def render (mapping : FieldMapping) (condition : Condition) : String :=
  (condition.document mapping).compact

end Condition

/-- The filter of the condition at the front of the tokens, under the built-in mapping. -/
def filterOfTokens (tokens : List Token) : Except FilterError String :=
  (Condition.ofTokens tokens).map (·.render .builtin)

/-- The filter of the condition that all the tokens together are, under the built-in mapping. -/
def filterOfAllTokens (tokens : List Token) : Except FilterError String :=
  (Condition.ofAllTokens tokens).map (·.render .builtin)

/-- A filter, and the tokens behind the condition that it was made from. -/
structure Compiled where
  filter : String
  remaining : List Token
deriving DecidableEq, Repr

/-- The filter of the condition at the front of the tokens, under the given mapping. -/
def compile (mapping : FieldMapping) (tokens : List Token) : Except FilterError Compiled :=
  match (Parser.ofTokens tokens).parse with
  | (.ok condition, parser) =>
    .ok { filter := condition.render mapping, remaining := parser.remaining }
  | (.error cause, _) => .error cause

end ChannelFilter
