/-!
# Tokens of a filter expression

A filter expression is a list of tokens. A token has a kind, which alone decides where it may
stand, and a value, which is the text it was entered as. The value is free text for every kind.
-/
namespace ChannelFilter

inductive Token.Kind
  | channel
  | number
  | string
  | comparison
  | unary
  | not
  | and
  | or
  | openParen
  | closeParen
deriving DecidableEq, Repr

/-- A kind of token and the text it was entered as. -/
structure Token where
  kind : Token.Kind
  value : String
deriving DecidableEq, Repr

namespace Token.Kind

def all : List Kind :=
  [channel, number, string, comparison, unary, not, and, or, openParen, closeParen]

def name : Kind → String
  | channel => "channel"
  | number => "number"
  | string => "string"
  | comparison => "comparisonOp"
  | unary => "unaryOp"
  | not => "not"
  | and => "and"
  | or => "or"
  | openParen => "openParen"
  | closeParen => "closeParen"

def ofName? (name : String) : Option Kind :=
  all.find? (·.name == name)

/-- What a kind is called in messages: a word for what the user chooses, and the symbol itself in
quotes for what has only one spelling. -/
def describe : Kind → String
  | channel => "channel"
  | number => "number"
  | string => "string"
  | comparison => "comparison operator"
  | unary => "unary operator"
  | not => "'not'"
  | and => "'and'"
  | or => "'or'"
  | openParen => "'('"
  | closeParen => "')'"

theorem mem_all (kind : Kind) : kind ∈ all := by
  cases kind <;> decide

@[simp] theorem ofName?_name (kind : Kind) : ofName? kind.name = some kind := by
  cases kind <;> decide

end Token.Kind

end ChannelFilter
