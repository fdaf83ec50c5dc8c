import ChannelFilter.Token.Basic

/-!
# Why a filter is refused

Each cause carries what its message shows. The messages are shown to the user beside the filter,
so their wording is fixed here, in one place.
-/
namespace ChannelFilter

/-- Why a list of tokens is not a filter. -/
inductive FilterError
  /-- The tokens end where a condition has to start. -/
  | expressionIncomplete
  /-- The tokens end where the right operand has to stand. -/
  | missingOperand
  /-- The tokens end where a token of one of these kinds has to stand. -/
  | missingTokenAtEnd (expected : List Token.Kind)
  /-- A token stands where one of these kinds has to stand. -/
  | unexpectedTokenKind (expected : List Token.Kind) (found : Token)
  /-- A token with this value can start no condition, or is no right operand. -/
  | unexpectedToken (value : String)
  /-- A string or number stands where the channel of a comparison has to stand. -/
  | unexpectedLeftOperand (found : Token)
  /-- The catalog has no operator of this spelling in the category of its token. -/
  | unknownOperator (value : String)
  /-- The text of a number token is no number. -/
  | invalidNumber (value : String)
  /-- A token with this value follows a complete expression. -/
  | trailingToken (value : String)
  /-- More groups than this are open at once. -/
  | nestingTooDeep (limit : Nat)
deriving DecidableEq, Repr

namespace FilterError

def alternatives (kinds : List Token.Kind) : String :=
  " or ".intercalate (kinds.map Token.Kind.describe)

def inQuotes (value : String) : String :=
  "'" ++ value ++ "'"

def describe (token : Token) : String :=
  token.kind.describe ++ " " ++ inQuotes token.value

def message : FilterError → String
  | expressionIncomplete => "Filter expression is incomplete"
  | missingOperand => "Missing operand"
  | missingTokenAtEnd expected =>
    "Expected " ++ alternatives expected ++ " but reached the end of the filter"
  | unexpectedTokenKind expected found =>
    "Expected " ++ alternatives expected ++ " but found " ++ describe found
  | unexpectedToken value => "Unexpected token " ++ inQuotes value
  | unexpectedLeftOperand found =>
    "Unexpected " ++ describe found ++ " on the left of an operator, expected a channel"
  | unknownOperator value => "Unknown operator " ++ inQuotes value
  | invalidNumber value => "Invalid number " ++ inQuotes value
  | trailingToken value =>
    "Unexpected token " ++ inQuotes value ++ " after the end of the filter"
  | nestingTooDeep limit => "Parentheses nested deeper than " ++ limit.repr ++ " levels"

end FilterError

end ChannelFilter
