import ChannelFilter.FilterError
import ChannelFilter.Json.Value

/-!
# The catalog of operators

The catalog lists every spelling that an operator, a keyword or a parenthesis may be entered as.
Whoever offers operators to the user offers these, and a filter is checked against the same list:
an operator token is known only if the catalog has its value in the category of its kind.
-/
namespace ChannelFilter

inductive Comparison
  | eq
  | ne
  | lt
  | gt
  | lte
  | gte
deriving DecidableEq, Repr

namespace Comparison

def key : Comparison → String
  | eq => "$eq"
  | ne => "$ne"
  | lt => "$lt"
  | gt => "$gt"
  | lte => "$lte"
  | gte => "$gte"

def all : List Comparison := [eq, ne, lt, gt, lte, gte]

def ofKey? (key : String) : Option Comparison :=
  all.find? (·.key == key)

@[simp] theorem ofKey?_key (comparison : Comparison) :
    ofKey? comparison.key = some comparison := by
  cases comparison <;> decide

end Comparison

/-- An entry of the catalog. Keywords and parentheses stand for no comparison. -/
structure Operator where
  label : String
  category : Token.Kind
  comparison : Option Comparison
deriving DecidableEq, Repr

namespace Operator

/-- The token that the entry is entered as. -/
def token (operator : Operator) : Token :=
  { kind := operator.category, value := operator.label }

def toJson (operator : Operator) : Json :=
  .object
    [("label", .string operator.label),
     ("category", .string operator.category.name),
     ("compiled", match operator.comparison with
       | some comparison => .string comparison.key
       | none => .null)]

end Operator

namespace Catalog

/-- The version of the list below; it changes with every change of the list. -/
def version : Nat := 1

/-- The entries, in the order in which they are offered. -/
def operators : List Operator :=
  [⟨"not", .not, none⟩,
   ⟨"and", .and, none⟩,
   ⟨"or", .or, none⟩,
   ⟨"(", .openParen, none⟩,
   ⟨")", .closeParen, none⟩,
   ⟨"=", .comparison, some .eq⟩,
   ⟨"!=", .comparison, some .ne⟩,
   ⟨"<", .comparison, some .lt⟩,
   ⟨">", .comparison, some .gt⟩,
   ⟨"<=", .comparison, some .lte⟩,
   ⟨">=", .comparison, some .gte⟩,
   ⟨"is null", .unary, some .eq⟩,
   ⟨"is not null", .unary, some .ne⟩]

/-- The entry of the given spelling in the given category. -/
def lookup (label : String) (category : Token.Kind) : Option Operator :=
  operators.find? fun operator => operator.category == category && operator.label == label

/-- The comparison that a token stands for, which has to be of one of the two operator kinds. -/
def resolve (token : Token) : Except FilterError Comparison :=
  if token.kind = .comparison ∨ token.kind = .unary then
    match (lookup token.value token.kind).bind (·.comparison) with
    | some comparison => .ok comparison
    | none => .error (.unknownOperator token.value)
  else .error (.unknownOperator token.value)

def toJson : Json :=
  .object [("version", Json.ofNat version), ("operators", .array (operators.map Operator.toJson))]

end Catalog

end ChannelFilter
