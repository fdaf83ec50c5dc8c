import ChannelFilter.Condition
import ChannelFilter.Text.Quote

/-!
# Reading a condition token by token

A condition is a disjunction of terms, a term a conjunction of factors, and a factor a predicate
or a group in parentheses, either with an optional "not" in front:

    condition ::= term ("or" term)*
    term      ::= factor ("and" factor)*
    factor    ::= "not"? (predicate | "(" condition ")")
    predicate ::= channel (comparison operand | unary)
    operand   ::= channel | string | number

One token decides each step, so the reader is a machine that takes the tokens one at a time. Its
state holds what has been read at the current level, the levels around it that are still open, and
what is due next. A step shifts the token, stops in front of it with the complete condition, or
rejects it with the cause. A rejected token counts as taken or not, depending on whether its kind
could stand where it does.

The number of open groups may be limited. Groups that were left open before the machine started
count towards the limit.
-/
namespace ChannelFilter.Parser

/-- What has been read of one condition: its complete terms and the complete factors of the term
after them, both with the latest first. -/
structure Level where
  terms : List Condition
  factors : List Condition

namespace Level

def empty : Level := { terms := [], factors := [] }

def addFactor (level : Level) (factor : Condition) : Level :=
  { level with factors := factor :: level.factors }

def term (level : Level) : Condition :=
  .conjunction level.factors.reverse

def endTerm (level : Level) : Level :=
  { terms := level.term :: level.terms, factors := [] }

def condition (level : Level) : Condition :=
  .disjunction (level.term :: level.terms).reverse

end Level

/-- A level around an open group, and whether the group is negated. -/
structure Group where
  outer : Level
  negated : Bool

inductive Due
  /-- A factor, which is negated if a "not" has been read. -/
  | factor (negated : Bool)
  /-- The operator behind a channel. -/
  | operator (negated : Bool) (channel : String)
  /-- The right operand of a comparison. -/
  | operand (negated : Bool) (channel : String) (comparison : Comparison)
  /-- A connective, the end of a group, or the end of the condition. -/
  | connective
deriving DecidableEq

/-- The state of the machine. The open groups are listed with the innermost first. -/
structure State where
  groups : List Group
  level : Level
  due : Due

/-- What a token does to a state. -/
inductive Step
  /-- The token is taken. -/
  | shift (next : State)
  /-- The condition is complete in front of the token. -/
  | stop (condition : Condition)
  /-- The token cannot stand here; `taken` says whether it counts as taken all the same. -/
  | reject (cause : FilterError) (taken : Bool)

namespace State

def start : State :=
  { groups := [], level := .empty, due := .factor false }

/-- The state after a complete factor. -/
def endFactor (state : State) (negated : Bool) (condition : Condition) : State :=
  { state with
    level := state.level.addFactor (condition.negatedIf negated)
    due := .connective }

def openGroup (state : State) (negated : Bool) : State :=
  { groups := { outer := state.level, negated } :: state.groups
    level := .empty
    due := .factor false }

/-- The state after the end of the innermost group, whose surroundings are `group` and `groups`. -/
def closeGroup (state : State) (group : Group) (groups : List Group) : State :=
  endFactor { state with groups, level := group.outer } group.negated state.level.condition

end State

/-- The kinds of tokens that may follow a channel. -/
def operatorKinds : List Token.Kind := [.comparison, .unary]

/-- The kinds of tokens that messages offer for the end of a group. -/
def groupEndKinds : List Token.Kind := [.closeParen]

/-- The right operand that a token stands for. -/
def operandOf (token : Token) : Except FilterError Operand :=
  match token.kind with
  | .channel => .ok (.channel token.value)
  | .string => .ok (.string (Text.unquoted token.value))
  | .number =>
    match Number.read? token.value with
    | some number => .ok (.number number)
    | none => .error (.invalidNumber token.value)
  | _ => .error (.unexpectedToken token.value)

/-- Whether the limit, if there is one, admits no group beside the `opened` ones. -/
def limitReached (limit : Option Nat) (opened : Nat) : Option Nat :=
  limit.filter (· ≤ opened)

namespace State

def stepFactor (limit : Option Nat) (opened : Nat) (state : State) (negated : Bool)
    (token : Token) : Step :=
  match token.kind with
  | .not =>
    if negated then .reject (.unexpectedToken token.value) false
    else .shift { state with due := .factor true }
  | .openParen =>
    match limitReached limit (opened + state.groups.length) with
    | some limit => .reject (.nestingTooDeep limit) true
    | none => .shift (state.openGroup negated)
  | .channel => .shift { state with due := .operator negated token.value }
  | .string => .reject (.unexpectedLeftOperand token) false
  | .number => .reject (.unexpectedLeftOperand token) false
  | _ => .reject (.unexpectedToken token.value) false

def stepOperator (state : State) (negated : Bool) (channel : String) (token : Token) : Step :=
  if token.kind ∈ operatorKinds then
    match Catalog.resolve token with
    | .ok comparison =>
      if token.kind = .comparison then
        .shift { state with due := .operand negated channel comparison }
      else
        .shift (state.endFactor negated (.predicate { channel, comparison, operand := .null }))
    | .error cause => .reject cause true
  else .reject (.unexpectedTokenKind operatorKinds token) false

def stepOperand (state : State) (negated : Bool) (channel : String) (comparison : Comparison)
    (token : Token) : Step :=
  match operandOf token with
  | .ok operand => .shift (state.endFactor negated (.predicate { channel, comparison, operand }))
  | .error cause => .reject cause true

def stepConnective (state : State) (token : Token) : Step :=
  match token.kind, state.groups with
  | .and, _ => .shift { state with due := .factor false }
  | .or, _ => .shift { state with level := state.level.endTerm, due := .factor false }
  | .closeParen, group :: groups => .shift (state.closeGroup group groups)
  | _, [] => .stop state.level.condition
  | _, _ :: _ => .reject (.unexpectedTokenKind groupEndKinds token) false

/-- What a token does to the state, when `opened` groups had been left open before the start. -/
def step (limit : Option Nat) (opened : Nat) (state : State) (token : Token) : Step :=
  match state.due with
  | .factor negated => state.stepFactor limit opened negated token
  | .operator negated channel => state.stepOperator negated channel token
  | .operand negated channel comparison => state.stepOperand negated channel comparison token
  | .connective => state.stepConnective token

/-- What the state amounts to when there are no more tokens. -/
def finish (state : State) : Except FilterError Condition :=
  match state.due, state.groups with
  | .factor _, _ => .error .expressionIncomplete
  | .operator _ _, _ => .error (.missingTokenAtEnd operatorKinds)
  | .operand _ _ _, _ => .error .missingOperand
  | .connective, [] => .ok state.level.condition
  | .connective, _ :: _ => .error (.missingTokenAtEnd groupEndKinds)

end State

end ChannelFilter.Parser
