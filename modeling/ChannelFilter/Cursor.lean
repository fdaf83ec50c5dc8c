import ChannelFilter.FilterError

/-!
# A position in a list of tokens

A cursor walks a list of tokens from the front and never goes back. Looking ahead takes an offset
that is a machine word, and the index it looks at is the sum of the position and that offset, which
has to be a word as well. Where it is none, the operation does not return.
-/
namespace ChannelFilter

/-- Why an operation does not return. -/
inductive Abort
  /-- The sum of two words is no word. -/
  | overflow
deriving DecidableEq, Repr

/-- A list of tokens and how many of them have been taken. -/
structure Cursor where
  tokens : List Token
  position : Nat
deriving DecidableEq, Repr

namespace Cursor

def start (tokens : List Token) : Cursor :=
  { tokens, position := 0 }

/-- The index that is `offset` ahead of the position. -/
def ahead (cursor : Cursor) (offset : UInt64) : Except Abort Nat :=
  let index := cursor.position + offset.toNat
  if index < UInt64.size then .ok index else .error .overflow

/-- The token that is `offset` ahead. -/
def peek (cursor : Cursor) (offset : UInt64) : Except Abort (Option Token) :=
  (cursor.ahead offset).map (cursor.tokens[·]?)

/-- The token that comes next. -/
def current? (cursor : Cursor) : Option Token :=
  cursor.tokens[cursor.position]?

def skip (cursor : Cursor) (count : Nat) : Cursor :=
  { cursor with position := cursor.position + count }

/-- Takes the next token. At the end there is none, and the cursor stays. -/
def consume (cursor : Cursor) : Option Token × Cursor :=
  match cursor.current? with
  | some token => (some token, cursor.skip 1)
  | none => (none, cursor)

/-- Takes the next token if it is of one of the given kinds. Otherwise the cursor stays. -/
def expect (cursor : Cursor) (kinds : List Token.Kind) : Except FilterError Token × Cursor :=
  match cursor.current? with
  | none => (.error (.missingTokenAtEnd kinds), cursor)
  | some token =>
    if token.kind ∈ kinds then (.ok token, cursor.skip 1)
    else (.error (.unexpectedTokenKind kinds token), cursor)

def check (cursor : Cursor) (kind : Token.Kind) : Bool :=
  cursor.current?.any (·.kind == kind)

def isAtEnd (cursor : Cursor) : Bool :=
  decide (cursor.tokens.length ≤ cursor.position)

/-- The tokens that have not been taken. -/
def remaining (cursor : Cursor) : List Token :=
  cursor.tokens.drop cursor.position

end Cursor

end ChannelFilter
