import ChannelFilter.Cursor
import ChannelFilter.Parser.State

/-!
# Parsing a list of tokens

`run` feeds tokens to the machine until it stops, rejects a token or runs out of them. A parser is
a cursor together with the number of groups that are open. Both are kept from one call to the
next, also after a failure, so a parser that failed inside a group goes on behind the token where
it failed with that group still counted.

A lenient call leaves whatever follows a complete condition alone; a strict call refuses it.
-/
namespace ChannelFilter

namespace Parser

/-- What a run ends with: the condition or the cause of failure, the number of tokens taken, and
the number of groups open at the end. -/
structure Outcome where
  result : Except FilterError Condition
  taken : Nat
  opened : Nat

/-- The outcome when one more token had been taken before. -/
def Outcome.afterToken (outcome : Outcome) : Outcome :=
  { outcome with taken := outcome.taken + 1 }

/-- Feeds the tokens to the machine. -/
def run (limit : Option Nat) (opened : Nat) : State → List Token → Outcome
  | state, [] => { result := state.finish, taken := 0, opened := opened + state.groups.length }
  | state, token :: tokens =>
    match state.step limit opened token with
    | .shift next => (run limit opened next tokens).afterToken
    | .stop condition =>
      { result := .ok condition, taken := 0, opened := opened + state.groups.length }
    | .reject cause taken =>
      { result := .error cause, taken := taken.toNat, opened := opened + state.groups.length }

/-- How many groups may be open at once. -/
def maxNesting : Nat := 128

end Parser

/-- A position in a list of tokens and the number of groups that are open there. -/
structure Parser where
  cursor : Cursor
  opened : Nat
deriving DecidableEq, Repr

namespace Parser

def ofTokens (tokens : List Token) : Parser :=
  { cursor := .start tokens, opened := 0 }

def remaining (parser : Parser) : List Token :=
  parser.cursor.remaining

/-- Reads one condition under the given limit of open groups. -/
def parseWithin (limit : Option Nat) (parser : Parser) : Except FilterError Condition × Parser :=
  let outcome := run limit parser.opened .start parser.remaining
  (outcome.result, { cursor := parser.cursor.skip outcome.taken, opened := outcome.opened })

/-- Reads one condition and leaves alone what follows it. -/
def parse (parser : Parser) : Except FilterError Condition × Parser :=
  parser.parseWithin (some maxNesting)

/-- The condition, unless tokens follow it. -/
def refuseTrailing (condition : Condition) : List Token → Except FilterError Condition
  | [] => .ok condition
  | token :: _ => .error (.trailingToken token.value)

/-- Reads one condition and refuses any token behind it. -/
def parseComplete (parser : Parser) : Except FilterError Condition × Parser :=
  match parser.parse with
  | (.ok condition, next) => (refuseTrailing condition next.remaining, next)
  | (.error cause, next) => (.error cause, next)

end Parser

/-- The condition at the front of the tokens. -/
def Condition.ofTokens (tokens : List Token) : Except FilterError Condition :=
  (Parser.ofTokens tokens).parse.1

/-- The condition that all the tokens together are. -/
def Condition.ofAllTokens (tokens : List Token) : Except FilterError Condition :=
  (Parser.ofTokens tokens).parseComplete.1

end ChannelFilter
