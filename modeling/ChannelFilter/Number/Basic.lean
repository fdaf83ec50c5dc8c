import ChannelFilter.Number.Shortest
import ChannelFilter.Text.Blank

/-!
# Numbers of a filter

A number is an integer that fits a 64-bit word, signed or unsigned, or a finite double. The two
are kept apart: an integer is written with digits only, a double always with a point or an
exponent part, so the text of a number says which it is.

A number in a filter expression prefers to be an integer: a double that is equal to an integer
below `2 ^ 53` becomes that integer, so `1`, `1.0` and `10e-1` are one number. A number literal of
a document is taken as it is spelled.
-/
namespace ChannelFilter

-- Powers are the built-in ones, whatever else is imported, which takes a literal exponent of a
-- known type.
attribute [local instance (high)] instPowNat

/-- Whether an integer fits a signed or an unsigned word. -/
def FitsWord (n : Int) : Prop :=
  -2 ^ (63 : Nat) ≤ n ∧ n < 2 ^ (64 : Nat)
deriving Decidable

/-- An integer of a word, or a finite double. -/
inductive Number
  | integer (value : Int) (fits : FitsWord value)
  | double (value : Double)
deriving DecidableEq

namespace Number

def ofInt? (n : Int) : Option Number :=
  if h : FitsWord n then some (.integer n h) else none

def ofSigned? (n : Int) : Option Number :=
  if n < 2 ^ (63 : Nat) then ofInt? n else none

/-- The magnitude from which on not every integer is a double. -/
def exactLimit : Nat := 2 ^ (53 : Nat)

/-- The number for a double: an integer if it is equal to one below `exactLimit`. -/
def ofDouble (x : Double) : Number :=
  match x.integer? with
  | some n => if n.natAbs < exactLimit then (ofInt? n).getD (.double x) else .double x
  | none => .double x

def readDouble? (cs : List Char) : Option Double :=
  (Decimal.read? cs).bind Double.ofDecimal?

/-- The number that a text in a filter expression stands for, blanks around it left aside. -/
def read? (text : String) : Option Number :=
  let cs := Text.strip Text.isBlank text.toList
  ((Decimal.readInt? cs).bind ofSigned?).or ((readDouble? cs).map ofDouble)

/-- The integer that a literal of a document stands for. It has neither point nor exponent part and
fits a word, and it is not the negative zero, which is a double. -/
def integerLiteral? (cs : List Char) : Option Number :=
  if cs = ['-', '0'] then none else (Decimal.readInt? cs).bind ofInt?

def ofLiteral? (cs : List Char) : Option Number :=
  (integerLiteral? cs).or ((readDouble? cs).map .double)

def chars : Number → List Char
  | .integer n _ => Decimal.intText n
  | .double x => x.shortest.text

def text (n : Number) : String :=
  String.ofList n.chars

end Number

end ChannelFilter
