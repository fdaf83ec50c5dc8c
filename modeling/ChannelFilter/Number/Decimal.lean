/-!
# Decimal numbers and their texts

A decimal number is a sign, a coefficient and a power of ten. It is held exactly, whatever its
length, so that rounding happens in one place only, where a double is made from it.

The reader accepts an optional sign, digits with at most one point and at least one digit, and an
optional exponent part. It gives no meaning to the words for infinity and for the absence of a
number.
-/
namespace ChannelFilter

/-- The number `coefficient * 10 ^ exponent`, negated if `negative`. -/
structure Decimal where
  negative : Bool
  coefficient : Nat
  exponent : Int
deriving DecidableEq, Repr

namespace Decimal

def digitsValue (digits : List Char) : Nat :=
  Nat.ofDigitChars 10 digits 0

def digitCount (n : Nat) : Nat :=
  (Nat.toDigits 10 n).length

/-- Whether an optional sign is a minus, and what follows it. -/
def readSign : List Char → Bool × List Char
  | '-' :: cs => (true, cs)
  | '+' :: cs => (false, cs)
  | cs => (false, cs)

def readNat? (cs : List Char) : Option Nat :=
  if cs ≠ [] ∧ cs.all Char.isDigit then some (digitsValue cs) else none

/-- `n` with the sign that `negative` says. -/
def signed (negative : Bool) (n : Nat) : Int :=
  if negative then -(n : Int) else n

def readInt? (cs : List Char) : Option Int :=
  let (negative, digits) := readSign cs
  (readNat? digits).map (signed negative)

/-- The exponent that an absent or a complete exponent part stands for. -/
def readExponent? : List Char → Option Int
  | [] => some 0
  | c :: cs => if c = 'e' ∨ c = 'E' then readInt? cs else none

/-- The digits behind a point, if there is one, and what follows them. -/
def readFraction : List Char → List Char × List Char
  | '.' :: cs => (cs.takeWhile Char.isDigit, cs.dropWhile Char.isDigit)
  | cs => ([], cs)

/-- The parts of the text of a decimal number. The whole digits stand before the point and the
fraction digits behind it. -/
structure Parts where
  negative : Bool
  whole : List Char
  fraction : List Char
  exponent : Int
deriving DecidableEq, Repr

def Parts.value (parts : Parts) : Decimal :=
  { negative := parts.negative
    coefficient := digitsValue (parts.whole ++ parts.fraction)
    exponent := parts.exponent - parts.fraction.length }

def readParts? (cs : List Char) : Option Parts :=
  let (negative, unsigned) := readSign cs
  let whole := unsigned.takeWhile Char.isDigit
  let (fraction, tail) := readFraction (unsigned.dropWhile Char.isDigit)
  if whole = [] ∧ fraction = [] then none
  else (readExponent? tail).map fun exponent => { negative, whole, fraction, exponent }

def read? (cs : List Char) : Option Decimal :=
  (readParts? cs).map Parts.value

def intText (n : Int) : List Char :=
  if n < 0 then '-' :: Nat.toDigits 10 n.natAbs else Nat.toDigits 10 n.natAbs

/-- The digits of the coefficient without the zeros at its end. -/
def significant (d : Decimal) : List Char :=
  ((Nat.toDigits 10 d.coefficient).reverse.dropWhile (· == '0')).reverse

/-- The power of ten of the leading digit. -/
def magnitude (d : Decimal) : Int :=
  d.exponent + digitCount d.coefficient - 1

/-- The least power of ten of a leading digit that is written without an exponent part. -/
def leastPlain : Int := -5

/-- The greatest power of ten of a leading digit that is written without an exponent part. -/
def greatestPlain : Int := 15

/-- `['0']` for no digits, so that a point is always followed by one. -/
def orZero (digits : List Char) : List Char :=
  if digits = [] then ['0'] else digits

def plainText (d : Decimal) : List Char :=
  if 0 ≤ d.magnitude then
    let whole := d.magnitude.toNat + 1
    (d.significant.take whole).rightpad whole '0' ++ '.' :: orZero (d.significant.drop whole)
  else
    '0' :: '.' :: List.replicate (-d.magnitude - 1).toNat '0' ++ d.significant

def exponentText (d : Decimal) : List Char :=
  let sign := if d.magnitude < 0 then '-' else '+'
  let fraction := d.significant.drop 1
  d.significant.take 1 ++ (if fraction = [] then [] else '.' :: fraction) ++
    'e' :: sign :: Nat.toDigits 10 d.magnitude.natAbs

/-- The text of the number, which shows by a point or an exponent part that it is no integer
literal. -/
def text (d : Decimal) : List Char :=
  let unsigned :=
    if leastPlain ≤ d.magnitude ∧ d.magnitude ≤ greatestPlain then d.plainText else d.exponentText
  if d.negative then '-' :: unsigned else unsigned

end Decimal

end ChannelFilter
