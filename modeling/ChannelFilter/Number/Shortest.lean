import ChannelFilter.Number.Double

/-!
# The shortest decimal number of a double

Every double is exactly a decimal number, since `2 ^ 1074` divides `10 ^ 1074`. Most of its digits
are not needed to tell the double from its neighbours. The shortest decimal number of a double has
the fewest digits among those that round to it; of two with equally few the nearer is taken, and
of two that are equally near the one with the even last digit.

For each number of digits it is enough to look at the two neighbours of the exact value on the
grid with that many digits. The search tests them with the rounding function itself, so what it
returns reads back by construction, and it ends with the exact value.
-/
namespace ChannelFilter.Double

-- Powers are the built-in ones, whatever else is imported, which takes a literal exponent of a
-- known type.
attribute [local instance (high)] instPowNat

def exact (x : Double) : Decimal :=
  { negative := x.negative, coefficient := x.steps * 5 ^ (1074 : Nat), exponent := -1074 }

/-- The decimal number with the given coefficient when `dropped` digits of the exact value are
left out. -/
def onGrid (x : Double) (dropped coefficient : Nat) : Decimal :=
  { negative := x.negative, coefficient, exponent := x.exact.exponent + dropped }

def readsBack (x : Double) (d : Decimal) : Bool :=
  ofDecimal? d == some x

/-- The one of two decimal numbers that rounds to the double, and the preferred one if both do. -/
def choose? (x : Double) (preferFirst : Bool) (first second : Decimal) : Option Decimal :=
  match x.readsBack first, x.readsBack second with
  | false, false => none
  | true, false => some first
  | false, true => some second
  | true, true => if preferFirst then some first else some second

/-- The neighbour of the exact value on the grid without its last `dropped` digits that rounds to
the double; the nearer one if both do. -/
def neighbour? (x : Double) (dropped : Nat) : Option Decimal :=
  let unit := 10 ^ dropped
  let lower := x.exact.coefficient / unit
  x.choose? (Double.roundToEven x.exact.coefficient unit == lower)
    (x.onGrid dropped lower) (x.onGrid dropped (lower + 1))

/-- The first neighbour that rounds to the double when at most `dropped` digits are left out. -/
def shortestFrom (x : Double) : Nat → Decimal
  | 0 => x.exact
  | dropped + 1 => (x.neighbour? (dropped + 1)).getD (shortestFrom x dropped)

def shortest (x : Double) : Decimal :=
  if x.mantissa = 0 then { negative := x.negative, coefficient := 0, exponent := 0 }
  else x.shortestFrom (Decimal.digitCount x.exact.coefficient - 1)

end ChannelFilter.Double
