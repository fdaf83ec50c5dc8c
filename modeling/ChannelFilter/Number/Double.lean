import ChannelFilter.Number.Decimal

/-!
# Finite double-precision numbers

A double is a sign and a whole number of the smallest steps, `2 ^ 1074` of which make one. The
number of steps is a mantissa below `2 ^ 53` times a power of two, and only the steps of the
smallest scale may have a mantissa below `2 ^ 52`, so each double has one representation. A zero
has a sign.

A decimal number is rounded to the nearest double, and a tie goes to the even mantissa. A number
that rounds beyond the greatest double has none. Before any power is formed the position of the
leading digit is compared with the range of doubles, so an exponent of any size is harmless.
-/
namespace ChannelFilter

-- Powers are the built-in ones, whatever else is imported, which takes a literal exponent of a
-- known type.
attribute [local instance (high)] instPowNat

/-- The finite double `mantissa * 2 ^ scale / 2 ^ 1074`, negated if `negative`. -/
structure Double where
  negative : Bool
  mantissa : Nat
  scale : Nat
  mantissa_lt : mantissa < 2 ^ (53 : Nat)
  normal : scale = 0 ∨ 2 ^ (52 : Nat) ≤ mantissa
  scale_le : scale ≤ 2045
deriving DecidableEq, Repr

namespace Double

/-- How many of the smallest steps make one. -/
def stepsPerUnit : Nat := 2 ^ (1074 : Nat)

def zero (negative : Bool) : Double :=
  { negative, mantissa := 0, scale := 0, mantissa_lt := by decide, normal := .inl rfl,
    scale_le := by decide }

/-- The double with these parts, if there is one. -/
def ofParts? (negative : Bool) (mantissa scale : Nat) : Option Double :=
  if h : mantissa < 2 ^ (53 : Nat) ∧ (scale = 0 ∨ 2 ^ (52 : Nat) ≤ mantissa) ∧ scale ≤ 2045 then
    some { negative, mantissa, scale, mantissa_lt := h.1, normal := h.2.1, scale_le := h.2.2 }
  else none

/-- The number of smallest steps from zero. -/
def steps (x : Double) : Nat :=
  x.mantissa * 2 ^ x.scale

/-- The whole number nearest to `num / den`, the even one of two that are equally near. -/
def roundToEven (num den : Nat) : Nat :=
  let lower := num / den
  let rest := num % den
  if 2 * rest < den then lower
  else if den < 2 * rest then lower + 1
  else if lower % 2 = 0 then lower
  else lower + 1

/-- The double nearest to `num / den` of the smallest steps. The scale is the least one whose
mantissa has no more than 53 bits; a mantissa that rounds up to `2 ^ 53` moves to the next. -/
def nearest? (negative : Bool) (num den : Nat) : Option Double :=
  let scale := Nat.log2 (num / den) - 52
  let mantissa := roundToEven num (den * 2 ^ scale)
  if mantissa < 2 ^ (53 : Nat) then ofParts? negative mantissa scale
  else ofParts? negative (2 ^ (52 : Nat)) (scale + 1)

/-- No decimal number whose leading digit stands for a greater power of ten has a double. -/
def greatestMagnitude : Int := 309

/-- Every decimal number whose leading digit stands for a lesser power of ten rounds to zero. -/
def leastMagnitude : Int := -330

/-- The double nearest to a decimal number, or `none` beyond the greatest double. -/
def ofDecimal? (d : Decimal) : Option Double :=
  if d.coefficient = 0 then some (zero d.negative)
  else if greatestMagnitude < d.magnitude then none
  else if d.magnitude < leastMagnitude then some (zero d.negative)
  else
    nearest? d.negative (d.coefficient * 10 ^ d.exponent.toNat * stepsPerUnit)
      (10 ^ (-d.exponent).toNat)

def integer? (x : Double) : Option Int :=
  if x.steps % stepsPerUnit = 0 then some (Decimal.signed x.negative (x.steps / stepsPerUnit))
  else none

end Double

end ChannelFilter
