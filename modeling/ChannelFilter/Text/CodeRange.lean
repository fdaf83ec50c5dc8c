/-!
# Ranges of code points

A character property that is fixed by a table is given here as a list of closed ranges of code
points. The tables themselves stand in the modules named for their property; this module only
says what it means for a character to lie in one.
-/
namespace ChannelFilter.Text

/-- The code points from `first` to `last`, both included. -/
structure CodeRange where
  first : Nat
  last : Nat
deriving DecidableEq, Repr

def CodeRange.contains (range : CodeRange) (c : Char) : Bool :=
  decide (range.first ≤ c.toNat) && decide (c.toNat ≤ range.last)

def inTable (table : List CodeRange) (c : Char) : Bool :=
  table.any (·.contains c)

theorem CodeRange.contains_iff (range : CodeRange) (c : Char) :
    range.contains c = true ↔ range.first ≤ c.toNat ∧ c.toNat ≤ range.last := by
  simp [CodeRange.contains]

theorem inTable_iff (table : List CodeRange) (c : Char) :
    inTable table c = true ↔ ∃ range ∈ table, range.first ≤ c.toNat ∧ c.toNat ≤ range.last := by
  simp [inTable, CodeRange.contains_iff]

end ChannelFilter.Text
