import ChannelFilter.Catalog

/-!
# Conditions

A condition is what a filter expression says about a record: comparisons of channels, joined by
"and", "or" and "not". Parentheses leave no trace in it beyond the shape of the tree. Conditions
that are read from tokens have at least two parts under each "and" and "or", but the type admits
any number of them.
-/
namespace ChannelFilter

/-- What a channel is compared with. -/
inductive Operand
  | null
  | channel (name : String)
  | string (text : String)
  | number (value : Number)
deriving DecidableEq

structure Predicate where
  channel : String
  comparison : Comparison
  operand : Operand
deriving DecidableEq

inductive Condition
  | anyOf (terms : List Condition)
  | allOf (factors : List Condition)
  | negation (condition : Condition)
  | predicate (predicate : Predicate)

namespace Condition

/-- What holds of a condition as soon as it holds of its parts holds of all conditions. -/
@[elab_as_elim, induction_eliminator]
theorem induction {P : Condition → Prop}
    (anyOf : ∀ terms, (∀ c ∈ terms, P c) → P (.anyOf terms))
    (allOf : ∀ factors, (∀ c ∈ factors, P c) → P (.allOf factors))
    (negation : ∀ c, P c → P (.negation c)) (predicate : ∀ p, P (.predicate p)) (c : Condition) :
    P c :=
  @Condition.rec P (fun cs => ∀ c ∈ cs, P c) anyOf allOf negation predicate (by simp)
    (fun _ _ first rest => List.forall_mem_cons.2 ⟨first, rest⟩) c

/-- The disjunction of the terms; a single term is not wrapped. -/
def disjunction : List Condition → Condition
  | [term] => term
  | terms => .anyOf terms

/-- The conjunction of the factors; a single factor is not wrapped. -/
def conjunction : List Condition → Condition
  | [factor] => factor
  | factors => .allOf factors

def negatedIf (negated : Bool) (condition : Condition) : Condition :=
  if negated then .negation condition else condition

end Condition

end ChannelFilter
