import ChannelFilter.Number.Basic

/-!
# Document values

The values that are written as documents: filters, tokens, field mappings and the operator
catalog. An object is the list of its fields in the order in which they are written.
-/
namespace ChannelFilter

-- Powers are the built-in ones, whatever else is imported, which takes a literal exponent of a
-- known type.
attribute [local instance (high)] instPowNat

inductive Json
  | null
  | bool (value : Bool)
  | number (value : Number)
  | string (text : String)
  | array (items : List Json)
  | object (fields : List (String × Json))

namespace Json

/-- What holds of a value as soon as it holds of its items and fields holds of all values. -/
@[elab_as_elim, induction_eliminator]
theorem induction {P : Json → Prop} (null : P .null) (bool : ∀ value, P (.bool value))
    (number : ∀ value, P (.number value)) (string : ∀ text, P (.string text))
    (array : ∀ items, (∀ item ∈ items, P item) → P (.array items))
    (object : ∀ fields, (∀ field ∈ fields, P field.2) → P (.object fields)) (value : Json) :
    P value :=
  @Json.rec P (fun items => ∀ item ∈ items, P item) (fun fields => ∀ field ∈ fields, P field.2)
    (fun field => P field.2) null bool number string array object (by simp)
    (fun _ _ first rest => List.forall_mem_cons.2 ⟨first, rest⟩) (by simp)
    (fun _ _ first rest => List.forall_mem_cons.2 ⟨first, rest⟩) (fun _ _ value => value) value

def single (key : String) (value : Json) : Json :=
  .object [(key, value)]

/-- A natural number below `2 ^ 64`; a greater one is taken modulo `2 ^ 64`. -/
def ofNat (n : Nat) : Json :=
  .number (.integer (n % 2 ^ (64 : Nat) : Nat) (by unfold FitsWord; omega))

end Json

end ChannelFilter
