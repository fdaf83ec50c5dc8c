import ChannelFilter.Document

/-!
# The meaning of filter documents

A valuation says which comparisons hold, given the path of a field, the comparison and the operand.
It gives a truth value to a condition through its tree, and to a document through its keys: `$or`
and `$and` over an array, `$not` over a document, and any other key as the path of a comparison. A
document of another shape has no truth value.

The document of a condition has one, and it is that of the condition. The tree may be any: lists
may be empty or have one member, and negations may be nested. No path is mistaken for one of the
three keys, whatever the mapping and the channel, since a path contains a dot.
-/
namespace ChannelFilter

/-- Which comparisons of the field at a path hold. -/
abbrev Valuation := String → Comparison → Json → Bool

namespace Json

/-- The truth value of an object with a comparison as its only key. -/
def comparisonTruth (V : Valuation) (path : String) : Json → Option Bool
  | .object [("$eq", operand)] => some (V path .eq operand)
  | .object [("$ne", operand)] => some (V path .ne operand)
  | .object [("$lt", operand)] => some (V path .lt operand)
  | .object [("$gt", operand)] => some (V path .gt operand)
  | .object [("$lte", operand)] => some (V path .lte operand)
  | .object [("$gte", operand)] => some (V path .gte operand)
  | _ => none

mutual

/-- The truth value of a document. -/
def truth (V : Valuation) : Json → Option Bool
  | .object [(key, value)] =>
      if key = "$or" then (itemTruths V value).map (·.any id)
      else if key = "$and" then (itemTruths V value).map (·.all id)
      else if key = "$not" then (truth V value).map (!·)
      else comparisonTruth V key value
  | _ => none

def itemTruths (V : Valuation) : Json → Option (List Bool)
  | .array items => truths V items
  | _ => none

/-- The truth values of several documents, each of which has to have one. -/
def truths (V : Valuation) : List Json → Option (List Bool)
  | [] => some []
  | item :: items =>
      match truth V item, truths V items with
      | some value, some values => some (value :: values)
      | _, _ => none

end

end Json

namespace Condition

mutual

/-- The truth value of a condition whose predicates have the given truth values. -/
def truth (leaf : Predicate → Bool) : Condition → Bool
  | .anyOf terms => (truths leaf terms).any id
  | .allOf factors => (truths leaf factors).all id
  | .negation c => !truth leaf c
  | .predicate p => leaf p

def truths (leaf : Predicate → Bool) : List Condition → List Bool
  | [] => []
  | c :: cs => truth leaf c :: truths leaf cs

end

end Condition

/-- The truth value of a predicate under a mapping. A channel on the right stands for the text of
its path. -/
def Predicate.truth (mapping : FieldMapping) (V : Valuation) (p : Predicate) : Bool :=
  V (mapping.path p.channel) p.comparison
    (match p.operand with
    | .null => .null
    | .channel name => .string (mapping.path name)
    | .string text => .string text
    | .number n => .number n)

theorem dot_mem_path (mapping : FieldMapping) (channel : String) :
    '.' ∈ (mapping.path channel).toList := by
  unfold FieldMapping.path
  split
  · simp
  · split <;> simp

theorem path_ne_of_dot_notMem {key : String} (h : '.' ∉ key.toList) (mapping : FieldMapping)
    (channel : String) : mapping.path channel ≠ key := by
  intro same
  rw [← same] at h
  exact h (dot_mem_path mapping channel)

namespace Json
variable {V : Valuation}

theorem truth_path (V : Valuation) (mapping : FieldMapping) (channel : String) (value : Json) :
    truth V (.single (mapping.path channel) value) =
      comparisonTruth V (mapping.path channel) value := by
  have notOr : mapping.path channel ≠ "$or" := path_ne_of_dot_notMem (by decide) mapping channel
  have notAnd : mapping.path channel ≠ "$and" := path_ne_of_dot_notMem (by decide) mapping channel
  have notNot : mapping.path channel ≠ "$not" := path_ne_of_dot_notMem (by decide) mapping channel
  simp only [single, truth, notOr, notAnd, notNot, if_false]

theorem comparisonTruth_key (V : Valuation) (path : String) (comparison : Comparison)
    (operand : Json) :
    comparisonTruth V path (.single comparison.key operand) = some (V path comparison operand) := by
  cases comparison <;> rfl

theorem truth_predicate (V : Valuation) (mapping : FieldMapping) (p : Predicate) :
    truth V (p.document mapping) = some (p.truth mapping V) := by
  rw [Predicate.document, truth_path, comparisonTruth_key]
  cases h : p.operand <;> simp [Predicate.truth, Operand.document, h]

/-- A lone part is its own document, and any other list stands under the key of its connective. A
connective that leaves a single truth value as it is does not tell the two apart. -/
theorem truth_joined {key : String} (combine : List Bool → Bool) {parts : List Json}
    {values : List Bool} (lone : ∀ value, combine [value] = value)
    (node : ∀ items, truth V (.single key (.array items)) = (truths V items).map combine)
    (h : truths V parts = some values) :
    truth V (Condition.joined key parts) = some (combine values) := by
  unfold Condition.joined
  split
  · next part =>
    cases hpart : truth V part with
    | none => simp [truths, hpart] at h
    | some value =>
        simp only [truths, hpart, Option.some.injEq] at h
        rw [← h, lone]
  · rw [node, h]
    rfl

theorem truth_anyOf {parts : List Json} {values : List Bool} (h : truths V parts = some values) :
    truth V (Condition.joined Condition.anyOfKey parts) = some (values.any id) := by
  refine truth_joined (·.any id) (fun value => by simp) (fun items => ?_) h
  simp [single, Condition.anyOfKey, truth, itemTruths]

theorem truth_allOf {parts : List Json} {values : List Bool} (h : truths V parts = some values) :
    truth V (Condition.joined Condition.allOfKey parts) = some (values.all id) := by
  refine truth_joined (·.all id) (fun value => by simp) (fun items => ?_) h
  simp [single, Condition.allOfKey, truth, itemTruths]

theorem truth_negation (V : Valuation) (document : Json) :
    truth V (.single Condition.negationKey document) = (truth V document).map (!·) := by
  simp [single, Condition.negationKey, truth]

end Json

namespace Condition

theorem truths_documents {V : Valuation} {mapping : FieldMapping} {leaf : Predicate → Bool}
    {cs : List Condition} (h : ∀ c ∈ cs, (c.document mapping).truth V = some (c.truth leaf)) :
    Json.truths V (documents mapping cs) = some (truths leaf cs) := by
  induction cs with
  | nil => rfl
  | cons c cs ih =>
      obtain ⟨first, rest⟩ := List.forall_mem_cons.1 h
      simp only [documents, Json.truths, first, ih rest, truths]

/-- Every condition has a document with a truth value, which is its own. -/
theorem truth_document (V : Valuation) (mapping : FieldMapping) (c : Condition) :
    (c.document mapping).truth V = some (c.truth (Predicate.truth mapping V)) := by
  induction c with
  | anyOf terms ih =>
      rw [document, truth]
      exact Json.truth_anyOf (truths_documents ih)
  | allOf factors ih =>
      rw [document, truth]
      exact Json.truth_allOf (truths_documents ih)
  | negation c ih =>
      rw [document, Json.truth_negation, ih, truth]
      rfl
  | predicate p => exact Json.truth_predicate V mapping p

end Condition

end ChannelFilter
