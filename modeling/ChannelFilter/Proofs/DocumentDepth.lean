import ChannelFilter.Document
import ChannelFilter.Proofs.ConditionPrinting

/-!
# How deep conditions and their documents are

Only an open group counts towards the nesting limit, but a condition also grows by its lists and
negations. Between one group and the next there is at most a disjunction, a conjunction and a
negation. What is read under the limit is therefore of bounded height, however many tokens there
are, and so is its document, in which a list stands for an object with an array in it.

Height and document depth differ in what a node counts and in nothing else. Both are bounded at
once, by induction on the level of nesting, and both bounds are attained by the same condition: one
that takes each of the three steps between any two groups.
-/
namespace ChannelFilter

namespace Condition

mutual

/-- The greatest count of the nodes from the root of a condition to one of its predicates, where
nodes of the three forms count as given. -/
def extent (list negation leaf : Nat) : Condition → Nat
  | .anyOf terms => list + extents list negation leaf terms
  | .allOf factors => list + extents list negation leaf factors
  | .negation c => negation + extent list negation leaf c
  | .predicate _ => leaf

def extents (list negation leaf : Nat) : List Condition → Nat
  | [] => 0
  | c :: cs => max (extent list negation leaf c) (extents list negation leaf cs)

end

/-- The height of a condition: each node counts one more than the highest of its parts. -/
def height : Condition → Nat :=
  extent 1 1 1

end Condition

namespace Json

mutual

/-- How many arrays and objects of a value stand inside one another. -/
def nesting : Json → Nat
  | .array items => 1 + itemNesting items
  | .object fields => 1 + fieldNesting fields
  | .null | .bool _ | .number _ | .string _ => 0

def itemNesting : List Json → Nat
  | [] => 0
  | item :: items => max (nesting item) (itemNesting items)

def fieldNesting : List (String × Json) → Nat
  | [] => 0
  | (_, value) :: fields => max (nesting value) (fieldNesting fields)

end

@[simp] theorem nesting_single (key : String) (value : Json) :
    (single key value).nesting = 1 + value.nesting := by
  simp [single, nesting, fieldNesting]

end Json

theorem Operand.nesting_document (mapping : FieldMapping) (operand : Operand) :
    (operand.document mapping).nesting = 0 := by
  cases operand <;> simp [document, Json.nesting]

theorem Predicate.nesting_document (mapping : FieldMapping) (p : Predicate) :
    (p.document mapping).nesting = 2 := by
  simp [document, Operand.nesting_document]

namespace Condition

variable {Leaf : Predicate → Prop} {mapping : FieldMapping} {cs : List Condition} {c : Condition}

theorem length_documents (mapping : FieldMapping) (cs : List Condition) :
    (documents mapping cs).length = cs.length := by
  induction cs with
  | nil => rfl
  | cons c cs ih => simp only [documents, List.length_cons, ih]

theorem nesting_joined (key : String) {parts : List Json} (two : 2 ≤ parts.length) :
    (joined key parts).nesting = 2 + Json.itemNesting parts := by
  match parts, two with
  | first :: second :: rest, _ =>
      rw [joined, Json.nesting_single, Json.nesting]
      · omega
      · simp

theorem itemNesting_documents
    (h : ∀ c ∈ cs, (c.document mapping).nesting = c.extent 2 1 2) :
    Json.itemNesting (documents mapping cs) = extents 2 1 2 cs := by
  induction cs with
  | nil => rfl
  | cons c cs ih =>
      obtain ⟨first, rest⟩ := List.forall_mem_cons.1 h
      simp only [documents, Json.itemNesting, extents, first, ih rest]

/-- Where every list has two members at least, none of them is left out of the document. -/
theorem Regular.nesting_document (regular : c.Regular Leaf) (mapping : FieldMapping) :
    (c.document mapping).nesting = c.extent 2 1 2 := by
  induction regular with
  | anyOf two _ ih =>
      rw [document, nesting_joined, itemNesting_documents ih, extent]
      rwa [length_documents]
  | allOf two _ ih =>
      rw [document, nesting_joined, itemNesting_documents ih, extent]
      rwa [length_documents]
  | negation _ ih => rw [document, Json.nesting_single, ih, extent]
  | predicate _ => rw [document, Predicate.nesting_document, extent]

end Condition

namespace Grammar
open Condition

variable {list negation leaf depth bound : Nat}
variable {tokens : List Token} {c : Condition} {cs : List Condition}

theorem extents_le_of_derivesSeries {separator : Token.Kind}
    {Part : List Token → Condition → Prop}
    (part : ∀ tokens c, Part tokens c → c.extent list negation leaf ≤ bound)
    (h : DerivesSeries separator Part tokens cs) : extents list negation leaf cs ≤ bound := by
  induction h with
  | one first =>
      have atMost := part _ _ first
      simp only [extents]
      omega
  | more first _ _ ih =>
      have atMost := part _ _ first
      simp only [extents]
      omega

section Level
variable {Inner : List Token → Condition → Prop}
variable (least : leaf ≤ bound)
variable (inside : ∀ tokens c, Inner tokens c → c.extent list negation leaf ≤ bound)
include least inside

theorem extent_le_of_derivesFactor (h : DerivesFactor Inner tokens c) :
    c.extent list negation leaf ≤ negation + bound := by
  have primary : ∀ tokens c, DerivesPrimary Inner tokens c →
      c.extent list negation leaf ≤ bound := by
    intro tokens c h
    cases h with
    | predicate derives => simpa only [extent] using least
    | group _ inner _ => exact inside _ _ inner
  cases h with
  | plain plain =>
      have atMost := primary _ _ plain
      omega
  | negation _ negated =>
      have atMost := primary _ _ negated
      simp only [extent]
      omega

theorem extent_le_of_derivesTerm (h : DerivesTerm Inner tokens c) :
    c.extent list negation leaf ≤ list + negation + bound := by
  have factor : ∀ tokens c, DerivesFactor Inner tokens c →
      c.extent list negation leaf ≤ negation + bound :=
    fun tokens c => extent_le_of_derivesFactor least inside
  cases h with
  | single series =>
      have atMost := factor _ _ series.part
      omega
  | several series _ =>
      have atMost := extents_le_of_derivesSeries factor series
      simp only [extent]
      omega

end Level

/-- At every level of nesting there are at most two lists and a negation. -/
theorem extent_le_of_derivesCondition (h : DerivesCondition depth tokens c)
    (level : depth ≤ Parser.maxNesting) :
    c.extent list negation leaf ≤
      (2 * list + negation) * (Parser.maxNesting + 1 - depth) + leaf := by
  induction depth using DerivesCondition.induct generalizing tokens c with
  | case1 depth ih =>
      obtain ⟨left, inner⟩ : ∃ left, Parser.maxNesting - depth = left := ⟨_, rfl⟩
      have here : Parser.maxNesting + 1 - depth = left + 1 := by omega
      have step : (2 * list + negation) * (left + 1) =
          (2 * list + negation) * left + (2 * list + negation) := Nat.mul_succ _ _
      have inside : ∀ tokens c, DerivesInside depth tokens c →
          c.extent list negation leaf ≤ (2 * list + negation) * left + leaf := by
        intro tokens c derives
        have atMost := ih derives.1 derives.2 derives.1
        rwa [Nat.add_sub_add_right, inner] at atMost
      have term : ∀ tokens c, DerivesTerm (DerivesInside depth) tokens c →
          c.extent list negation leaf ≤
            list + negation + ((2 * list + negation) * left + leaf) :=
        fun tokens c => extent_le_of_derivesTerm (Nat.le_add_left leaf _) inside
      rw [here, step]
      rw [derivesCondition_eq] at h
      cases h with
      | single series =>
          have atMost := term _ _ series.part
          omega
      | several series _ =>
          have atMost := extents_le_of_derivesSeries term series
          simp only [extent]
          omega

end Grammar

namespace Condition

/-- A predicate that is written without a value. -/
def isNull : Condition :=
  .predicate { channel := "channel", comparison := .eq, operand := .null }

/-- A condition under a negation, a conjunction and a disjunction. -/
def layer (c : Condition) : Condition :=
  .anyOf [.allOf [.negation c, isNull], isNull]

/-- A condition that takes as many groups inside one another as given. -/
def tower : Nat → Condition
  | 0 => layer isNull
  | groups + 1 => layer (tower groups)

theorem regular_isNull : isNull.Regular Predicate.Writable := by
  refine .predicate ⟨⟨fun _ => .inl rfl, ?_⟩, ?_⟩ <;> simp

theorem regular_layer {c : Condition} (regular : c.Regular Predicate.Writable) :
    (layer c).Regular Predicate.Writable := by
  refine .anyOf (by simp)
    (List.forall_mem_cons.2 ⟨?_, List.forall_mem_singleton.2 regular_isNull⟩)
  exact .allOf (by simp)
    (List.forall_mem_cons.2 ⟨.negation regular, List.forall_mem_singleton.2 regular_isNull⟩)

theorem regular_tower (groups : Nat) : (tower groups).Regular Predicate.Writable := by
  induction groups with
  | zero => exact regular_layer regular_isNull
  | succ groups ih => exact regular_layer ih

theorem need_layer (c : Condition) : (layer c).need = Position.negated.cost c + c.need := by
  simp [layer, isNull, need, partNeed]

theorem need_tower (groups : Nat) : (tower groups).need = groups := by
  induction groups with
  | zero => rfl
  | succ groups ih =>
      have enclosed : Position.negated.cost (tower groups) = 1 := by cases groups <;> rfl
      rw [tower, need_layer, enclosed, ih, Nat.add_comm]

theorem extent_layer {list negation leaf : Nat} {c : Condition}
    (least : leaf ≤ c.extent list negation leaf) :
    (layer c).extent list negation leaf =
      2 * list + negation + c.extent list negation leaf := by
  simp only [layer, isNull, extent, extents]
  omega

theorem extent_tower (list negation leaf groups : Nat) :
    (tower groups).extent list negation leaf =
      (2 * list + negation) * (groups + 1) + leaf := by
  induction groups with
  | zero => rw [tower, extent_layer (Nat.le_refl leaf), isNull, extent, Nat.zero_add, Nat.mul_one]
  | succ groups ih =>
      have least : leaf ≤ (tower groups).extent list negation leaf := by
        rw [ih]
        exact Nat.le_add_left _ _
      rw [tower, extent_layer least, ih, Nat.mul_succ _ (groups + 1)]
      omega

end Condition

namespace Parser
open Grammar

variable {opened : Nat} {tokens : List Token} {c : Condition}

theorem exists_derives_of_parse {parser : Parser} (h : parser.parse.1 = .ok c) :
    ∃ front, DerivesCondition parser.opened front c := by
  obtain ⟨front, t, rest, -, shifts, done, -⟩ := exists_finish_of_run h
  exact ⟨front, exists_shifts_iff.1 ⟨t, shifts, done⟩⟩

theorem parse_of_derives (h : DerivesCondition opened tokens c) :
    (parse { cursor := .start tokens, opened }).1 = .ok c := by
  obtain ⟨t, shifts, done⟩ := exists_shifts_iff.2 h
  have nothing : ∀ token ∈ ([] : List Token).head?, token.kind ≠ .and ∧ token.kind ≠ .or := by simp
  have ends := run_of_finish shifts done nothing
  rw [List.append_nil] at ends
  exact congrArg Outcome.result ends

/-- Where some groups are open already, a condition that is read is at most as high, and its
document nested at most as deep, as the remaining groups allow, however many tokens there are. Some
tokens attain both bounds. -/
theorem depth_bounded_and_attained (opened : Nat) (admitted : opened ≤ maxNesting) :
    (∀ (tokens : List Token) (c : Condition),
      (parse { cursor := .start tokens, opened }).1 = .ok c →
        c.height ≤ 3 * (maxNesting + 1 - opened) + 1 ∧
          ∀ mapping, (c.document mapping).nesting ≤ 5 * (maxNesting + 1 - opened) + 2) ∧
    ∃ (tokens : List Token) (c : Condition),
      (parse { cursor := .start tokens, opened }).1 = .ok c ∧
        c.height = 3 * (maxNesting + 1 - opened) + 1 ∧
          ∀ mapping, (c.document mapping).nesting = 5 * (maxNesting + 1 - opened) + 2 := by
  constructor
  · intro tokens c read
    obtain ⟨front, derives⟩ := exists_derives_of_parse read
    have regular := (keeps_of_derivesCondition derives admitted).1
    refine ⟨extent_le_of_derivesCondition derives admitted, ?_⟩
    intro mapping
    rw [regular.nesting_document]
    exact extent_le_of_derivesCondition derives admitted
  · obtain ⟨groups, count⟩ : ∃ groups, groups = maxNesting - opened := ⟨_, rfl⟩
    have levels : maxNesting + 1 - opened = groups + 1 := by omega
    have regular := Condition.regular_tower groups
    have fits : (Condition.tower groups).need + opened ≤ maxNesting := by
      rw [Condition.need_tower]
      omega
    refine ⟨(Condition.tower groups).tokens, Condition.tower groups,
      parse_of_derives ((derivable_of_regular regular).alone opened fits), ?_, ?_⟩
    · rw [levels]
      exact Condition.extent_tower 1 1 1 groups
    · intro mapping
      rw [levels, regular.nesting_document]
      exact Condition.extent_tower 2 1 2 groups

/-- The bounds for a new parser. -/
theorem depth_bounded_and_attained_new :
    0 ≤ maxNesting ∧
    (∀ (tokens : List Token) (c : Condition), Condition.ofTokens tokens = .ok c →
      c.height ≤ 388 ∧ ∀ mapping, (c.document mapping).nesting ≤ 647) ∧
    ∃ (tokens : List Token) (c : Condition), Condition.ofTokens tokens = .ok c ∧
      c.height = 388 ∧ ∀ mapping, (c.document mapping).nesting = 647 :=
  ⟨Nat.zero_le _, depth_bounded_and_attained 0 (Nat.zero_le _)⟩

end Parser

end ChannelFilter
