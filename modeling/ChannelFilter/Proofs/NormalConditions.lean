import ChannelFilter.Proofs.DocumentMeaning
import ChannelFilter.Proofs.WrittenDocuments

/-!
# Conditions with the same filter

The normal form of a condition under a mapping has paths in the place of channels, a string in the
place of a channel that is an operand, and texts in the place of numbers. A connective over a
single part is that part. Nothing else is changed: empty lists keep their connective, double
negations stay, and so does the order of the parts.

Two conditions have the same filter exactly if they have the same normal form. The tree of the
document can be made from the normal form, and the normal form is found again in that tree, since
no path is mistaken for the key of a connective.
-/
namespace ChannelFilter

/-- What the field of a comparison is compared with. -/
inductive NormalOperand
  | null
  | string (text : String)
  | number (text : String)
deriving DecidableEq

/-- The normal form of a condition. -/
inductive NormalCondition
  | anyOf (terms : List NormalCondition)
  | allOf (factors : List NormalCondition)
  | negation (condition : NormalCondition)
  | predicate (path : String) (comparison : Comparison) (operand : NormalOperand)

def Operand.normal (mapping : FieldMapping) : Operand → NormalOperand
  | .null => .null
  | .channel name => .string (mapping.path name)
  | .string text => .string text
  | .number value => .number value.text

def NormalCondition.joined (node : List NormalCondition → NormalCondition) :
    List NormalCondition → NormalCondition
  | [part] => part
  | parts => node parts

namespace Condition

mutual

def normal (mapping : FieldMapping) : Condition → NormalCondition
  | .anyOf terms => NormalCondition.joined .anyOf (normals mapping terms)
  | .allOf factors => NormalCondition.joined .allOf (normals mapping factors)
  | .negation c => .negation (normal mapping c)
  | .predicate p =>
      .predicate (mapping.path p.channel) p.comparison (p.operand.normal mapping)

def normals (mapping : FieldMapping) : List Condition → List NormalCondition
  | [] => []
  | c :: cs => normal mapping c :: normals mapping cs

end

end Condition

open Json (Source)

variable {mapping : FieldMapping} {cs : List Condition}

def NormalOperand.source : NormalOperand → Source
  | .null => .null
  | .string text => .string (some text)
  | .number text => .number text.toList

namespace NormalCondition

mutual

/-- The tree of the document of a condition with this normal form. -/
def source : NormalCondition → Source
  | .anyOf terms => .object [(some Condition.anyOfKey, .array (sources terms))]
  | .allOf factors => .object [(some Condition.allOfKey, .array (sources factors))]
  | .negation condition => .object [(some Condition.negationKey, source condition)]
  | .predicate path comparison operand =>
      .object [(some path, .object [(some comparison.key, operand.source)])]

def sources : List NormalCondition → List Source
  | [] => []
  | condition :: conditions => source condition :: sources conditions

end

theorem source_operand (mapping : FieldMapping) (operand : Operand) :
    (operand.document mapping).source = (operand.normal mapping).source := by
  cases operand with
  | null => rfl
  | channel name => rfl
  | string text => rfl
  | number value =>
      rw [Operand.document, Json.source, Operand.normal, NormalOperand.source, Number.text,
        String.toList_ofList]

theorem itemSources_documents
    (each : ∀ c ∈ cs, (c.document mapping).source = (c.normal mapping).source) :
    Json.itemSources (Condition.documents mapping cs) = sources (Condition.normals mapping cs) := by
  induction cs with
  | nil => rfl
  | cons c cs ih =>
      obtain ⟨first, others⟩ := List.forall_mem_cons.1 each
      rw [Condition.documents, Json.itemSources, Condition.normals, sources, first, ih others]

theorem source_joined {key : String} {node : List NormalCondition → NormalCondition}
    (written : ∀ parts, (node parts).source = .object [(some key, .array (sources parts))])
    (each : ∀ c ∈ cs, (c.document mapping).source = (c.normal mapping).source) :
    (Condition.joined key (Condition.documents mapping cs)).source =
      (joined node (Condition.normals mapping cs)).source := by
  have items := itemSources_documents each
  -- A single part stands for the connective on both sides.
  rcases cs with _ | ⟨c, _ | ⟨second, others⟩⟩
  · exact (written []).symm
  · exact each c List.mem_cons_self
  · have whole := written (Condition.normals mapping (c :: second :: others))
    rw [← items] at whole
    exact whole.symm

theorem source_document (mapping : FieldMapping) (c : Condition) :
    (c.document mapping).source = (c.normal mapping).source := by
  induction c with
  | anyOf terms ih =>
      rw [Condition.document, Condition.normal]
      exact source_joined (fun _ => rfl) ih
  | allOf factors ih =>
      rw [Condition.document, Condition.normal]
      exact source_joined (fun _ => rfl) ih
  | negation c ih =>
      have tree : (Condition.document mapping (.negation c)).source =
          .object [(some Condition.negationKey, (c.document mapping).source)] := rfl
      rw [tree, ih]
      rfl
  | predicate p =>
      have tree : (Condition.document mapping (.predicate p)).source =
          .object [(some (mapping.path p.channel),
            .object [(some p.comparison.key, (p.operand.document mapping).source)])] := rfl
      rw [tree, source_operand]
      rfl

def operand? : Source → Option NormalOperand
  | .null => some .null
  | .string (some text) => some (.string text)
  | .number literal => some (.number (String.ofList literal))
  | _ => none

def predicate? (path : String) : Source → Option NormalCondition
  | .object [(some key, operand)] =>
      match Comparison.ofKey? key, operand? operand with
      | some comparison, some operand => some (.predicate path comparison operand)
      | _, _ => none
  | _ => none

mutual

/-- The normal form with the given tree. -/
def ofSource? : Source → Option NormalCondition
  | .object [(some key, value)] =>
      if key = Condition.anyOfKey then (ofArray? value).map .anyOf
      else if key = Condition.allOfKey then (ofArray? value).map .allOf
      else if key = Condition.negationKey then (ofSource? value).map .negation
      else predicate? key value
  | _ => none

def ofArray? : Source → Option (List NormalCondition)
  | .array items => ofSources? items
  | _ => none

def ofSources? : List Source → Option (List NormalCondition)
  | [] => some []
  | item :: items =>
      match ofSource? item, ofSources? items with
      | some condition, some conditions => some (condition :: conditions)
      | _, _ => none

end

theorem operand?_document (mapping : FieldMapping) (operand : Operand) :
    operand? (operand.document mapping).source = some (operand.normal mapping) := by
  cases operand <;> rfl

theorem ofSource?_predicate (mapping : FieldMapping) (p : Predicate) :
    ofSource? (p.document mapping).source = some (Condition.normal mapping (.predicate p)) := by
  have notOr := path_ne_of_dot_notMem (by decide : '.' ∉ Condition.anyOfKey.toList)
    mapping p.channel
  have notAnd := path_ne_of_dot_notMem (by decide : '.' ∉ Condition.allOfKey.toList)
    mapping p.channel
  have notNot := path_ne_of_dot_notMem (by decide : '.' ∉ Condition.negationKey.toList)
    mapping p.channel
  have tree : (p.document mapping).source =
      .object [(some (mapping.path p.channel),
        .object [(some p.comparison.key, (p.operand.document mapping).source)])] := rfl
  rw [tree, ofSource?, if_neg notOr, if_neg notAnd, if_neg notNot, predicate?,
    Comparison.ofKey?_key, operand?_document]
  rfl

theorem ofSources?_documents
    (each : ∀ c ∈ cs, ofSource? (c.document mapping).source = some (c.normal mapping)) :
    ofSources? (Json.itemSources (Condition.documents mapping cs)) =
      some (Condition.normals mapping cs) := by
  induction cs with
  | nil => rfl
  | cons c cs ih =>
      obtain ⟨first, others⟩ := List.forall_mem_cons.1 each
      rw [Condition.documents, Json.itemSources, ofSources?, first, ih others, Condition.normals]

theorem ofSource?_joined {key : String} {node : List NormalCondition → NormalCondition}
    (read : ∀ items, ofSource? (.object [(some key, .array items)]) = (ofSources? items).map node)
    (each : ∀ c ∈ cs, ofSource? (c.document mapping).source = some (c.normal mapping)) :
    ofSource? (Condition.joined key (Condition.documents mapping cs)).source =
      some (joined node (Condition.normals mapping cs)) := by
  have items := ofSources?_documents each
  rcases cs with _ | ⟨c, _ | ⟨second, others⟩⟩
  · exact read []
  · exact each c List.mem_cons_self
  · have whole := read (Json.itemSources (Condition.documents mapping (c :: second :: others)))
    rw [items] at whole
    exact whole

/-- The normal form of a condition is found in the tree of its document. -/
theorem ofSource?_document (mapping : FieldMapping) (c : Condition) :
    ofSource? (c.document mapping).source = some (c.normal mapping) := by
  induction c with
  | anyOf terms ih =>
      rw [Condition.document, Condition.normal]
      refine ofSource?_joined (fun items => ?_) ih
      rw [ofSource?, if_pos rfl, ofArray?]
  | allOf factors ih =>
      rw [Condition.document, Condition.normal]
      refine ofSource?_joined (fun items => ?_) ih
      rw [ofSource?, if_neg (by decide), if_pos rfl, ofArray?]
  | negation c ih =>
      have tree : (Condition.document mapping (.negation c)).source =
          .object [(some Condition.negationKey, (c.document mapping).source)] := rfl
      rw [tree, ofSource?, if_neg (by decide), if_neg (by decide), if_pos rfl, ih, Condition.normal]
      rfl
  | predicate p => exact ofSource?_predicate mapping p

end NormalCondition

/-- The text of a value is determined by the tree of the value, and determines it. -/
theorem Json.compact_eq_iff (v w : Json) : v.compact = w.compact ↔ v.source = w.source := by
  constructor
  · intro same
    have left := Source.read?_of_layout v.layout_compact
    have right := Source.read?_of_layout w.layout_compact
    rw [same] at left
    exact Option.some.inj (left.symm.trans right)
  · intro same
    have elements : v.lexemes = w.lexemes := by
      rw [← lexemes_source v, same, lexemes_source w]
    rw [Json.compact, Json.chars, elements, Json.compact, Json.chars]

/-- Two conditions have the same filter under a mapping if and only if they have the same normal
form under it. -/
theorem Condition.render_eq_iff_normal_eq (mapping : FieldMapping) (c₁ c₂ : Condition) :
    c₁.render mapping = c₂.render mapping ↔ c₁.normal mapping = c₂.normal mapping := by
  have texts := Json.compact_eq_iff (c₁.document mapping) (c₂.document mapping)
  constructor
  · intro same
    have trees := texts.1 same
    have first := NormalCondition.ofSource?_document mapping c₁
    have second := NormalCondition.ofSource?_document mapping c₂
    rw [trees] at first
    exact Option.some.inj (first.symm.trans second)
  · intro same
    apply texts.2
    calc (c₁.document mapping).source
        = (c₁.normal mapping).source := NormalCondition.source_document mapping c₁
      _ = (c₂.normal mapping).source := by rw [same]
      _ = (c₂.document mapping).source := (NormalCondition.source_document mapping c₂).symm

/-- A connective over a single part leaves no trace in the filter, inside another one as well. -/
example (mapping : FieldMapping) (p : Predicate) :
    Condition.render mapping (.anyOf [.allOf [.predicate p]]) =
      Condition.render mapping (.predicate p) := rfl

end ChannelFilter
