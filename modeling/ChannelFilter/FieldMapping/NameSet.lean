/-!
# Sets of names

A finite set of names, held as the list of its members in strictly increasing order by code
points. A set thus has one representation, and listing it shows the order in which it is written.
-/
namespace ChannelFilter

/-- A finite set of names. -/
structure NameSet where
  names : List String
  increasing : names.Pairwise (· < ·)
deriving DecidableEq

namespace NameSet

/-- An increasing list with one more name in its place, unless it is there already. -/
def insertName (name : String) : List String → List String
  | [] => [name]
  | other :: names =>
    if name < other then name :: other :: names
    else if name = other then other :: names
    else other :: insertName name names

theorem mem_insertName {name x : String} {names : List String} :
    x ∈ insertName name names ↔ x = name ∨ x ∈ names := by
  induction names with
  | nil => simp [insertName]
  | cons other names ih =>
    unfold insertName
    split
    · simp
    · split
      · next h => simp [h]
      · simp only [List.mem_cons, ih]
        constructor <;> rintro (h | h | h) <;> simp [h]

theorem lt_of_not_lt_of_ne {a b : String} (h : ¬a < b) (hne : a ≠ b) : b < a :=
  Decidable.byContradiction fun h' => hne (String.le_antisymm h' h)

theorem pairwise_insertName {name : String} {names : List String}
    (h : names.Pairwise (· < ·)) : (insertName name names).Pairwise (· < ·) := by
  induction names with
  | nil => simp [insertName]
  | cons other names ih =>
    have ⟨head, tail⟩ := List.pairwise_cons.1 h
    unfold insertName
    split
    · next hlt =>
      refine List.pairwise_cons.2 ⟨fun x hx => ?_, h⟩
      rcases List.mem_cons.1 hx with rfl | hx
      · exact hlt
      · exact String.lt_trans hlt (head x hx)
    · next hlt =>
      split
      · exact h
      · next hne =>
        refine List.pairwise_cons.2 ⟨fun x hx => ?_, ih tail⟩
        rcases mem_insertName.1 hx with rfl | hx
        · exact lt_of_not_lt_of_ne hlt hne
        · exact head x hx

def empty : NameSet := { names := [], increasing := .nil }

def insert (set : NameSet) (name : String) : NameSet :=
  { names := insertName name set.names, increasing := pairwise_insertName set.increasing }

def ofList (names : List String) : NameSet :=
  names.foldl insert empty

def contains (set : NameSet) (name : String) : Bool :=
  set.names.contains name

theorem contains_iff {set : NameSet} {name : String} :
    set.contains name = true ↔ name ∈ set.names :=
  List.contains_iff_mem

theorem mem_names_foldl {set : NameSet} {names : List String} {x : String} :
    x ∈ (names.foldl insert set).names ↔ x ∈ set.names ∨ x ∈ names := by
  induction names generalizing set with
  | nil => simp
  | cons name names ih =>
    have first : x ∈ (set.insert name).names ↔ x = name ∨ x ∈ set.names := mem_insertName
    rw [List.foldl_cons, ih, first, List.mem_cons, or_comm (a := x = name), or_assoc]

/-- The set of the listed names has them as its members, however often each is listed. -/
theorem contains_ofList {names : List String} {name : String} :
    (ofList names).contains name = true ↔ name ∈ names := by
  rw [contains_iff, ofList, mem_names_foldl]
  simp [empty]

end NameSet

end ChannelFilter
