import Mathlib.Data.List.Infix
import ChannelFilter.FieldMapping.Basic

/-!
# The paths of different channels

Two channels may not be stored in the same field, whatever their names hold. Two metadata channels
have different paths, and so have two others. A metadata channel and another one have the same path
only if the metadata field and the field of the other channels, with the dots behind them, start
alike, so a mapping for which they do not keeps all channels apart. The condition cannot be
weakened: for any other mapping there are metadata channels with which two paths are the same,
unless it puts all channels into one field and their values right there.
-/
namespace ChannelFilter.FieldMapping

variable {mapping : FieldMapping} {channel other : String}

/-- Neither the metadata field nor the field of the other channels, each with a dot behind it, is
the start of the other. -/
structure Separate (mapping : FieldMapping) : Prop where
  metadata : ¬(mapping.metadataField ++ ".").toList <+: (mapping.channelField ++ ".").toList
  channels : ¬(mapping.channelField ++ ".").toList <+: (mapping.metadataField ++ ".").toList

/-- What stands behind the name of a channel that is not metadata. -/
def ending (mapping : FieldMapping) : String :=
  if mapping.valueField = "" then "" else "." ++ mapping.valueField

theorem path_of_contains (h : mapping.metadataFields.contains channel = true) :
    mapping.path channel = mapping.metadataField ++ "." ++ channel := by
  rw [path, if_pos h]

theorem path_of_not_contains (h : mapping.metadataFields.contains channel = false) :
    mapping.path channel = mapping.channelField ++ "." ++ (channel ++ mapping.ending) := by
  rw [path, h, if_neg Bool.false_ne_true, ending]
  split
  · rw [String.append_empty]
  · simp only [String.append_assoc]

theorem prefix_of_append_eq {p q r s : String} (h : p ++ r = q ++ s) :
    p.toList <+: q.toList ∨ q.toList <+: p.toList := by
  have chars : p.toList ++ r.toList = q.toList ++ s.toList := by
    rw [← String.toList_append, h, String.toList_append]
  exact List.prefix_or_prefix_of_prefix ⟨r.toList, chars⟩ (List.prefix_append _ _)

/-- Under a separate mapping no metadata channel has the path of another channel. -/
theorem Separate.path_ne (h : mapping.Separate) (name rest : String) :
    mapping.metadataField ++ "." ++ name ≠ mapping.channelField ++ "." ++ rest := by
  intro same
  rcases prefix_of_append_eq same with start | start
  · exact h.metadata start
  · exact h.channels start

theorem Separate.path_injective (h : mapping.Separate)
    (same : mapping.path channel = mapping.path other) : channel = other := by
  cases first : mapping.metadataFields.contains channel with
  | true =>
      rw [path_of_contains first] at same
      cases second : mapping.metadataFields.contains other with
      | true =>
          rw [path_of_contains second] at same
          exact (String.append_right_inj _).1 same
      | false =>
          rw [path_of_not_contains second] at same
          exact absurd same (h.path_ne _ _)
  | false =>
      rw [path_of_not_contains first] at same
      cases second : mapping.metadataFields.contains other with
      | true =>
          rw [path_of_contains second] at same
          exact absurd same.symm (h.path_ne _ _)
      | false =>
          rw [path_of_not_contains second] at same
          exact (String.append_left_inj _).1 ((String.append_right_inj _).1 same)

theorem separate_builtin : builtin.Separate := by
  constructor <;> decide

/-- The built-in mapping and the built-in rule are two tables of the same paths. -/
theorem path_builtin (channel : String) : builtin.path channel = builtinPath channel := by
  have members : builtin.metadataFields.contains channel = true ↔ channel ∈ builtinMetadata :=
    NameSet.contains_ofList
  unfold builtinPath
  split
  · next member => exact path_of_contains (members.2 member)
  · next stranger =>
    have none : builtin.metadataFields.contains channel = false :=
      Bool.eq_false_iff.2 (mt members.1 stranger)
    rw [path_of_not_contains none, String.append_assoc]
    rfl

def withMetadata (mapping : FieldMapping) (channel : String) : FieldMapping :=
  { mapping with metadataFields := .ofList [channel] }

/-- With the one channel as metadata, the two have the same path. -/
theorem path_withMetadata (ne : channel ≠ other)
    (same : mapping.metadataField ++ "." ++ channel =
      mapping.channelField ++ "." ++ (other ++ mapping.ending)) :
    (mapping.withMetadata channel).path channel = (mapping.withMetadata channel).path other := by
  have inside : (mapping.withMetadata channel).metadataFields.contains channel = true :=
    NameSet.contains_ofList.2 List.mem_cons_self
  have outside : (mapping.withMetadata channel).metadataFields.contains other = false := by
    apply Bool.eq_false_iff.2
    intro member
    exact ne (List.mem_singleton.1 (NameSet.contains_ofList.1 member)).symm
  rw [path_of_contains inside, path_of_not_contains outside]
  exact same

theorem ending_eq_empty_iff : mapping.ending = "" ↔ mapping.valueField = "" := by
  unfold ending
  split
  · next none => simp [none]
  · next some => simp [String.append_eq_empty_iff, some]

theorem exists_append_of_prefix {start text : String} (h : start.toList <+: text.toList) :
    ∃ rest, start ++ rest = text := by
  obtain ⟨rest, whole⟩ := h
  exact ⟨String.ofList rest, String.toList_inj.1 (by simpa using whole)⟩

/-- Where the metadata field is the start, the name of a metadata channel can make up for what the
other field and the ending have beyond it. -/
theorem exists_same_path_of_metadata {rest : String}
    (start : mapping.metadataField ++ "." ++ rest = mapping.channelField ++ ".")
    (apart : ¬(mapping.valueField = "" ∧ mapping.metadataField = mapping.channelField)) :
    ∃ channel other, channel ≠ other ∧
      (mapping.withMetadata channel).path channel = (mapping.withMetadata channel).path other := by
  have ne : rest ++ mapping.ending ≠ "" := by
    intro empty
    obtain ⟨rfl, none⟩ := String.append_eq_empty_iff.1 empty
    rw [String.append_empty] at start
    exact apart ⟨ending_eq_empty_iff.1 none, (String.append_left_inj _).1 start⟩
  refine ⟨rest ++ mapping.ending, "", ne, path_withMetadata ne ?_⟩
  rw [← String.append_assoc, start, String.empty_append]

/-- Where the other field is the start, the name of another channel can make up for what the
metadata field has beyond it. -/
theorem exists_same_path_of_channels {rest : String}
    (start : mapping.channelField ++ "." ++ rest = mapping.metadataField ++ ".")
    (more : rest ≠ "") :
    ∃ channel other, channel ≠ other ∧
      (mapping.withMetadata channel).path channel = (mapping.withMetadata channel).path other := by
  obtain ⟨d, tail, chars⟩ := List.exists_cons_of_ne_nil (mt String.toList_eq_nil_iff.1 more)
  -- The names start with different characters, so they are not the same.
  obtain ⟨c, differs⟩ : ∃ c : Char, c ≠ d := by
    by_cases same : 'a' = d
    · exact ⟨'b', fun h => absurd (same.trans h.symm) (by decide)⟩
    · exact ⟨'a', same⟩
  have ne : String.ofList [c] ++ mapping.ending ≠ rest ++ String.ofList [c] := by
    intro same
    have heads := congrArg (·.toList.head?) same
    simp [chars] at heads
    exact differs heads
  refine ⟨_, _, ne, path_withMetadata ne ?_⟩
  rw [← start]
  simp only [String.append_assoc]

theorem path_of_oneField (noField : mapping.valueField = "")
    (oneField : mapping.metadataField = mapping.channelField) (channel : String) :
    mapping.path channel = mapping.channelField ++ "." ++ channel := by
  simp [path, noField, oneField]

/-- A mapping keeps all channels apart, whichever of them are metadata, exactly if it is separate
or puts all of them into one field with their values right there. -/
theorem forall_injective_iff :
    (∀ names, Function.Injective { mapping with metadataFields := names }.path) ↔
      mapping.Separate ∨
        mapping.valueField = "" ∧ mapping.metadataField = mapping.channelField := by
  constructor
  · intro distinct
    by_contra neither
    obtain ⟨notSeparate, apart⟩ := not_or.1 neither
    have collision : ∃ channel other, channel ≠ other ∧
        (mapping.withMetadata channel).path channel =
          (mapping.withMetadata channel).path other := by
      by_contra none
      apply notSeparate
      constructor
      · intro start
        obtain ⟨rest, whole⟩ := exists_append_of_prefix start
        exact none (exists_same_path_of_metadata whole apart)
      · intro start
        obtain ⟨rest, whole⟩ := exists_append_of_prefix start
        by_cases more : rest = ""
        · rw [more, String.append_empty] at whole
          apply none
          apply exists_same_path_of_metadata _ apart
          · exact ""
          · rw [String.append_empty, whole]
        · exact none (exists_same_path_of_channels whole more)
    obtain ⟨channel, other, ne, same⟩ := collision
    exact ne (distinct _ same)
  · rintro (separate | ⟨noField, oneField⟩) names channel other same
    · have kept : Separate { mapping with metadataFields := names } := ⟨separate.1, separate.2⟩
      exact kept.path_injective same
    · have kept (channel : String) : path { mapping with metadataFields := names } channel =
          mapping.channelField ++ "." ++ channel :=
        @path_of_oneField { mapping with metadataFields := names } noField oneField channel
      rw [kept, kept] at same
      exact (String.append_right_inj _).1 same

/-- Under a separate mapping different channels have different paths. The built-in mapping is
separate, and it gives each channel the path of the built-in rule. No weaker condition on the
fields keeps channels apart whichever of them are metadata, except that all may be put into one
field with their values right there. -/
theorem channels_kept_apart :
    (∀ mapping : FieldMapping, mapping.Separate →
      ∀ channel other, mapping.path channel = mapping.path other → channel = other) ∧
    (builtin.Separate ∧ ∀ channel, builtin.path channel = builtinPath channel) ∧
    ∀ mapping : FieldMapping,
      (∀ names, Function.Injective { mapping with metadataFields := names }.path) ↔
        mapping.Separate ∨
          mapping.valueField = "" ∧ mapping.metadataField = mapping.channelField := by
  refine ⟨?_, ⟨separate_builtin, path_builtin⟩, fun mapping => forall_injective_iff⟩
  intro mapping separate channel other same
  exact separate.path_injective same

/-- A mapping with a metadata channel that is named like the place of another channel's value. The
two fields start alike up to the dot. -/
def dottedSample : FieldMapping :=
  { metadataFields := .ofList ["b.data"]
    metadataField := "ch"
    channelField := "chan"
    valueField := "data" }

theorem channels_kept_apart_sample :
    dottedSample.Separate ∧ dottedSample.path "b.data" = dottedSample.path ("b" ++ ".data") ∧
      "b.data" = "b" ++ ".data" ∧ dottedSample.path "b" ≠ dottedSample.path "b.data" := by
  have separate : dottedSample.Separate := by constructor <;> decide
  have same : dottedSample.path "b.data" = dottedSample.path ("b" ++ ".data") := by decide
  refine ⟨separate, same, channels_kept_apart.1 _ separate _ _ same, ?_⟩
  intro meet
  exact absurd (channels_kept_apart.1 _ separate _ _ meet) (by decide)

end ChannelFilter.FieldMapping
