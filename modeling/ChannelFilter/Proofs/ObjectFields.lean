import ChannelFilter.Json.Source

/-!
# Fields of objects in any order

A reader that knows some keys of an object asks for the values at these keys. Whoever writes the
object may put its fields in any order and foreign fields among them, with keys that the reader
does not know. Where the fields of the writer give at most one value for each known key, these are
the values that the reader finds.
-/
namespace ChannelFilter.Json.Source

variable {known : List String} {key : String} {value : Option Source}
variable {own foreign fields : List (Option String × Source)}

/-- The key of the field is a text, but none of the known keys. -/
def IsForeign (known : List String) (field : Option String × Source) : Prop :=
  ∃ key, field.1 = some key ∧ key ∉ known

theorem valuesAt_foreign (unknown : ∀ field ∈ foreign, IsForeign known field)
    (member : key ∈ known) : valuesAt key foreign = [] := by
  apply valuesAt_eq_nil
  intro field inside same
  obtain ⟨other, named, stranger⟩ := unknown field inside
  cases named.symm.trans same
  exact stranger member

/-- Foreign fields and the order of the fields do not matter to the value at a known key. -/
theorem valuesAt_of_order (unknown : ∀ field ∈ foreign, IsForeign known field)
    (order : fields.Perm (own ++ foreign)) (member : key ∈ known)
    (given : valuesAt key own = value.toList) : valuesAt key fields = value.toList := by
  have all := valuesAt_perm order key
  rw [valuesAt_append, given, valuesAt_foreign unknown member, List.append_nil] at all
  cases value with
  | none => exact List.perm_nil.1 all
  | some value => exact List.perm_singleton.1 all

theorem isSome_of_order (unknown : ∀ field ∈ foreign, IsForeign known field)
    (order : fields.Perm (own ++ foreign)) (named : ∀ field ∈ own, field.1.isSome = true) :
    ∀ field ∈ fields, field.1.isSome = true := by
  intro field inside
  rcases List.mem_append.1 (order.subset inside) with mine | other
  · exact named field mine
  · obtain ⟨key, text, -⟩ := unknown field other
    rw [text]
    rfl

/-- No known key is repeated. -/
theorem keysOk_of_order (unknown : ∀ field ∈ foreign, IsForeign known field)
    (order : fields.Perm (own ++ foreign)) (named : ∀ field ∈ own, field.1.isSome = true)
    (given : ∀ key ∈ known, ∃ value : Option Source, valuesAt key own = value.toList) :
    keysOk known fields = true := by
  apply keysOk_iff.2
  refine ⟨isSome_of_order unknown order named, ?_⟩
  intro key member
  obtain ⟨value, own⟩ := given key member
  rw [valuesAt_of_order unknown order member own]
  cases value <;> simp

end ChannelFilter.Json.Source
