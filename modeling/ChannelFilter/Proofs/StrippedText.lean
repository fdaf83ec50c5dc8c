import ChannelFilter.Text.Quote

/-!
# Stripped text

Stripping takes characters off both ends for as long as they satisfy a predicate. What is left
neither starts nor ends with such a character, and a text of that kind is left as it is, also with
further such characters around it.
-/
namespace ChannelFilter.Text

variable {p : Char → Bool} {c : Char} {cs rest : List Char}

/-- The characters neither start nor end with one that satisfies `p`. -/
def Bare (p : Char → Bool) (cs : List Char) : Prop :=
  (∀ c ∈ cs.head?, p c = false) ∧ ∀ c ∈ cs.getLast?, p c = false

theorem dropWhile_of_head? (h : ∀ c ∈ cs.head?, p c = false) : cs.dropWhile p = cs := by
  cases cs with
  | nil => rfl
  | cons c cs => exact List.dropWhile_cons_of_neg (by simp [h c rfl])

theorem head?_dropWhile (p : Char → Bool) (cs : List Char) :
    ∀ c ∈ (cs.dropWhile p).head?, p c = false := by
  intro c member
  have h := List.head?_dropWhile_not p cs
  rw [Option.mem_def.1 member] at h
  exact h

theorem takeWhile_run (inside : ∀ c ∈ cs, p c = true)
    (ends : ∀ c ∈ rest.head?, p c = false) : (cs ++ rest).takeWhile p = cs := by
  rw [List.takeWhile_append_of_pos inside]
  cases rest with
  | nil => simp
  | cons c rest => simp [ends c rfl]

theorem dropWhile_run (inside : ∀ c ∈ cs, p c = true)
    (ends : ∀ c ∈ rest.head?, p c = false) : (cs ++ rest).dropWhile p = rest := by
  rw [List.dropWhile_append_of_pos inside, dropWhile_of_head? ends]

theorem strip_of_bare (h : Bare p cs) : strip p cs = cs := by
  rw [strip, dropWhile_of_head? h.1, dropWhile_of_head?, List.reverse_reverse]
  simpa using h.2

theorem strip_cons (h : p c = true) : strip p (c :: cs) = strip p cs := by
  rw [strip, List.dropWhile_cons_of_pos h, strip]

theorem strip_concat (h : p c = true) : strip p (cs ++ [c]) = strip p cs := by
  rw [strip, List.dropWhile_append]
  split
  · next empty =>
    rw [List.dropWhile_cons_of_pos h, strip, List.isEmpty_iff.1 empty]
    rfl
  · rw [List.reverse_append, List.reverse_singleton, List.singleton_append,
      List.dropWhile_cons_of_pos h, strip]

theorem bare_strip (p : Char → Bool) (cs : List Char) : Bare p (strip p cs) := by
  constructor
  · intro c member
    have front : strip p cs <+: (cs.dropWhile p).reverse.reverse :=
      List.reverse_prefix.2 (List.dropWhile_suffix p)
    obtain ⟨rest, h⟩ := front
    refine head?_dropWhile p cs c ?_
    rw [← List.reverse_reverse (cs.dropWhile p), ← h, List.head?_append, member]
    rfl
  · rw [strip, List.getLast?_reverse]
    exact head?_dropWhile p _

/-- All that is taken off satisfies the predicate. -/
theorem exists_strip (p : Char → Bool) (cs : List Char) :
    ∃ front back, (∀ c ∈ front ++ back, p c = true) ∧ cs = front ++ (strip p cs ++ back) := by
  have taken : ∀ ds : List Char, ∀ c ∈ ds.takeWhile p, p c = true :=
    fun ds => List.all_eq_true.1 List.all_takeWhile
  have behind : strip p cs ++ ((cs.dropWhile p).reverse.takeWhile p).reverse = cs.dropWhile p := by
    rw [strip, ← List.reverse_append, List.takeWhile_append_dropWhile, List.reverse_reverse]
  refine ⟨cs.takeWhile p, ((cs.dropWhile p).reverse.takeWhile p).reverse, ?_, ?_⟩
  · intro c member
    rcases List.mem_append.1 member with first | last
    · exact taken _ c first
    · exact taken _ c (List.mem_reverse.1 last)
  · rw [behind, List.takeWhile_append_dropWhile]

variable {text : String}

theorem unquoted_of_bare (h : Bare isQuote text.toList) : unquoted text = text := by
  rw [unquoted, strip_of_bare h, String.ofList_toList]

/-- The quotes around a text without any at its ends are all that is taken off. -/
theorem unquoted_quote (h : Bare isQuote text.toList) :
    unquoted ("\"" ++ text ++ "\"") = text := by
  have quoted : ("\"" ++ text ++ "\"").toList = '"' :: (text.toList ++ ['"']) := by
    simp
  rw [unquoted, quoted, strip_cons rfl, strip_concat rfl]
  exact unquoted_of_bare h

theorem bare_unquoted (text : String) : Bare isQuote (unquoted text).toList := by
  rw [unquoted, String.toList_ofList]
  exact bare_strip isQuote text.toList

theorem unquoted_eq_iff : unquoted text = text ↔ Bare isQuote text.toList := by
  constructor
  · intro same
    rw [← same]
    exact bare_unquoted text
  · exact unquoted_of_bare

end ChannelFilter.Text
