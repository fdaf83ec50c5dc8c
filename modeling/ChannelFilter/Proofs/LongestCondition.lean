import ChannelFilter.Document
import ChannelFilter.Proofs.Completion

/-!
# The longest condition at the front of the tokens

A lenient call takes the tokens up to a point where the condition is complete and neither "and"
nor "or" goes on with it. What it takes there is what a strict call accepts, and no longer front of
the tokens is accepted. A connective behind a complete condition commits the call to another
operand, so tokens that end in a connective are refused as a whole although some front of them is
a condition.
-/
namespace ChannelFilter.Parser

variable {tokens front rest : List Token} {c : Condition} {token : Token} {cause : FilterError}

/-- The tokens are those of a whole condition and others, whose first is no connective. -/
structure SplitsInto (tokens front rest : List Token) (c : Condition) : Prop where
  whole : tokens = front ++ rest
  condition : Condition.ofAllTokens front = .ok c
  ends : ∀ token ∈ rest.head?, token.kind ≠ .and ∧ token.kind ≠ .or

/-- The tokens at the front are a condition, and no more of the tokens are one. -/
structure IsLongest (tokens front : List Token) : Prop where
  atFront : front <+: tokens
  accepted : Accepted front
  longest : ∀ other, other <+: tokens → Accepted other → other.length ≤ front.length

theorem SplitsInto.run_eq (h : SplitsInto tokens front rest c) :
    run (some maxNesting) 0 .start tokens =
      { result := .ok c, taken := front.length, opened := 0 } := by
  obtain ⟨rfl, condition, ends⟩ := h
  obtain ⟨t, shifts, done⟩ := ofAllTokens_eq_ok_iff.1 condition
  exact run_of_finish shifts done ends

theorem SplitsInto.ofTokens_eq (h : SplitsInto tokens front rest c) :
    Condition.ofTokens tokens = .ok c := by
  rw [Condition.ofTokens, parse_ofTokens, h.run_eq]

theorem SplitsInto.remaining_eq (h : SplitsInto tokens front rest c) :
    (ofTokens tokens).parse.2.remaining = rest := by
  rw [remaining_parse_ofTokens, h.run_eq, h.whole]
  exact List.drop_left

theorem exists_splitsInto (h : Condition.ofTokens tokens = .ok c) :
    ∃ front rest, SplitsInto tokens front rest c := by
  obtain ⟨front, t, rest, whole, shifts, done, ends⟩ := ofTokens_eq_ok_iff.1 h
  exact ⟨front, rest, whole, (ofAllTokens_of_shifts shifts).trans done, ends⟩

theorem parse_eq_ok_iff :
    (ofTokens tokens).parse.1 = .ok c ∧ (ofTokens tokens).parse.2.remaining = rest ↔
      ∃ front, SplitsInto tokens front rest c := by
  constructor
  · intro h
    obtain ⟨ok, left⟩ := h
    obtain ⟨front, others, splits⟩ := exists_splitsInto ok
    have same : others = rest := splits.remaining_eq.symm.trans left
    exact ⟨front, same ▸ splits⟩
  · intro h
    obtain ⟨front, splits⟩ := h
    exact ⟨splits.ofTokens_eq, splits.remaining_eq⟩

theorem SplitsInto.ofAllTokens_eq (h : SplitsInto tokens front rest c) :
    Condition.ofAllTokens tokens = refuseTrailing c rest := by
  rw [ofAllTokens_of_ok h.ofTokens_eq, h.remaining_eq]

theorem SplitsInto.ofAllTokens_trailing (h : SplitsInto tokens front rest c)
    (next : token ∈ rest.head?) :
    Condition.ofAllTokens tokens = .error (.trailingToken token.value) := by
  rw [h.ofAllTokens_eq]
  cases rest with
  | nil => cases next
  | cons first others =>
      cases next
      rfl

/-- A longer front splits at the same place, and the first token of the others is refused. -/
theorem SplitsInto.isLongest (h : SplitsInto tokens front rest c) : IsLongest tokens front := by
  refine ⟨⟨rest, h.whole.symm⟩, ⟨c, h.condition⟩, ?_⟩
  intro other atFront accepted
  rcases Nat.le_total other.length front.length with short | long
  · exact short
  obtain ⟨d, ok⟩ := accepted
  obtain ⟨others, rfl⟩ := List.prefix_of_prefix_length_le ⟨rest, h.whole.symm⟩ atFront long
  obtain ⟨behind, whole⟩ := atFront
  have rest_eq : rest = others ++ behind := by
    have joined := whole.trans h.whole
    rw [List.append_assoc] at joined
    exact (List.append_cancel_left joined).symm
  cases others with
  | nil => simp
  | cons token others =>
      have next : token ∈ rest.head? := by
        rw [rest_eq]
        rfl
      have splits : SplitsInto (front ++ token :: others) front (token :: others) c := by
        refine ⟨rfl, h.condition, ?_⟩
        intro first member
        cases member
        exact h.ends token next
      cases ok.symm.trans (splits.ofAllTokens_trailing rfl)

theorem filterOfTokens_of_error (h : filterOfTokens tokens = .error cause) :
    Condition.ofTokens tokens = .error cause := by
  unfold filterOfTokens at h
  cases result : Condition.ofTokens tokens with
  | ok c =>
      rw [result] at h
      cases h
  | error other =>
      rw [result] at h
      cases h
      rfl

/-- A lenient call succeeds exactly where the tokens split into a condition and others that do not
go on with it. The condition is then the longest that the tokens start with, a strict call accepts
exactly its tokens and refuses the first of the others, and what fails leniently fails strictly
for the same cause. The same holds of the filters. -/
theorem lenient_call_takes_longest (tokens : List Token) :
    (∀ c rest,
      (ofTokens tokens).parse.1 = .ok c ∧ (ofTokens tokens).parse.2.remaining = rest ↔
        ∃ front, SplitsInto tokens front rest c) ∧
    (∀ front rest c, SplitsInto tokens front rest c →
      IsLongest tokens front ∧ filterOfTokens tokens = filterOfAllTokens front ∧
      (rest = [] → Condition.ofAllTokens tokens = .ok c ∧
        filterOfAllTokens tokens = filterOfTokens tokens) ∧
      ∀ token ∈ rest.head?,
        Condition.ofAllTokens tokens = .error (.trailingToken token.value) ∧
        filterOfAllTokens tokens = .error (.trailingToken token.value)) ∧
    ∀ cause,
      (Condition.ofTokens tokens = .error cause → Condition.ofAllTokens tokens = .error cause) ∧
      (filterOfTokens tokens = .error cause → filterOfAllTokens tokens = .error cause) := by
  refine ⟨fun c rest => parse_eq_ok_iff, ?_, ?_⟩
  · intro front rest c splits
    refine ⟨splits.isLongest, ?_, ?_, ?_⟩
    · rw [filterOfTokens, filterOfAllTokens, splits.ofTokens_eq, splits.condition]
    · intro empty
      have strict : Condition.ofAllTokens tokens = .ok c := by
        rw [splits.ofAllTokens_eq, empty, refuseTrailing]
      refine ⟨strict, ?_⟩
      rw [filterOfAllTokens, filterOfTokens, strict, splits.ofTokens_eq]
    · intro token next
      have strict := splits.ofAllTokens_trailing next
      refine ⟨strict, ?_⟩
      rw [filterOfAllTokens, strict]
      rfl
  · intro cause
    refine ⟨ofAllTokens_of_error, ?_⟩
    intro h
    rw [filterOfAllTokens, ofAllTokens_of_error (filterOfTokens_of_error h)]
    rfl

def closedSample : List Token :=
  [⟨.channel, "a"⟩, ⟨.unary, "is null"⟩, ⟨.or, "or"⟩, ⟨.openParen, "("⟩, ⟨.channel, "b"⟩,
   ⟨.comparison, "="⟩, ⟨.string, "'x'"⟩, ⟨.closeParen, ")"⟩]

/-- A closing parenthesis that nothing opens, and a connective behind it. -/
def danglingSample : List Token :=
  [⟨.closeParen, ")"⟩, ⟨.and, "and"⟩]

/-- The tokens split in front of a stray parenthesis and at their end. With a connective at their
end they are refused. -/
theorem lenient_call_takes_longest_sample :
    ∃ c, SplitsInto (closedSample ++ danglingSample) closedSample danglingSample c ∧
      IsLongest (closedSample ++ danglingSample) closedSample ∧
      filterOfAllTokens (closedSample ++ danglingSample) = .error (.trailingToken ")") ∧
      SplitsInto closedSample closedSample [] c ∧
      filterOfAllTokens closedSample = filterOfTokens closedSample ∧
      Condition.ofTokens (closedSample ++ [⟨.and, "and"⟩]) = .error .expressionIncomplete ∧
      Condition.ofAllTokens (closedSample ++ [⟨.and, "and"⟩]) = .error .expressionIncomplete ∧
      filterOfAllTokens (closedSample ++ [⟨.and, "and"⟩]) = .error .expressionIncomplete := by
  have condition : Condition.ofAllTokens closedSample =
      .ok (.anyOf [.predicate ⟨"a", .eq, .null⟩, .predicate ⟨"b", .eq, .string "x"⟩]) := rfl
  have stray : SplitsInto (closedSample ++ danglingSample) closedSample danglingSample _ :=
    ⟨rfl, condition, by simp [danglingSample]⟩
  have all : SplitsInto closedSample closedSample [] _ :=
    ⟨(List.append_nil _).symm, condition, by simp⟩
  have refused : Condition.ofTokens (closedSample ++ [⟨.and, "and"⟩]) =
      .error .expressionIncomplete := rfl
  have first := (lenient_call_takes_longest (closedSample ++ danglingSample)).2.1 _ _ _ stray
  have second := (lenient_call_takes_longest closedSample).2.1 _ _ _ all
  have third := (lenient_call_takes_longest (closedSample ++ [⟨.and, "and"⟩])).2.2
    .expressionIncomplete
  exact ⟨_, stray, first.1, (first.2.2.2 _ rfl).2, all, (second.2.2.1 rfl).2, refused,
    third.1 refused, third.2 rfl⟩

end ChannelFilter.Parser
