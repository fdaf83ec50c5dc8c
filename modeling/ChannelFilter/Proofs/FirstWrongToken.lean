import ChannelFilter.Proofs.Completion

/-!
# The first wrong token

A list of tokens is viable if some continuation makes it a condition, which holds exactly if all
its tokens can be shifted. The fronts of a list are therefore viable up to a certain length and no
longer. Where a strict call fails before the tokens end, that length is the number of tokens in
front of the one that its cause names: they can all be shifted, and the next one cannot.
-/
namespace ChannelFilter

def Token.countOf (kind : Token.Kind) (tokens : List Token) : Nat :=
  tokens.countP (·.kind == kind)

/-- The cause is about the token that follows those in front: it carries what the token holds, or
says that the token would open a group when as many groups are open as may be. -/
inductive FilterError.About (front : List Token) (token : Token) : FilterError → Prop
  | unexpectedTokenKind (expected : List Token.Kind) :
      About front token (.unexpectedTokenKind expected token)
  | unexpectedToken : About front token (.unexpectedToken token.value)
  | unexpectedLeftOperand : About front token (.unexpectedLeftOperand token)
  | unknownOperator : About front token (.unknownOperator token.value)
  | invalidNumber : About front token (.invalidNumber token.value)
  | trailingToken : About front token (.trailingToken token.value)
  | nestingTooDeep (kind : token.kind = .openParen)
      (full : Token.countOf .openParen front =
        Token.countOf .closeParen front + Parser.maxNesting) :
      About front token (.nestingTooDeep Parser.maxNesting)

namespace Parser

variable {limit : Option Nat} {opened : Nat} {s t u : State} {token : Token}
variable {tokens front rest more : List Token} {cause : FilterError} {taken : Bool} {i j : Nat}

/-- Some tokens behind these, or none, make them a condition. -/
def Viable (tokens : List Token) : Prop :=
  ∃ more, Accepted (tokens ++ more)

theorem viable_iff : Viable tokens ↔ ∃ t, Shifts (some maxNesting) 0 .start tokens t := by
  constructor
  · intro h
    obtain ⟨more, accepted⟩ := h
    obtain ⟨u, c, shifts, -⟩ := accepted_iff.1 accepted
    obtain ⟨t, first, -⟩ := shifts.of_append
    exact ⟨t, first⟩
  · intro h
    obtain ⟨t, shifts⟩ := h
    obtain ⟨u, c, completed, done⟩ := exists_finish_completion (some maxNesting) 0 t
    exact ⟨t.completion, accepted_iff.2 ⟨u, c, shifts.append completed, done⟩⟩

theorem Viable.of_append (h : Viable (front ++ more)) : Viable front := by
  obtain ⟨rest, accepted⟩ := h
  rw [List.append_assoc] at accepted
  exact ⟨more ++ rest, accepted⟩

theorem Viable.take (h : Viable (tokens.take j)) (le : i ≤ j) : Viable (tokens.take i) := by
  have front : tokens.take i = (tokens.take j).take i := by
    rw [List.take_take, Nat.min_eq_left le]
  rw [← List.take_append_drop i (tokens.take j), ← front] at h
  exact h.of_append

theorem not_viable_of_step (shifts : Shifts (some maxNesting) 0 .start front t)
    (blocked : ∀ u, t.step (some maxNesting) 0 token ≠ .shift u) : ¬Viable (front ++ [token]) := by
  intro viable
  obtain ⟨u, all⟩ := viable_iff.1 viable
  obtain ⟨v, first, last⟩ := all.of_append
  cases first.unique shifts
  cases last with
  | cons shift _ => exact blocked _ shift.step_eq

/-- The tokens in front of the index may become a condition, but not with the token there. -/
def TurnsWrong (tokens : List Token) (i : Nat) : Prop :=
  Viable (tokens.take i) ∧ ¬Viable (tokens.take (i + 1))

theorem TurnsWrong.unique (h : TurnsWrong tokens i) (k : TurnsWrong tokens j) : i = j := by
  rcases Nat.lt_trichotomy i j with less | same | greater
  · exact absurd (k.1.take less) h.2
  · exact same
  · exact absurd (h.1.take greater) k.2

theorem kind_of_operandOf {operand : Operand} (h : operandOf token = .ok operand) :
    token.kind ∈ [.channel, .string, .number] := by
  cases operandOf_eq_ok_iff.1 h with
  | channel kind => simp [kind]
  | string kind => simp [kind]
  | number kind _ => simp [kind]

theorem Shift.count_groups (h : Shift limit opened s token t) :
    s.groups.length + Token.countOf .openParen [token] =
      t.groups.length + Token.countOf .closeParen [token] := by
  cases h with
  | negation due kind => simp [Token.countOf, kind]
  | openGroup due kind room => simp [Token.countOf, kind, State.openGroup]
  | channel due kind => simp [Token.countOf, kind]
  | comparison due kind known => simp [Token.countOf, kind]
  | unary due kind known => simp [Token.countOf, kind, State.endFactor]
  | operand due known =>
      have kind := kind_of_operandOf known
      simp only [List.mem_cons, List.not_mem_nil, or_false] at kind
      rcases kind with kind | kind | kind <;> simp [Token.countOf, kind, State.endFactor]
  | and due kind => simp [Token.countOf, kind]
  | or due kind => simp [Token.countOf, kind]
  | closeGroup due inside kind =>
      simp [Token.countOf, kind, inside, State.closeGroup, State.endFactor]

theorem Shifts.count_groups (h : Shifts limit opened s tokens t) :
    s.groups.length + Token.countOf .openParen tokens =
      t.groups.length + Token.countOf .closeParen tokens := by
  induction h with
  | nil s => rfl
  | cons first _ ih =>
      have one := first.count_groups
      simp only [Token.countOf, List.countP_cons, List.countP_nil] at one ih ⊢
      omega

theorem Shift.groups_le (h : Shift (some maxNesting) opened s token t)
    (fits : opened + s.groups.length ≤ maxNesting) : opened + t.groups.length ≤ maxNesting := by
  cases h with
  | openGroup due kind room =>
      have below : opened + s.groups.length < maxNesting := by
        simpa [limitReached] using room
      simp only [State.openGroup, List.length_cons]
      omega
  | closeGroup due inside kind =>
      simp only [inside, List.length_cons] at fits
      simp only [State.closeGroup, State.endFactor]
      omega
  | _ => exact fits

theorem Shifts.groups_le (h : Shifts (some maxNesting) opened s tokens t)
    (fits : opened + s.groups.length ≤ maxNesting) : opened + t.groups.length ≤ maxNesting := by
  induction h with
  | nil s => exact fits
  | cons first _ ih => exact ih (first.groups_le fits)

theorem Rejection.about (h : Rejection (some maxNesting) 0 t token cause taken)
    (shifts : Shifts (some maxNesting) 0 .start front t) : cause.About front token := by
  cases h with
  | secondNegation due kind => exact .unexpectedToken
  | tooDeep due kind full =>
      have counted : Token.countOf .openParen front =
          t.groups.length + Token.countOf .closeParen front := by
        simpa [State.start] using shifts.count_groups
      have atMost : 0 + t.groups.length ≤ maxNesting := shifts.groups_le (by simp [State.start])
      obtain ⟨limit, least⟩ := Option.filter_eq_some_iff.1 full
      cases limit
      have least : maxNesting ≤ 0 + t.groups.length := by simpa using least
      exact .nestingTooDeep kind (by omega)
  | literal due kind => exact .unexpectedLeftOperand
  | noFactor due kind => exact .unexpectedToken
  | noOperator due kind => exact .unexpectedTokenKind _
  | unknownOperator due kind unknown => exact .unknownOperator
  | invalidNumber due kind invalid => exact .invalidNumber
  | noOperand due kind => exact .unexpectedToken
  | insideGroup due inside kind => exact .unexpectedTokenKind _

/-- A strict call that fails before the tokens end shifts the tokens in front of one that it
cannot shift, and names that token. -/
theorem exists_wrong_token (failed : Condition.ofAllTokens tokens = .error cause)
    (wrong : ¬cause.AtEnd) :
    ∃ front t token rest taken, tokens = front ++ token :: rest ∧
      Shifts (some maxNesting) 0 .start front t ∧
      (∀ u, t.step (some maxNesting) 0 token ≠ .shift u) ∧ cause.About front token ∧
      (ofTokens tokens).parseComplete.2.remaining = (token :: rest).drop (Bool.toNat taken) := by
  obtain ⟨front, t, rest, outcome, whole, shifts, ending, result, left⟩ :=
    exists_parse_ending tokens
  rw [← parseComplete_snd] at left
  cases ending with
  | finish =>
      rw [List.append_nil] at whole
      rw [whole, ofAllTokens_of_shifts shifts] at failed
      exact absurd (atEnd_of_finish failed) wrong
  | @stop token rest c done next =>
      have stops : t.step (some maxNesting) 0 token = .stop c := step_eq_stop_iff.2 ⟨done, next⟩
      rw [ofAllTokens_of_ok result, ← parseComplete_snd, left] at failed
      cases failed
      exact ⟨front, t, token, rest, false, whole, shifts, by simp [stops], .trailingToken, left⟩
  | @reject token rest other taken rejection =>
      rw [ofAllTokens_of_error result] at failed
      cases failed
      exact ⟨front, t, token, rest, taken, whole, shifts, by simp [rejection.step_eq],
        rejection.about shifts, left⟩

/-- A strict call that fails before the tokens end fails at the only index where the tokens turn
wrong. Its cause is about the token there, and either that token or the next is the first left. -/
theorem fails_where_tokens_turn_wrong (tokens : List Token) (cause : FilterError)
    (failed : Condition.ofAllTokens tokens = .error cause) (wrong : ¬cause.AtEnd) :
    ∃ i token, (∀ j, TurnsWrong tokens j ↔ j = i) ∧ tokens[i]? = some token ∧
      cause.About (tokens.take i) token ∧
      ((ofTokens tokens).parseComplete.2.remaining = tokens.drop i ∨
        (ofTokens tokens).parseComplete.2.remaining = tokens.drop (i + 1)) := by
  obtain ⟨front, t, token, rest, taken, whole, shifts, blocked, about, left⟩ :=
    exists_wrong_token failed wrong
  have before : tokens.take front.length = front := by simp [whole]
  have through : tokens.take (front.length + 1) = front ++ [token] := by
    rw [whole, List.take_length_add_append]
    rfl
  have turns : TurnsWrong tokens front.length := by
    rw [TurnsWrong, before, through]
    exact ⟨viable_iff.2 ⟨t, shifts⟩, not_viable_of_step shifts blocked⟩
  refine ⟨front.length, token, ?_, by simp [whole], by rwa [before], ?_⟩
  · intro j
    constructor
    · intro h
      exact h.unique turns
    · intro h
      rwa [h]
  · rw [left]
    cases taken with
    | false => exact .inl (by simp [whole])
    | true => exact .inr (by simp [whole])

/-- One group more than may be open, behind "not". -/
def tooDeepSample : List Token :=
  ⟨.not, "not"⟩ :: List.replicate 129 ⟨.openParen, "("⟩ ++ [⟨.closeParen, ")"⟩]

theorem fails_where_tokens_turn_wrong_sample :
    Condition.ofAllTokens tooDeepSample = .error (.nestingTooDeep 128) ∧
      ¬(FilterError.nestingTooDeep 128).AtEnd ∧
      ∃ i token, (∀ j, TurnsWrong tooDeepSample j ↔ j = i) ∧ tooDeepSample[i]? = some token ∧
        (FilterError.nestingTooDeep 128).About (tooDeepSample.take i) token ∧
        ((ofTokens tooDeepSample).parseComplete.2.remaining = tooDeepSample.drop i ∨
          (ofTokens tooDeepSample).parseComplete.2.remaining = tooDeepSample.drop (i + 1)) := by
  have failed : Condition.ofAllTokens tooDeepSample = .error (.nestingTooDeep 128) := rfl
  have wrong : ¬(FilterError.nestingTooDeep 128).AtEnd := by simp [FilterError.AtEnd]
  exact ⟨failed, wrong, fails_where_tokens_turn_wrong tooDeepSample _ failed wrong⟩

end Parser

end ChannelFilter
