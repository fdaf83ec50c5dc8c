import ChannelFilter.Proofs.FirstWrongToken

/-!
# What may follow tokens that end too early

Tokens that end too early lead to a state in which something is due. A token may stand next if that
state shifts it, since from every state some tokens complete the condition. The kinds of the tokens
that may stand next therefore depend on what is due: an operator, an operand, or a factor. Behind
a factor inside a group they are the end of the group and the connectives, although the cause names
the end of the group only.

Where a factor is due, "not" may stand next unless it has just been taken, and a parenthesis unless
as many groups are open as may be.
-/
namespace ChannelFilter.Parser

variable {limit : Option Nat} {opened : Nat} {s t : State} {token : Token}
variable {tokens : List Token} {kind : Token.Kind} {negated : Bool} {channel : String}
variable {comparison : Comparison} {group : Group} {groups : List Group} {cause : FilterError}

/-- With a token of this kind and some tokens behind it, the tokens are a condition. -/
def CanFollow (tokens : List Token) (kind : Token.Kind) : Prop :=
  ∃ token more, token.kind = kind ∧ Accepted (tokens ++ token :: more)

/-- Some token of this kind can be shifted. -/
def State.Admits (limit : Option Nat) (opened : Nat) (s : State) (kind : Token.Kind) : Prop :=
  ∃ token u, token.kind = kind ∧ Shift limit opened s token u

theorem canFollow_iff (shifts : Shifts (some maxNesting) 0 .start tokens t) :
    CanFollow tokens kind ↔ t.Admits (some maxNesting) 0 kind := by
  constructor
  · intro h
    obtain ⟨token, more, same, accepted⟩ := h
    obtain ⟨u, c, all, -⟩ := accepted_iff.1 accepted
    obtain ⟨v, front, behind⟩ := all.of_append
    cases front.unique shifts
    cases behind with
    | cons shift _ => exact ⟨token, _, same, shift⟩
  · intro h
    obtain ⟨token, u, same, shift⟩ := h
    have viable : Viable (tokens ++ [token]) := viable_iff.2 ⟨u, shifts.append (.single shift)⟩
    obtain ⟨more, accepted⟩ := viable
    rw [List.append_assoc] at accepted
    exact ⟨token, more, same, accepted⟩

theorem admits_factor_iff (due : s.due = .factor negated) :
    s.Admits limit opened kind ↔ kind = .channel ∨ (kind = .not ∧ negated = false) ∨
      (kind = .openParen ∧ limitReached limit (opened + s.groups.length) = none) := by
  constructor
  · rintro ⟨token, u, rfl, shift⟩
    cases shift <;> simp_all
  · rintro (rfl | ⟨rfl, rfl⟩ | ⟨rfl, room⟩)
    · exact ⟨⟨.channel, "channel"⟩, _, rfl, .channel due rfl⟩
    · exact ⟨⟨.not, "not"⟩, _, rfl, .negation due rfl⟩
    · exact ⟨⟨.openParen, "("⟩, _, rfl, .openGroup due rfl room⟩

theorem admits_operator_iff (due : s.due = .operator negated channel) :
    s.Admits limit opened kind ↔ kind ∈ [.comparison, .unary] := by
  constructor
  · rintro ⟨token, u, rfl, shift⟩
    cases shift <;> simp_all
  · intro member
    have isEqual : Catalog.resolve ⟨.comparison, "="⟩ = .ok .eq := rfl
    have isNull : Catalog.resolve ⟨.unary, "is null"⟩ = .ok .eq := rfl
    simp only [List.mem_cons, List.not_mem_nil, or_false] at member
    rcases member with rfl | rfl
    · exact ⟨_, _, rfl, .comparison due rfl isEqual⟩
    · exact ⟨_, _, rfl, .unary due rfl isNull⟩

theorem admits_operand_iff (due : s.due = .operand negated channel comparison) :
    s.Admits limit opened kind ↔ kind ∈ [.channel, .string, .number] := by
  constructor
  · rintro ⟨token, u, rfl, shift⟩
    cases shift with
    | operand _ known => exact kind_of_operandOf known
    | _ => simp_all
  · intro member
    have admitted (token : Token) (operand : Operand) (known : operandOf token = .ok operand) :
        s.Admits limit opened token.kind := ⟨token, _, rfl, .operand due known⟩
    simp only [List.mem_cons, List.not_mem_nil, or_false] at member
    rcases member with rfl | rfl | rfl
    · exact admitted ⟨.channel, "channel"⟩ _ rfl
    · exact admitted ⟨.string, "''"⟩ _ rfl
    · exact admitted ⟨.number, "1"⟩ _ rfl

theorem admits_connective_iff (due : s.due = .connective) (inside : s.groups = group :: groups) :
    s.Admits limit opened kind ↔ kind ∈ [.closeParen, .and, .or] := by
  constructor
  · rintro ⟨token, u, rfl, shift⟩
    cases shift <;> simp_all
  · intro member
    simp only [List.mem_cons, List.not_mem_nil, or_false] at member
    rcases member with rfl | rfl | rfl
    · exact ⟨⟨.closeParen, ")"⟩, _, rfl, .closeGroup due inside rfl⟩
    · exact ⟨⟨.and, "and"⟩, _, rfl, .and due rfl⟩
    · exact ⟨⟨.or, "or"⟩, _, rfl, .or due rfl⟩

def EndsInNegation (tokens : List Token) : Prop :=
  ∃ token ∈ tokens.getLast?, token.kind = .not

/-- As many of the groups that the tokens open are left open as may be. -/
def OpensAllGroups (tokens : List Token) : Prop :=
  Token.countOf .openParen tokens = Token.countOf .closeParen tokens + maxNesting

theorem Shift.due_eq_negated_iff (h : Shift limit opened s token t) :
    t.due = .factor true ↔ token.kind = .not := by
  cases h with
  | operand due known =>
      have literal := kind_of_operandOf known
      simp only [List.mem_cons, List.not_mem_nil, or_false] at literal
      rcases literal with literal | literal | literal <;> simp [literal, State.endFactor]
  | _ => simp_all [State.openGroup, State.endFactor, State.closeGroup]

theorem due_eq_negated_iff (shifts : Shifts limit opened .start tokens t) :
    t.due = .factor true ↔ EndsInNegation tokens := by
  rcases List.eq_nil_or_concat tokens with rfl | ⟨before, last, rfl⟩
  · cases shifts
    simp [State.start, EndsInNegation]
  · rw [List.concat_eq_append] at shifts ⊢
    obtain ⟨u, -, final⟩ := shifts.of_append
    cases final with
    | cons shift none =>
        cases none
        simp [EndsInNegation, shift.due_eq_negated_iff]

theorem limitReached_eq_none_iff (shifts : Shifts (some maxNesting) 0 .start tokens t) :
    limitReached (some maxNesting) (0 + t.groups.length) = none ↔ ¬OpensAllGroups tokens := by
  have counted := shifts.count_groups
  have fits := shifts.groups_le (Nat.zero_le _)
  simp only [State.start, List.length_nil] at counted
  have room : limitReached (some maxNesting) (0 + t.groups.length) = none ↔
      0 + t.groups.length < maxNesting := by
    simp [limitReached]
  rw [room, OpensAllGroups]
  omega

/-- The tokens end too early with the cause, and these are the kinds of the tokens that may stand
next. -/
inductive GoesOn (tokens : List Token) : FilterError → Prop
  | factor (next : ∀ kind, CanFollow tokens kind ↔ kind = .channel ∨
      (kind = .not ∧ ¬EndsInNegation tokens) ∨ (kind = .openParen ∧ ¬OpensAllGroups tokens)) :
      GoesOn tokens .expressionIncomplete
  | operator (next : ∀ kind, CanFollow tokens kind ↔ kind ∈ [.comparison, .unary]) :
      GoesOn tokens (.missingTokenAtEnd [.comparison, .unary])
  | operand (next : ∀ kind, CanFollow tokens kind ↔ kind ∈ [.channel, .string, .number]) :
      GoesOn tokens .missingOperand
  | groupEnd (next : ∀ kind, CanFollow tokens kind ↔ kind ∈ [.closeParen, .and, .or]) :
      GoesOn tokens (.missingTokenAtEnd [.closeParen])

theorem exists_shifts_of_early (failed : Condition.ofTokens tokens = .error cause)
    (early : cause.AtEnd) :
    ∃ t, Shifts (some maxNesting) 0 .start tokens t ∧ t.finish = .error cause := by
  obtain ⟨front, t, rest, outcome, rfl, shifts, ending, result, -⟩ := exists_parse_ending tokens
  rw [Condition.ofTokens, result] at failed
  cases ending with
  | finish => exact ⟨t, by simpa using shifts, failed⟩
  | stop done next => cases failed
  | reject rejection =>
      cases failed
      exact absurd early rejection.not_atEnd

theorem goesOn_of_finish (shifts : Shifts (some maxNesting) 0 .start tokens t)
    (early : t.finish = .error cause) : GoesOn tokens cause := by
  unfold State.finish at early
  split at early
  · next negated _ due =>
    cases early
    refine .factor fun kind => ?_
    rw [canFollow_iff shifts, admits_factor_iff due, limitReached_eq_none_iff shifts,
      ← due_eq_negated_iff shifts, due]
    cases negated <;> simp
  · next due =>
    cases early
    exact .operator fun kind => (canFollow_iff shifts).trans (admits_operator_iff due)
  · next due =>
    cases early
    exact .operand fun kind => (canFollow_iff shifts).trans (admits_operand_iff due)
  · cases early
  · next due inside =>
    cases early
    exact .groupEnd fun kind => (canFollow_iff shifts).trans (admits_connective_iff due inside)

/-- Where a call fails since the tokens end too early, its cause decides which kinds of tokens may
stand next. What it says to be missing is an operator or the end of a group, and nothing else. -/
theorem early_end_decides_next_kinds (tokens : List Token) (cause : FilterError)
    (failed : Condition.ofTokens tokens = .error cause) (early : cause.AtEnd) :
    GoesOn tokens cause := by
  obtain ⟨t, shifts, ends⟩ := exists_shifts_of_early failed early
  exact goesOn_of_finish shifts ends

/-- A "not" behind as many open groups as may be. -/
def fullSample : List Token :=
  List.replicate 128 ⟨.openParen, "("⟩ ++ [⟨.not, "not"⟩]

/-- Nothing but a channel may follow. -/
theorem early_end_decides_next_kinds_sample :
    Condition.ofTokens fullSample = .error .expressionIncomplete ∧
      FilterError.AtEnd .expressionIncomplete ∧ GoesOn fullSample .expressionIncomplete ∧
      ∀ kind, CanFollow fullSample kind ↔ kind = .channel := by
  have failed : Condition.ofTokens fullSample = .error .expressionIncomplete := rfl
  have early : FilterError.AtEnd .expressionIncomplete := .inl rfl
  have goesOn := early_end_decides_next_kinds fullSample .expressionIncomplete failed early
  have negated : EndsInNegation fullSample := ⟨⟨.not, "not"⟩, by simp [fullSample], rfl⟩
  have full : OpensAllGroups fullSample := by
    simp [OpensAllGroups, Token.countOf, fullSample, maxNesting]
  refine ⟨failed, early, goesOn, fun kind => ?_⟩
  cases goesOn with
  | factor next => simp [next kind, negated, full]

end ChannelFilter.Parser
