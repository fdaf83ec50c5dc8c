import ChannelFilter.Proofs.GrammarReading

/-!
# Tokens that can still become a condition

From every state some tokens complete the condition: what is due, and a closing parenthesis for
each open group. No further group is opened, so the nesting limit does not matter. Hence the causes
that stand for the end of the tokens are reported exactly for the lists that are no condition but
the front of one. Every other failure is due to a token that no continuation can make good, since
shifts depend on nothing that follows.
-/
namespace ChannelFilter

/-- The cause is that the tokens end where others have to follow. -/
def FilterError.AtEnd (cause : FilterError) : Prop :=
  cause = .expressionIncomplete ∨ cause = .missingOperand ∨
    ∃ expected, cause = .missingTokenAtEnd expected

namespace Parser

variable {limit : Option Nat} {opened : Nat} {s t : State} {tokens : List Token}
variable {cause : FilterError} {taken : Bool} {token : Token}

/-- All the tokens together are a condition. -/
def Accepted (tokens : List Token) : Prop :=
  ∃ c, Condition.ofAllTokens tokens = .ok c

theorem accepted_iff :
    Accepted tokens ↔
      ∃ t c, Shifts (some maxNesting) 0 .start tokens t ∧ t.finish = .ok c := by
  simp only [Accepted, ofAllTokens_eq_ok_iff]
  exact exists_comm

/-- Some tokens that supply what is due. -/
def Due.completion : Due → List Token
  | .factor _ => [⟨.channel, "channel"⟩, ⟨.unary, "is null"⟩]
  | .operator _ _ => [⟨.unary, "is null"⟩]
  | .operand _ _ _ => [⟨.channel, "channel"⟩]
  | .connective => []

def State.completion (s : State) : List Token :=
  s.due.completion ++ List.replicate s.groups.length ⟨.closeParen, ")"⟩

theorem shifts_isNull (limit : Option Nat) (opened : Nat) (groups : List Group) (level : Level)
    (negated : Bool) (channel : String) :
    ∃ last, Shifts limit opened { groups, level, due := .operator negated channel }
      [⟨.unary, "is null"⟩] { groups, level := last, due := .connective } := by
  have known : Catalog.resolve ⟨.unary, "is null"⟩ = .ok .eq := rfl
  exact ⟨_, .single (.unary rfl rfl known)⟩

theorem shifts_dueCompletion (limit : Option Nat) (opened : Nat) (s : State) :
    ∃ level, Shifts limit opened s s.due.completion { s with level, due := .connective } := by
  obtain ⟨groups, level, due⟩ := s
  cases due with
  | factor negated =>
      have channel : Shift limit opened { groups, level, due := .factor negated }
          ⟨.channel, "channel"⟩ { groups, level, due := .operator negated "channel" } :=
        .channel rfl rfl
      obtain ⟨last, shifts⟩ := shifts_isNull limit opened groups level negated "channel"
      exact ⟨last, .cons channel shifts⟩
  | operator negated channel => exact shifts_isNull limit opened groups level negated channel
  | operand negated channel comparison => exact ⟨_, .single (.operand rfl rfl)⟩
  | connective => exact ⟨level, .nil _⟩

theorem shifts_closing (limit : Option Nat) (opened : Nat) (groups : List Group) (level : Level) :
    ∃ last, Shifts limit opened { groups, level, due := .connective }
      (List.replicate groups.length ⟨.closeParen, ")"⟩)
      { groups := [], level := last, due := .connective } := by
  induction groups generalizing level with
  | nil => exact ⟨level, .nil _⟩
  | cons group groups ih =>
      obtain ⟨last, shifts⟩ := ih (group.outer.addFactor (level.condition.negatedIf group.negated))
      exact ⟨last, .cons (.closeGroup rfl rfl rfl) shifts⟩

theorem exists_finish_completion (limit : Option Nat) (opened : Nat) (s : State) :
    ∃ t c, Shifts limit opened s s.completion t ∧ t.finish = .ok c := by
  obtain ⟨level, supplied⟩ := shifts_dueCompletion limit opened s
  obtain ⟨last, closed⟩ := shifts_closing limit opened s.groups level
  exact ⟨_, _, supplied.append closed, finish_eq_ok_iff.2 ⟨rfl, rfl, rfl⟩⟩

theorem completion_ne_nil (h : s.finish = .error cause) : s.completion ≠ [] := by
  obtain ⟨groups, level, due⟩ := s
  cases due with
  | factor negated => simp [State.completion, Due.completion]
  | operator negated channel => simp [State.completion, Due.completion]
  | operand negated channel comparison => simp [State.completion, Due.completion]
  | connective =>
      cases groups with
      | nil => simp [State.finish] at h
      | cons group groups => simp [State.completion, Due.completion, List.replicate_succ]

theorem atEnd_of_finish (h : s.finish = .error cause) : cause.AtEnd := by
  unfold State.finish at h
  split at h <;> cases h <;> simp [FilterError.AtEnd]

theorem Rejection.not_atEnd (h : Rejection limit opened s token cause taken) : ¬cause.AtEnd := by
  cases h <;> simp [FilterError.AtEnd]

/-- The tokens end too early exactly if they are no condition but some others behind them make
them one. -/
theorem fails_atEnd_iff_extensible (tokens : List Token) :
    (∃ cause, Condition.ofAllTokens tokens = .error cause ∧ cause.AtEnd) ↔
      ¬Accepted tokens ∧ ∃ more ≠ [], Accepted (tokens ++ more) := by
  constructor
  · intro h
    obtain ⟨cause, failed, atEnd⟩ := h
    rcases ofAllTokens_cases tokens with ⟨t, c, -, -, hok⟩ | ⟨other, failure, herror⟩
    · cases failed.symm.trans hok
    · cases failed.symm.trans herror
      cases failure with
      | @atEnd tokens t cause shifts early =>
          constructor
          · intro accepted
            obtain ⟨c, hok⟩ := accepted
            cases failed.symm.trans hok
          · obtain ⟨u, c, completed, done⟩ := exists_finish_completion (some maxNesting) 0 t
            exact ⟨t.completion, completion_ne_nil early,
              accepted_iff.2 ⟨u, c, shifts.append completed, done⟩⟩
      | rejected shifts rejection => exact absurd atEnd rejection.not_atEnd
      | trailing shifts done next => simp [FilterError.AtEnd] at atEnd
  · -- Whatever is accepted shifts its front too, and only the end of that can be at fault.
    intro h
    obtain ⟨refused, more, -, accepted⟩ := h
    obtain ⟨u, c, shifts, done⟩ := accepted_iff.1 accepted
    obtain ⟨t, front, -⟩ := shifts.of_append
    cases h : t.finish with
    | ok c => exact absurd (accepted_iff.2 ⟨t, c, front, h⟩) refused
    | error cause =>
        exact ⟨cause, (ofAllTokens_of_shifts front).trans h, atEnd_of_finish h⟩

end Parser

end ChannelFilter
