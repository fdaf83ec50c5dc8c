import ChannelFilter.Parser.Run

/-!
# Shifted tokens

A run shifts tokens as long as it can. What it ends with is decided by the state that the shifts
lead to and by the token in front of which they end, if there is one. Here it is said once what a
single shift does, when the reader stops and what it rejects. A run is then a list of shifts with
an ending behind it, and a parser that has not been called before succeeds exactly if the shifts
lead to a state in which the condition may end.
-/
namespace ChannelFilter.Parser

variable {limit : Option Nat} {opened : Nat} {s t u : State} {token : Token}
variable {tokens more : List Token} {c : Condition}

/-- What the shift of a token does, by what is due and by the kind of the token. -/
inductive Shift (limit : Option Nat) (opened : Nat) (s : State) (token : Token) : State → Prop
  | negation (due : s.due = .factor false) (kind : token.kind = .not) :
      Shift limit opened s token { s with due := .factor true }
  | openGroup {negated : Bool} (due : s.due = .factor negated) (kind : token.kind = .openParen)
      (room : limitReached limit (opened + s.groups.length) = none) :
      Shift limit opened s token (s.openGroup negated)
  | channel {negated : Bool} (due : s.due = .factor negated) (kind : token.kind = .channel) :
      Shift limit opened s token { s with due := .operator negated token.value }
  | comparison {negated : Bool} {channel : String} {comparison : Comparison}
      (due : s.due = .operator negated channel) (kind : token.kind = .comparison)
      (known : Catalog.resolve token = .ok comparison) :
      Shift limit opened s token { s with due := .operand negated channel comparison }
  | unary {negated : Bool} {channel : String} {comparison : Comparison}
      (due : s.due = .operator negated channel) (kind : token.kind = .unary)
      (known : Catalog.resolve token = .ok comparison) :
      Shift limit opened s token
        (s.endFactor negated (.predicate { channel, comparison, operand := .null }))
  | operand {negated : Bool} {channel : String} {comparison : Comparison} {operand : Operand}
      (due : s.due = .operand negated channel comparison) (known : operandOf token = .ok operand) :
      Shift limit opened s token
        (s.endFactor negated (.predicate { channel, comparison, operand }))
  | and (due : s.due = .connective) (kind : token.kind = .and) :
      Shift limit opened s token { s with due := .factor false }
  | or (due : s.due = .connective) (kind : token.kind = .or) :
      Shift limit opened s token { s with level := s.level.endTerm, due := .factor false }
  | closeGroup {group : Group} {groups : List Group} (due : s.due = .connective)
      (inside : s.groups = group :: groups) (kind : token.kind = .closeParen) :
      Shift limit opened s token (s.closeGroup group groups)

theorem Shift.step_eq (h : Shift limit opened s token t) :
    s.step limit opened token = .shift t := by
  cases h with
  | negation due kind => simp [State.step, State.stepFactor, due, kind]
  | openGroup due kind room => simp [State.step, State.stepFactor, due, kind, room]
  | channel due kind => simp [State.step, State.stepFactor, due, kind]
  | comparison due kind known =>
      simp [State.step, State.stepOperator, operatorKinds, due, kind, known]
  | unary due kind known => simp [State.step, State.stepOperator, operatorKinds, due, kind, known]
  | operand due known => simp [State.step, State.stepOperand, due, known]
  | and due kind => simp [State.step, State.stepConnective, due, kind]
  | or due kind => simp [State.step, State.stepConnective, due, kind]
  | closeGroup due inside kind => simp [State.step, State.stepConnective, due, inside, kind]

theorem shift_of_stepFactor {negated : Bool} (due : s.due = .factor negated)
    (h : s.stepFactor limit opened negated token = .shift t) : Shift limit opened s token t := by
  unfold State.stepFactor at h
  split at h
  · next kind =>
    cases negated with
    | false => cases h; exact .negation due kind
    | true => cases h
  · next kind =>
    split at h
    · cases h
    · next room => cases h; exact .openGroup due kind room
  · next kind => cases h; exact .channel due kind
  all_goals cases h

theorem shift_of_stepOperator {negated : Bool} {channel : String}
    (due : s.due = .operator negated channel)
    (h : s.stepOperator negated channel token = .shift t) : Shift limit opened s token t := by
  unfold State.stepOperator at h
  split at h
  · next member =>
    split at h
    · next comparison known =>
      split at h
      · next kind => cases h; exact .comparison due kind known
      · next other =>
        have kind : token.kind = .unary := by
          simpa [operatorKinds, other] using member
        cases h
        exact .unary due kind known
    · cases h
  · cases h

theorem shift_of_stepConnective (due : s.due = .connective)
    (h : s.stepConnective token = .shift t) : Shift limit opened s token t := by
  unfold State.stepConnective at h
  split at h
  · next kind => cases h; exact .and due kind
  · next kind => cases h; exact .or due kind
  · next kind inside => cases h; exact .closeGroup due inside kind
  all_goals cases h

theorem step_eq_shift_iff :
    s.step limit opened token = .shift t ↔ Shift limit opened s token t := by
  refine ⟨fun h => ?_, Shift.step_eq⟩
  unfold State.step at h
  split at h
  · next due => exact shift_of_stepFactor due h
  · next due => exact shift_of_stepOperator due h
  · next negated channel comparison due =>
    unfold State.stepOperand at h
    split at h
    · next known => cases h; exact .operand due known
    · cases h
  · next due => exact shift_of_stepConnective due h

theorem finish_eq_ok_iff :
    s.finish = .ok c ↔ s.due = .connective ∧ s.groups = [] ∧ s.level.condition = c := by
  unfold State.finish
  split <;> simp_all

theorem stepConnective_eq_stop_iff :
    s.stepConnective token = .stop c ↔
      s.groups = [] ∧ s.level.condition = c ∧ token.kind ≠ .and ∧ token.kind ≠ .or := by
  unfold State.stepConnective
  split <;> simp_all

/-- The reader stops where the condition may end, in front of a token that cannot go on with
it. -/
theorem step_eq_stop_iff :
    s.step limit opened token = .stop c ↔
      s.finish = .ok c ∧ token.kind ≠ .and ∧ token.kind ≠ .or := by
  rw [finish_eq_ok_iff]
  unfold State.step
  split
  · next negated due =>
    have never : s.stepFactor limit opened negated token ≠ .stop c := by
      unfold State.stepFactor
      split <;> try split
      all_goals simp
    simp [due, never]
  · next negated channel due =>
    have never : s.stepOperator negated channel token ≠ .stop c := by
      unfold State.stepOperator
      split <;> try split <;> try split
      all_goals simp
    simp [due, never]
  · next negated channel comparison due =>
    have never : s.stepOperand negated channel comparison token ≠ .stop c := by
      unfold State.stepOperand
      split <;> simp
    simp [due, never]
  · next due => simp [due, stepConnective_eq_stop_iff, and_assoc]

/-- The state that the shifts of all the tokens lead to. -/
inductive Shifts (limit : Option Nat) (opened : Nat) : State → List Token → State → Prop
  | nil (s : State) : Shifts limit opened s [] s
  | cons {s t u : State} {token : Token} {tokens : List Token} :
      Shift limit opened s token t → Shifts limit opened t tokens u →
      Shifts limit opened s (token :: tokens) u

theorem Shifts.single (h : Shift limit opened s token t) : Shifts limit opened s [token] t :=
  .cons h (.nil t)

theorem Shifts.append (h : Shifts limit opened s tokens t) (k : Shifts limit opened t more u) :
    Shifts limit opened s (tokens ++ more) u := by
  induction h with
  | nil s => exact k
  | cons first _ ih => exact .cons first (ih k)

/-- The tokens alone decide which state their shifts lead to. -/
theorem Shifts.unique (h : Shifts limit opened s tokens t) (k : Shifts limit opened s tokens u) :
    t = u := by
  induction h with
  | nil s =>
      cases k
      rfl
  | cons first _ ih =>
      cases k with
      | cons other rest =>
          cases first.step_eq.symm.trans other.step_eq
          exact ih rest

theorem Shifts.of_append (h : Shifts limit opened s (tokens ++ more) u) :
    ∃ t, Shifts limit opened s tokens t ∧ Shifts limit opened t more u := by
  induction tokens generalizing s with
  | nil => exact ⟨s, .nil s, h⟩
  | cons token tokens ih =>
      cases h with
      | cons first rest =>
          obtain ⟨t, left, right⟩ := ih rest
          exact ⟨t, .cons first left, right⟩

theorem run_shifts (h : Shifts limit opened s tokens t) (more : List Token) :
    run limit opened s (tokens ++ more) =
      { run limit opened t more with
        taken := (run limit opened t more).taken + tokens.length } := by
  induction h with
  | nil s => rfl
  | cons first _ ih =>
      rw [List.cons_append, run, first.step_eq]
      simp only [ih, Outcome.afterToken, List.length_cons, Nat.add_assoc]

/-- What the rejection of a token is for, and whether the token counts as taken. -/
inductive Rejection (limit : Option Nat) (opened : Nat) (s : State) (token : Token) :
    FilterError → Bool → Prop
  | secondNegation (due : s.due = .factor true) (kind : token.kind = .not) :
      Rejection limit opened s token (.unexpectedToken token.value) false
  | tooDeep {negated : Bool} {max : Nat} (due : s.due = .factor negated)
      (kind : token.kind = .openParen)
      (full : limitReached limit (opened + s.groups.length) = some max) :
      Rejection limit opened s token (.nestingTooDeep max) true
  | literal {negated : Bool} (due : s.due = .factor negated)
      (kind : token.kind = .string ∨ token.kind = .number) :
      Rejection limit opened s token (.unexpectedLeftOperand token) false
  | noFactor {negated : Bool} (due : s.due = .factor negated)
      (kind : token.kind ∈ [.comparison, .unary, .and, .or, .closeParen]) :
      Rejection limit opened s token (.unexpectedToken token.value) false
  | noOperator {negated : Bool} {channel : String} (due : s.due = .operator negated channel)
      (kind : token.kind ∉ operatorKinds) :
      Rejection limit opened s token (.unexpectedTokenKind operatorKinds token) false
  | unknownOperator {negated : Bool} {channel : String} (due : s.due = .operator negated channel)
      (kind : token.kind ∈ operatorKinds)
      (unknown : Catalog.resolve token = .error (.unknownOperator token.value)) :
      Rejection limit opened s token (.unknownOperator token.value) true
  | invalidNumber {negated : Bool} {channel : String} {comparison : Comparison}
      (due : s.due = .operand negated channel comparison) (kind : token.kind = .number)
      (invalid : Number.read? token.value = none) :
      Rejection limit opened s token (.invalidNumber token.value) true
  | noOperand {negated : Bool} {channel : String} {comparison : Comparison}
      (due : s.due = .operand negated channel comparison)
      (kind : token.kind ∉ [.channel, .string, .number]) :
      Rejection limit opened s token (.unexpectedToken token.value) true
  | insideGroup {group : Group} {groups : List Group} (due : s.due = .connective)
      (inside : s.groups = group :: groups) (kind : token.kind ∉ [.and, .or, .closeParen]) :
      Rejection limit opened s token (.unexpectedTokenKind groupEndKinds token) false

theorem resolve_eq_error {cause : FilterError} (h : Catalog.resolve token = .error cause) :
    cause = .unknownOperator token.value := by
  unfold Catalog.resolve at h
  split at h
  · split at h <;> cases h
    rfl
  · cases h
    rfl

section Rejected
variable {cause : FilterError} {taken : Bool}

theorem rejection_of_stepFactor {negated : Bool} (due : s.due = .factor negated)
    (h : s.stepFactor limit opened negated token = .reject cause taken) :
    Rejection limit opened s token cause taken := by
  unfold State.stepFactor at h
  split at h
  · next kind =>
    cases negated with
    | false => cases h
    | true => cases h; exact .secondNegation due kind
  · next kind =>
    split at h
    · next full => cases h; exact .tooDeep due kind full
    · cases h
  · cases h
  · next kind => cases h; exact .literal due (.inl kind)
  · next kind => cases h; exact .literal due (.inr kind)
  · next =>
    cases h
    refine .noFactor due ?_
    cases kind : token.kind <;> simp_all

theorem rejection_of_stepOperator {negated : Bool} {channel : String}
    (due : s.due = .operator negated channel)
    (h : s.stepOperator negated channel token = .reject cause taken) :
    Rejection limit opened s token cause taken := by
  unfold State.stepOperator at h
  split at h
  · next kind =>
    split at h
    · split at h <;> cases h
    · next unknown =>
      cases h
      cases resolve_eq_error unknown
      exact .unknownOperator due kind unknown
  · next kind => cases h; exact .noOperator due kind

theorem rejection_of_stepOperand {negated : Bool} {channel : String} {comparison : Comparison}
    (due : s.due = .operand negated channel comparison)
    (h : s.stepOperand negated channel comparison token = .reject cause taken) :
    Rejection limit opened s token cause taken := by
  unfold State.stepOperand at h
  split at h
  · cases h
  · next bad =>
    cases h
    unfold operandOf at bad
    split at bad
    · cases bad
    · cases bad
    · next kind =>
      split at bad
      · cases bad
      · next invalid => cases bad; exact .invalidNumber due kind invalid
    · cases bad
      refine .noOperand due ?_
      cases kind : token.kind <;> simp_all

theorem rejection_of_stepConnective (due : s.due = .connective)
    (h : s.stepConnective token = .reject cause taken) :
    Rejection limit opened s token cause taken := by
  unfold State.stepConnective at h
  split at h
  · cases h
  · cases h
  · cases h
  · cases h
  · next group groups inside _ _ _ =>
    cases h
    refine .insideGroup due inside ?_
    cases kind : token.kind <;> simp_all

theorem rejection_of_step (h : s.step limit opened token = .reject cause taken) :
    Rejection limit opened s token cause taken := by
  unfold State.step at h
  split at h
  · next due => exact rejection_of_stepFactor due h
  · next due => exact rejection_of_stepOperator due h
  · next due => exact rejection_of_stepOperand due h
  · next due => exact rejection_of_stepConnective due h

theorem Rejection.step_eq (h : Rejection limit opened s token cause taken) :
    s.step limit opened token = .reject cause taken := by
  cases h with
  | secondNegation due kind => simp [State.step, State.stepFactor, due, kind]
  | tooDeep due kind full => simp [State.step, State.stepFactor, due, kind, full]
  | literal due kind =>
      rcases kind with kind | kind <;> simp [State.step, State.stepFactor, due, kind]
  | noFactor due kind =>
      simp only [State.step, due, State.stepFactor]
      split <;> simp_all
  | noOperator due kind => simp [State.step, State.stepOperator, due, kind]
  | unknownOperator due kind unknown =>
      simp [State.step, State.stepOperator, due, kind, unknown]
  | invalidNumber due kind invalid =>
      simp [State.step, State.stepOperand, operandOf, due, kind, invalid]
  | noOperand due kind =>
      have bad : operandOf token = .error (.unexpectedToken token.value) := by
        unfold operandOf
        split <;> simp_all
      simp [State.step, State.stepOperand, due, bad]
  | insideGroup due inside kind =>
      simp only [State.step, due, State.stepConnective, inside]
      split <;> simp_all

end Rejected

/-- How a run ends in a state without another shift. -/
inductive Ending (limit : Option Nat) (opened : Nat) (s : State) : List Token → Outcome → Prop
  | finish :
      Ending limit opened s []
        { result := s.finish, taken := 0, opened := opened + s.groups.length }
  | stop {token : Token} {rest : List Token} {c : Condition} (done : s.finish = .ok c)
      (next : token.kind ≠ .and ∧ token.kind ≠ .or) :
      Ending limit opened s (token :: rest)
        { result := .ok c, taken := 0, opened := opened + s.groups.length }
  | reject {token : Token} {rest : List Token} {cause : FilterError} {taken : Bool}
      (rejection : Rejection limit opened s token cause taken) :
      Ending limit opened s (token :: rest)
        { result := .error cause, taken := taken.toNat, opened := opened + s.groups.length }

/-- Every run shifts the front of its tokens and ends behind it. -/
theorem exists_ending (limit : Option Nat) (opened : Nat) (s : State) (tokens : List Token) :
    ∃ front t rest outcome, tokens = front ++ rest ∧ Shifts limit opened s front t ∧
      Ending limit opened t rest outcome ∧
      run limit opened s tokens = { outcome with taken := outcome.taken + front.length } := by
  induction tokens generalizing s with
  | nil => exact ⟨[], s, [], _, rfl, .nil s, .finish, rfl⟩
  | cons token tokens ih =>
      cases h : s.step limit opened token with
      | shift t =>
          obtain ⟨front, u, rest, outcome, rfl, shifts, ending, hrun⟩ := ih t
          refine ⟨token :: front, u, rest, outcome, rfl, .cons (step_eq_shift_iff.1 h) shifts,
            ending, ?_⟩
          simp only [run, h, hrun, Outcome.afterToken, List.length_cons, Nat.add_assoc]
      | stop c =>
          obtain ⟨done, next⟩ := step_eq_stop_iff.1 h
          exact ⟨[], s, token :: tokens, _, rfl, .nil s, .stop done next, by simp [run, h]⟩
      | reject cause taken =>
          exact ⟨[], s, token :: tokens, _, rfl, .nil s, .reject (rejection_of_step h),
            by simp [run, h]⟩

theorem run_of_finish {front rest : List Token} (h : Shifts limit opened s front t)
    (done : t.finish = .ok c)
    (next : ∀ token ∈ rest.head?, token.kind ≠ .and ∧ token.kind ≠ .or) :
    run limit opened s (front ++ rest) = { result := .ok c, taken := front.length, opened } := by
  have closed := (finish_eq_ok_iff.1 done).2.1
  rw [run_shifts h]
  cases rest with
  | nil => simp [run, done, closed]
  | cons token rest =>
      have stop : t.step limit opened token = .stop c := step_eq_stop_iff.2 ⟨done, next token rfl⟩
      simp [run, stop, closed]

theorem exists_finish_of_run (h : (run limit opened s tokens).result = .ok c) :
    ∃ front t rest, tokens = front ++ rest ∧ Shifts limit opened s front t ∧ t.finish = .ok c ∧
      ∀ token ∈ rest.head?, token.kind ≠ .and ∧ token.kind ≠ .or := by
  obtain ⟨front, t, rest, outcome, rfl, shifts, ending, hrun⟩ := exists_ending limit opened s tokens
  rw [hrun] at h
  cases ending with
  | finish => exact ⟨front, t, [], rfl, shifts, h, by simp⟩
  | stop done next =>
      cases h
      exact ⟨front, t, _, rfl, shifts, done, by simpa using next⟩
  | reject => cases h

theorem parse_ofTokens (tokens : List Token) :
    (ofTokens tokens).parse =
      ((run (some maxNesting) 0 .start tokens).result,
        { cursor := { tokens, position := (run (some maxNesting) 0 .start tokens).taken }
          opened := (run (some maxNesting) 0 .start tokens).opened }) := by
  simp [parse, parseWithin, ofTokens, remaining, Cursor.start, Cursor.remaining, Cursor.skip]

/-- Every call shifts the front of the tokens that are left and ends behind it. -/
theorem exists_call_ending (parser : Parser) :
    ∃ front t rest outcome, parser.remaining = front ++ rest ∧
      Shifts (some maxNesting) parser.opened .start front t ∧
      Ending (some maxNesting) parser.opened t rest outcome ∧
      parser.parse = (outcome.result,
        { cursor := parser.cursor.skip (outcome.taken + front.length)
          opened := outcome.opened }) := by
  obtain ⟨front, t, rest, outcome, whole, shifts, ending, hrun⟩ :=
    exists_ending (some maxNesting) parser.opened .start parser.remaining
  refine ⟨front, t, rest, outcome, whole, shifts, ending, ?_⟩
  simp only [parse, parseWithin, hrun]

theorem remaining_parse_ofTokens (tokens : List Token) :
    (ofTokens tokens).parse.2.remaining =
      tokens.drop (run (some maxNesting) 0 .start tokens).taken := by
  rw [parse_ofTokens]
  rfl

/-- A call on a new parser shifts the front of the tokens. What it ends with there is its result,
and the tokens behind that are left. -/
theorem exists_parse_ending (tokens : List Token) :
    ∃ front t rest outcome, tokens = front ++ rest ∧ Shifts (some maxNesting) 0 .start front t ∧
      Ending (some maxNesting) 0 t rest outcome ∧
      (ofTokens tokens).parse.1 = outcome.result ∧
      (ofTokens tokens).parse.2.remaining = rest.drop outcome.taken := by
  obtain ⟨front, t, rest, outcome, rfl, shifts, ending, hrun⟩ :=
    exists_ending (some maxNesting) 0 .start tokens
  refine ⟨front, t, rest, outcome, rfl, shifts, ending, ?_, ?_⟩
  · rw [parse_ofTokens, hrun]
  · rw [remaining_parse_ofTokens, hrun, Nat.add_comm, List.drop_length_add_append]

/-- A lenient call succeeds where the condition may end and does not go on. -/
theorem ofTokens_eq_ok_iff :
    Condition.ofTokens tokens = .ok c ↔
      ∃ front t rest, tokens = front ++ rest ∧ Shifts (some maxNesting) 0 .start front t ∧
        t.finish = .ok c ∧ ∀ token ∈ rest.head?, token.kind ≠ .and ∧ token.kind ≠ .or := by
  rw [Condition.ofTokens, parse_ofTokens]
  constructor
  · exact exists_finish_of_run
  · intro h
    obtain ⟨front, t, rest, rfl, shifts, done, next⟩ := h
    rw [run_of_finish shifts done next]

theorem parseComplete_snd (parser : Parser) : parser.parseComplete.2 = parser.parse.2 := by
  unfold parseComplete
  split <;> next called => rw [called]

theorem ofAllTokens_of_ok (h : Condition.ofTokens tokens = .ok c) :
    Condition.ofAllTokens tokens =
      refuseTrailing c (ofTokens tokens).parse.2.remaining := by
  rw [Condition.ofTokens] at h
  unfold Condition.ofAllTokens parseComplete
  split
  · next d next called =>
    rw [called] at h ⊢
    cases h
    rfl
  · next cause next called =>
    rw [called] at h
    cases h

theorem ofAllTokens_of_error {cause : FilterError} (h : Condition.ofTokens tokens = .error cause) :
    Condition.ofAllTokens tokens = .error cause := by
  rw [Condition.ofTokens] at h
  unfold Condition.ofAllTokens parseComplete
  split
  · next d next called =>
    rw [called] at h
    cases h
  · next other next called =>
    rw [called] at h
    cases h
    rfl

theorem ofAllTokens_of_shifts (h : Shifts (some maxNesting) 0 .start tokens t) :
    Condition.ofAllTokens tokens = t.finish := by
  have hrun := run_shifts h []
  simp only [List.append_nil, run] at hrun
  rw [Condition.ofAllTokens, parseComplete, parse_ofTokens, hrun]
  cases t.finish with
  | ok c => simp [remaining, Cursor.remaining, refuseTrailing]
  | error cause => rfl

/-- What makes a strict call fail: the end of the tokens, a token that is rejected, or one behind
the condition. -/
inductive Failure : List Token → FilterError → Prop
  | atEnd {tokens : List Token} {t : State} {cause : FilterError}
      (shifts : Shifts (some maxNesting) 0 .start tokens t) (early : t.finish = .error cause) :
      Failure tokens cause
  | rejected {front rest : List Token} {t : State} {token : Token} {cause : FilterError}
      {taken : Bool} (shifts : Shifts (some maxNesting) 0 .start front t)
      (rejection : Rejection (some maxNesting) 0 t token cause taken) :
      Failure (front ++ token :: rest) cause
  | trailing {front rest : List Token} {t : State} {token : Token} {c : Condition}
      (shifts : Shifts (some maxNesting) 0 .start front t) (done : t.finish = .ok c)
      (next : token.kind ≠ .and ∧ token.kind ≠ .or) :
      Failure (front ++ token :: rest) (.trailingToken token.value)

/-- A strict call succeeds with the condition that all the tokens together lead to, or there is a
failure. -/
theorem ofAllTokens_cases (tokens : List Token) :
    (∃ t c, Shifts (some maxNesting) 0 .start tokens t ∧ t.finish = .ok c ∧
      Condition.ofAllTokens tokens = .ok c) ∨
    ∃ cause, Failure tokens cause ∧ Condition.ofAllTokens tokens = .error cause := by
  obtain ⟨front, t, rest, outcome, rfl, shifts, ending, hrun⟩ :=
    exists_ending (some maxNesting) 0 .start tokens
  cases ending with
  | finish =>
      rw [List.append_nil, ofAllTokens_of_shifts shifts]
      cases h : t.finish with
      | ok c => exact .inl ⟨t, c, shifts, h, rfl⟩
      | error cause => exact .inr ⟨cause, .atEnd shifts h, rfl⟩
  | stop done next =>
      refine .inr ⟨_, .trailing shifts done next, ?_⟩
      rw [Condition.ofAllTokens, parseComplete, parse_ofTokens, hrun]
      simp [remaining, Cursor.remaining, refuseTrailing]
  | reject rejection =>
      refine .inr ⟨_, .rejected shifts rejection, ?_⟩
      rw [Condition.ofAllTokens, parseComplete, parse_ofTokens, hrun]

theorem ofAllTokens_eq_ok_iff :
    Condition.ofAllTokens tokens = .ok c ↔
      ∃ t, Shifts (some maxNesting) 0 .start tokens t ∧ t.finish = .ok c := by
  constructor
  · intro h
    rcases ofAllTokens_cases tokens with ⟨t, d, shifts, done, hok⟩ | ⟨cause, -, herror⟩
    · exact ⟨t, shifts, done.trans (hok.symm.trans h)⟩
    · cases h.symm.trans herror
  · intro h
    obtain ⟨t, shifts, done⟩ := h
    exact (ofAllTokens_of_shifts shifts).trans done

end ChannelFilter.Parser
