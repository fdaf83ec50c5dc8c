import ChannelFilter.Proofs.FirstWrongToken

/-!
# A parser that is called again and again

A parser keeps its position and the number of open groups from one call to the next, whatever the
calls return. Each call moves that number by the opening parentheses that it keeps less the closing
ones. It keeps all the tokens that it takes, but for the last if that is the one it fails for: the
parenthesis of a group too many, or a token that is no right operand. While the tokens are taken
one by one, no closing parenthesis comes without an open group of the same call, and the limit is
never exceeded.

Hence a call whose condition is complete leaves the number as it was, also if tokens behind the
condition are refused, and any other call leaves it raised by the groups that it left open.
-/
namespace ChannelFilter

/-- Whether the cause is about the last of the tokens that were taken. A token that stands behind a
comparison operator is taken before it is found to be no operand; in any other place an unexpected
token is not taken. -/
def FilterError.refusesLast (taken : List Token) : FilterError → Bool
  | nestingTooDeep _ => true
  | unknownOperator _ => true
  | invalidNumber _ => true
  | unexpectedToken _ => taken.dropLast.getLast?.any (·.kind == .comparison)
  | _ => false

namespace Parser

variable {limit : Option Nat} {opened : Nat} {s t : State} {token : Token}
variable {tokens front rest : List Token} {cause : FilterError} {taken : Bool} {k : Nat}

inductive Call
  | lenient
  | strict
deriving DecidableEq, Repr

def call (parser : Parser) : Call → Except FilterError Condition × Parser
  | .lenient => parser.parse
  | .strict => parser.parseComplete

/-- The parser after some calls. -/
def afterCalls (parser : Parser) : List Call → Parser
  | [] => parser
  | call :: calls => (parser.call call).2.afterCalls calls

/-- The tokens that were taken from one parser to another. -/
def takenUpTo (parser next : Parser) : List Token :=
  parser.remaining.take (next.cursor.position - parser.cursor.position)

/-- The tokens that a call with this result kept of those that it took. -/
def kept (result : Except FilterError Condition) (taken : List Token) : List Token :=
  match result with
  | .ok _ => taken
  | .error cause => if cause.refusesLast taken then taken.dropLast else taken

/-- The tokens that a call keeps. -/
def keptBy (parser : Parser) (call : Call) : List Token :=
  kept (parser.call call).1 (takenUpTo parser (parser.call call).2)

/-- The expression was read to its end, whether or not the call accepts what follows it. -/
def IsRead (result : Except FilterError Condition) : Prop :=
  (∃ c, result = .ok c) ∨ ∃ value, result = .error (.trailingToken value)

/-- The position and the number of open groups of a parser are within their bounds. -/
structure Sound (tokens : List Token) (parser : Parser) : Prop where
  whole : parser.cursor.tokens = tokens
  inside : parser.cursor.position ≤ tokens.length
  admitted : parser.opened ≤ maxNesting

/-- The groups that are open after a call are those that were open before it and those that its
tokens opened and did not close. Behind each of these tokens the number is within its bounds. -/
structure Accounted (parser : Parser) (call : Call) : Prop where
  forward : parser.cursor.position ≤ (parser.call call).2.cursor.position
  balance : (parser.call call).2.opened + Token.countOf .closeParen (parser.keptBy call) =
    parser.opened + Token.countOf .openParen (parser.keptBy call)
  closesOpen : ∀ k, Token.countOf .closeParen ((parser.keptBy call).take k) ≤
    Token.countOf .openParen ((parser.keptBy call).take k)
  withinLimit : ∀ k, parser.opened + Token.countOf .openParen ((parser.keptBy call).take k) ≤
    maxNesting + Token.countOf .closeParen ((parser.keptBy call).take k)
  unchanged : IsRead (parser.call call).1 → (parser.call call).2.opened = parser.opened

theorem Shift.due_of_comparison (h : Shift limit opened s token t)
    (kind : token.kind = .comparison) :
    ∃ negated channel comparison, t.due = .operand negated channel comparison := by
  cases h with
  | comparison due _ known => exact ⟨_, _, _, rfl⟩
  | operand due known =>
      have operand := kind_of_operandOf known
      simp [kind] at operand
  | _ => simp_all

theorem Shift.kind_of_due {negated : Bool} {channel : String} {comparison : Comparison}
    (h : Shift limit opened s token t) (due : t.due = .operand negated channel comparison) :
    token.kind = .comparison := by
  cases h <;> simp_all [State.endFactor, State.openGroup, State.closeGroup]

theorem Shift.due_of_operand {negated : Bool} {channel : String} {comparison : Comparison}
    (h : Shift limit opened s token t) (due : s.due = .operand negated channel comparison) :
    t.due = .connective := by
  cases h <;> simp_all [State.endFactor]

/-- Where an operand is due, a comparison operator has just been taken. -/
theorem comparison_of_due_operand {negated : Bool} {channel : String} {comparison : Comparison}
    (shifts : Shifts limit opened .start front t)
    (due : t.due = .operand negated channel comparison) :
    front.getLast?.any (·.kind == .comparison) = true := by
  rcases List.eq_nil_or_concat front with rfl | ⟨before, last, rfl⟩
  · cases shifts
    cases due
  · rw [List.concat_eq_append] at shifts ⊢
    obtain ⟨u, -, final⟩ := shifts.of_append
    cases final with
    | cons shift none =>
        cases none
        simp [shift.kind_of_due due]

/-- Where a factor is due, the token in front of the last one is no comparison operator: the last
one would be its operand, and a connective would be due. -/
theorem no_comparison_of_due_factor {negated : Bool} (shifts : Shifts limit opened .start front t)
    (due : t.due = .factor negated) :
    front.dropLast.getLast?.any (·.kind == .comparison) = false := by
  rcases List.eq_nil_or_concat front with rfl | ⟨before, last, rfl⟩
  · rfl
  rw [List.concat_eq_append] at shifts ⊢
  rw [List.dropLast_concat]
  rcases List.eq_nil_or_concat before with rfl | ⟨before, operator, rfl⟩
  · rfl
  rw [List.concat_eq_append] at shifts ⊢
  obtain ⟨u, upTo, final⟩ := shifts.of_append
  obtain ⟨v, -, middle⟩ := upTo.of_append
  cases final with
  | cons second none =>
      cases none
      cases middle with
      | cons first none =>
          cases none
          by_cases kind : operator.kind = .comparison
          · obtain ⟨_, _, _, operand⟩ := first.due_of_comparison kind
            cases due.symm.trans (second.due_of_operand operand)
          · simp [kind]

theorem Rejection.refusesLast_eq (h : Rejection limit opened t token cause taken)
    (shifts : Shifts limit opened .start front t) (rest : List Token) :
    cause.refusesLast (front ++ (token :: rest).take taken.toNat) = taken := by
  cases h with
  | secondNegation due kind =>
      simpa [FilterError.refusesLast] using no_comparison_of_due_factor shifts due
  | tooDeep due kind full => rfl
  | literal due kind => rfl
  | noFactor due kind =>
      simpa [FilterError.refusesLast] using no_comparison_of_due_factor shifts due
  | noOperator due kind => rfl
  | unknownOperator due kind unknown => rfl
  | invalidNumber due kind invalid => rfl
  | noOperand due kind =>
      simpa [FilterError.refusesLast] using comparison_of_due_operand shifts due
  | insideGroup due inside kind => rfl

theorem not_refusesLast_of_atEnd (h : cause.AtEnd) (tokens : List Token) :
    cause.refusesLast tokens = false := by
  rcases h with rfl | rfl | ⟨expected, rfl⟩ <;> rfl

theorem takenUpTo_skip (parser : Parser) (count opened : Nat) :
    takenUpTo parser { cursor := parser.cursor.skip count, opened } =
      parser.remaining.take count := by
  simp [takenUpTo, Cursor.skip]

theorem kept_of_finish (t : State) (tokens : List Token) : kept t.finish tokens = tokens := by
  cases ends : t.finish with
  | ok c => rfl
  | error cause => simp [kept, not_refusesLast_of_atEnd (atEnd_of_finish ends)]

theorem Rejection.kept_eq (h : Rejection limit opened t token cause taken)
    (shifts : Shifts limit opened .start front t) (rest : List Token) :
    kept (.error cause) (front ++ (token :: rest).take taken.toNat) = front := by
  rw [kept, h.refusesLast_eq shifts rest]
  cases taken <;> simp

/-- The tokens that a run keeps are those that it shifted. -/
theorem Ending.kept_eq {outcome : Outcome} (h : Ending limit opened t rest outcome)
    (shifts : Shifts limit opened .start front t) :
    kept outcome.result (front ++ rest.take outcome.taken) = front := by
  cases h with
  | finish => simp [kept_of_finish]
  | stop => simp [kept]
  | reject rejection => exact rejection.kept_eq shifts _

theorem Ending.opened_eq {outcome : Outcome} (h : Ending limit opened t rest outcome) :
    outcome.opened = opened + t.groups.length := by
  cases h <;> rfl

theorem Ending.groups_of_isRead {outcome : Outcome} (h : Ending limit opened t rest outcome)
    (read : IsRead outcome.result) : t.groups = [] := by
  cases h with
  | finish =>
      rcases read with ⟨c, done⟩ | ⟨value, trailing⟩
      · exact (finish_eq_ok_iff.1 done).2.1
      · rcases atEnd_of_finish trailing with same | same | ⟨_, same⟩ <;> cases same
  | stop done _ => exact (finish_eq_ok_iff.1 done).2.1
  | reject rejection =>
      rcases read with ⟨c, ok⟩ | ⟨value, trailing⟩
      · cases ok
      · cases trailing
        cases rejection

/-- A lenient call shifts the tokens that it keeps and ends behind them. -/
theorem exists_kept_ending (parser : Parser) :
    ∃ front t rest outcome, kept parser.parse.1 (takenUpTo parser parser.parse.2) = front ∧
      parser.remaining = front ++ rest ∧
      Shifts (some maxNesting) parser.opened .start front t ∧
      Ending (some maxNesting) parser.opened t rest outcome ∧
      parser.parse = (outcome.result,
        { cursor := parser.cursor.skip (outcome.taken + front.length)
          opened := outcome.opened }) := by
  obtain ⟨front, t, rest, outcome, whole, shifts, ending, called⟩ := exists_call_ending parser
  have taken : takenUpTo parser parser.parse.2 = front ++ rest.take outcome.taken := by
    rw [called, takenUpTo_skip, whole, Nat.add_comm, List.take_length_add_append]
  refine ⟨front, t, rest, outcome, ?_, whole, shifts, ending, called⟩
  rw [taken, called]
  exact ending.kept_eq shifts

/-- The tokens that a lenient call keeps are shifted, and the groups of the state that they lead to
are left open. -/
theorem exists_kept_shifts (parser : Parser) :
    ∃ t, Shifts (some maxNesting) parser.opened .start
        (kept parser.parse.1 (takenUpTo parser parser.parse.2)) t ∧
      parser.parse.2.opened = parser.opened + t.groups.length ∧
      (IsRead parser.parse.1 → t.groups = []) := by
  obtain ⟨front, t, rest, outcome, same, -, shifts, ending, called⟩ := exists_kept_ending parser
  rw [same, called]
  exact ⟨t, shifts, ending.opened_eq, ending.groups_of_isRead⟩

theorem parse_moves (parser : Parser) :
    parser.parse.2.cursor.tokens = parser.cursor.tokens ∧
      parser.cursor.position ≤ parser.parse.2.cursor.position ∧
      parser.parse.2.cursor.position ≤ parser.cursor.position + parser.remaining.length := by
  obtain ⟨front, t, rest, outcome, whole, -, ending, called⟩ := exists_call_ending parser
  have atMost : outcome.taken ≤ rest.length := by
    cases ending with
    | finish => exact Nat.le_refl 0
    | stop => exact Nat.zero_le _
    | @reject token rest cause taken _ => cases taken <;> simp
  rw [called, whole, List.length_append]
  refine ⟨rfl, ?_, ?_⟩ <;> simp only [Cursor.skip] <;> omega

theorem call_snd (parser : Parser) (call : Call) : (parser.call call).2 = parser.parse.2 := by
  cases call with
  | lenient => rfl
  | strict => exact parseComplete_snd parser

theorem parseComplete_fst (parser : Parser) :
    parser.parseComplete.1 = parser.parse.1 ∨
      ∃ c value, parser.parse.1 = .ok c ∧
        parser.parseComplete.1 = .error (.trailingToken value) := by
  unfold parseComplete
  split
  · next c next called =>
    rw [called]
    cases next.remaining with
    | nil => exact .inl rfl
    | cons token rest => exact .inr ⟨c, token.value, rfl, rfl⟩
  · next cause next called => exact .inl (by rw [called])

theorem keptBy_eq (parser : Parser) (call : Call) :
    parser.keptBy call = kept parser.parse.1 (takenUpTo parser parser.parse.2) := by
  rw [keptBy, call_snd]
  cases call with
  | lenient => rfl
  | strict =>
      rw [Parser.call]
      rcases parser.parseComplete_fst with same | ⟨c, value, ok, trailing⟩
      · rw [same]
      · rw [ok, trailing]
        rfl

theorem isRead_call {parser : Parser} {call : Call} (h : IsRead (parser.call call).1) :
    IsRead parser.parse.1 := by
  cases call with
  | lenient => exact h
  | strict =>
      rw [Parser.call] at h
      rcases parser.parseComplete_fst with same | ⟨c, value, ok, trailing⟩
      · rwa [same] at h
      · exact .inl ⟨c, ok⟩

theorem Shifts.closes_le_opens (h : Shifts limit opened .start tokens t) (k : Nat) :
    Token.countOf .closeParen (tokens.take k) ≤ Token.countOf .openParen (tokens.take k) := by
  rw [← List.take_append_drop k tokens] at h
  obtain ⟨u, front, -⟩ := h.of_append
  have counted := front.count_groups
  simp only [State.start, List.length_nil] at counted
  omega

theorem Shifts.opens_le_limit (h : Shifts (some maxNesting) opened .start tokens t)
    (admitted : opened ≤ maxNesting) (k : Nat) :
    opened + Token.countOf .openParen (tokens.take k) ≤
      maxNesting + Token.countOf .closeParen (tokens.take k) := by
  rw [← List.take_append_drop k tokens] at h
  obtain ⟨u, front, -⟩ := h.of_append
  have counted := front.count_groups
  have fits := front.groups_le admitted
  simp only [State.start, List.length_nil] at counted
  omega

theorem Sound.accounted {parser : Parser} (h : Sound tokens parser) (call : Call) :
    Accounted parser call := by
  obtain ⟨t, shifts, opened, closed⟩ := exists_kept_shifts parser
  rw [← keptBy_eq parser call] at shifts
  have after : (parser.call call).2 = parser.parse.2 := parser.call_snd call
  refine ⟨?_, ?_, shifts.closes_le_opens, shifts.opens_le_limit h.admitted, ?_⟩
  · rw [after]
    exact parser.parse_moves.2.1
  · have counted := shifts.count_groups
    simp only [State.start, List.length_nil] at counted
    rw [after]
    omega
  · intro read
    rw [after, opened, closed (isRead_call read)]
    rfl

theorem Sound.call {parser : Parser} (h : Sound tokens parser) (call : Call) :
    Sound tokens (parser.call call).2 := by
  obtain ⟨t, shifts, opened, -⟩ := exists_kept_shifts parser
  obtain ⟨same, -, atMost⟩ := parser.parse_moves
  rw [call_snd]
  refine ⟨same.trans h.whole, ?_, ?_⟩
  · have left : parser.remaining.length = tokens.length - parser.cursor.position := by
      simp [remaining, Cursor.remaining, h.whole]
    have inside := h.inside
    omega
  · rw [opened]
    exact shifts.groups_le h.admitted

theorem sound_ofTokens (tokens : List Token) : Sound tokens (ofTokens tokens) :=
  ⟨rfl, Nat.zero_le _, Nat.zero_le _⟩

theorem Sound.afterCalls {parser : Parser} (h : Sound tokens parser) (calls : List Call) :
    Sound tokens (parser.afterCalls calls) := by
  induction calls generalizing parser with
  | nil => exact h
  | cons call calls ih => exact ih (h.call call)

/-- After any calls of a parser, its position and its open groups are within bounds, and the next
call accounts for the groups by the tokens that it keeps. -/
theorem calls_account_for_groups (tokens : List Token) (calls : List Call) (call : Call) :
    Sound tokens ((ofTokens tokens).afterCalls calls) ∧
      Accounted ((ofTokens tokens).afterCalls calls) call := by
  have sound := (sound_ofTokens tokens).afterCalls calls
  exact ⟨sound, sound.accounted call⟩

/-- The tokens of `(a = (` and behind them those of `(b is null) c`. -/
def reopenedSample : List Token :=
  [⟨.openParen, "("⟩, ⟨.channel, "a"⟩, ⟨.comparison, "="⟩, ⟨.openParen, "("⟩,
   ⟨.openParen, "("⟩, ⟨.channel, "b"⟩, ⟨.unary, "is null"⟩, ⟨.closeParen, ")"⟩, ⟨.channel, "c"⟩]

/-- The parenthesis that is refused as an operand is taken, but it opens no group. The first call
leaves the group in front of it open, and the second, which closes its own, leaves it so. -/
theorem calls_account_for_groups_sample :
    (ofTokens reopenedSample).keptBy .lenient = reopenedSample.take 3 ∧
      ((ofTokens reopenedSample).call .lenient).2.cursor.position = 4 ∧
      ((ofTokens reopenedSample).call .lenient).2.opened = 1 ∧
      (((ofTokens reopenedSample).afterCalls [.lenient]).call .strict).1 =
        .error (.trailingToken "c") ∧
      ((ofTokens reopenedSample).afterCalls [.lenient, .strict]).opened = 1 := by
  have first := (calls_account_for_groups reopenedSample [] .lenient).2
  have second := (calls_account_for_groups reopenedSample [.lenient] .strict).2
  have kept : (ofTokens reopenedSample).keptBy .lenient = reopenedSample.take 3 := rfl
  have opened : ((ofTokens reopenedSample).call .lenient).2.opened = 1 := by
    have balance := first.balance
    rw [afterCalls, kept] at balance
    simpa [reopenedSample, Token.countOf, ofTokens] using balance
  have trailing : (((ofTokens reopenedSample).afterCalls [.lenient]).call .strict).1 =
      .error (.trailingToken "c") := rfl
  have unchanged := second.unchanged (.inr ⟨"c", trailing⟩)
  exact ⟨kept, rfl, opened, trailing, unchanged.trans opened⟩

end Parser

end ChannelFilter
