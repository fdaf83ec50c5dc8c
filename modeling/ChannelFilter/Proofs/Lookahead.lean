import ChannelFilter.Proofs.RepeatedCalls

/-!
# One token of lookahead

A step looks at one token, and a run ends with the first step that shifts nothing. What a run does
is therefore decided by the tokens that it takes and by one more behind them, if there is one. At
the end of the tokens that one is missing, so other tokens that agree up to there are the same
tokens. A strict call looks at no other token than that one either: it is the token that is refused
for standing behind the condition.

Hence two parsers with the same number of open groups fare the same, wherever they stand, if the
tokens in front of them agree that far.
-/
namespace ChannelFilter.Parser

variable {limit : Option Nat} {opened n : Nat} {s : State} {tokens others : List Token}
variable {parser other : Parser}

/-- A run looks at one token more than it takes. -/
theorem run_eq_of_take_eq
    (agree : others.take ((run limit opened s tokens).taken + 1) =
      tokens.take ((run limit opened s tokens).taken + 1)) :
    run limit opened s others = run limit opened s tokens := by
  induction tokens generalizing s others with
  | nil =>
      -- One more token than none is asked for, and there is none.
      have nothing : others = [] := by simpa [run] using agree
      rw [nothing]
  | cons token tokens ih =>
      cases others with
      | nil => simp at agree
      | cons first others =>
          rw [List.take_succ_cons, List.take_succ_cons] at agree
          obtain ⟨rfl, rest⟩ := List.cons.inj agree
          cases step : s.step limit opened first with
          | shift t =>
              have taken : (run limit opened s (first :: tokens)).taken =
                  (run limit opened t tokens).taken + 1 := by
                simp only [run, step, Outcome.afterToken]
              rw [taken] at rest
              simp only [run, step, ih rest]
          | stop c => simp only [run, step]
          | reject cause taken => simp only [run, step]

theorem head?_drop_of_take_eq (agree : others.take (n + 1) = tokens.take (n + 1)) :
    (others.drop n).head? = (tokens.drop n).head? := by
  have behind : (others.take (n + 1))[n]? = (tokens.take (n + 1))[n]? := by rw [agree]
  simpa [List.head?_drop, List.getElem?_take] using behind

theorem remaining_skip (parser : Parser) (count opened : Nat) :
    remaining { cursor := parser.cursor.skip count, opened } = parser.remaining.drop count := by
  simp only [remaining, Cursor.remaining, Cursor.skip, List.drop_drop]

/-- What a lenient call that takes `n` tokens tells another parser, whose tokens agree with it up
to the one behind those. -/
theorem parse_of_take_eq (sameOpened : other.opened = parser.opened)
    (taken : parser.parse.2.cursor.position = parser.cursor.position + n)
    (agree : other.remaining.take (n + 1) = parser.remaining.take (n + 1)) :
    other.parse = (parser.parse.1,
      { cursor := other.cursor.skip n, opened := parser.parse.2.opened }) := by
  have count : (run (some maxNesting) parser.opened .start parser.remaining).taken = n :=
    Nat.add_left_cancel taken
  subst count
  have same := run_eq_of_take_eq agree
  simp only [parse, parseWithin, sameOpened, same]

theorem refuseTrailing_congr (c : Condition) (heads : others.head? = tokens.head?) :
    refuseTrailing c others = refuseTrailing c tokens := by
  cases tokens with
  | nil =>
      have nothing : others = [] := by simpa using heads
      rw [nothing]
  | cons token tokens =>
      obtain ⟨rest, rfl⟩ := List.head?_eq_some_iff.1 heads
      rfl

theorem parseComplete_fst_congr (results : other.parse.1 = parser.parse.1)
    (heads : other.parse.2.remaining.head? = parser.parse.2.remaining.head?) :
    other.parseComplete.1 = parser.parseComplete.1 := by
  rcases first : parser.parse with ⟨result, next⟩
  rcases second : other.parse with ⟨sameResult, after⟩
  rw [first, second] at results heads
  cases results
  cases result with
  | ok c =>
      have trailing := refuseTrailing_congr c heads
      simpa only [parseComplete, first, second] using trailing
  | error cause => simp only [parseComplete, first, second]

/-- A call takes as many tokens and returns the same, whatever stands behind the token that follows
those it takes. -/
theorem call_decided_by_next_token (parser other : Parser) (call : Call) (n : Nat)
    (sameOpened : other.opened = parser.opened)
    (taken : (parser.call call).2.cursor.position = parser.cursor.position + n)
    (agree : other.remaining.take (n + 1) = parser.remaining.take (n + 1)) :
    (other.call call).1 = (parser.call call).1 ∧
      (other.call call).2.cursor.position = other.cursor.position + n ∧
      (other.call call).2.opened = (parser.call call).2.opened := by
  rw [call_snd] at taken
  have parsed := parse_of_take_eq sameOpened taken agree
  have results : other.parse.1 = parser.parse.1 := by rw [parsed]
  rw [call_snd, call_snd]
  refine ⟨?_, by rw [parsed]; rfl, by rw [parsed]⟩
  cases call with
  | lenient => exact results
  | strict =>
      -- The token that is refused is the one behind those that are taken.
      apply parseComplete_fst_congr results
      have own := parse_of_take_eq rfl taken rfl
      rw [parsed, own, remaining_skip, remaining_skip]
      exact head?_drop_of_take_eq agree

def strayParenthesis : List Token :=
  [⟨.openParen, "("⟩, ⟨.channel, "a"⟩, ⟨.unary, "is null"⟩, ⟨.closeParen, ")"⟩, ⟨.closeParen, ")"⟩]

/-- A parser in front of these tokens and a connective, where all groups but one are open. -/
def connectiveSample : Parser :=
  { cursor := .start (strayParenthesis ++ [⟨.and, "and"⟩]), opened := 127 }

/-- A parser in front of the same tokens and others, behind a token that has been taken. -/
def literalSample : Parser :=
  { cursor := { tokens := ⟨.not, "not"⟩ :: strayParenthesis ++ [⟨.number, "?"⟩], position := 1 }
    opened := 127 }

/-- The parenthesis behind the group is refused, whatever follows it. -/
theorem call_decided_by_next_token_sample :
    literalSample.opened = connectiveSample.opened ∧
      (connectiveSample.call .strict).2.cursor.position = connectiveSample.cursor.position + 4 ∧
      literalSample.remaining.take 5 = connectiveSample.remaining.take 5 ∧
      (connectiveSample.call .strict).1 = .error (.trailingToken ")") ∧
      (literalSample.call .strict).1 = (connectiveSample.call .strict).1 ∧
      (literalSample.call .strict).2.cursor.position = literalSample.cursor.position + 4 ∧
      (literalSample.call .strict).2.opened = (connectiveSample.call .strict).2.opened := by
  have taken : (connectiveSample.call .strict).2.cursor.position =
      connectiveSample.cursor.position + 4 := rfl
  have same := call_decided_by_next_token connectiveSample literalSample .strict 4 rfl taken rfl
  exact ⟨rfl, taken, rfl, rfl, same⟩

end ChannelFilter.Parser
