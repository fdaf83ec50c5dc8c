import ChannelFilter.Cursor

/-!
# Calls on a cursor

A call on a cursor hands out the token that comes next and moves behind it, or it hands out no
token and leaves the cursor where it is. Whatever the calls are, the tokens that have been handed
out are therefore those in front of the position, in order, and the tokens that are left are the
rest of the list. What the operations return depends on the tokens that are left alone. Looking
ahead finds what stands at the offset among them, or that nothing does, as long as the sum of the
position and the offset is a word. Beyond that the call aborts instead of saying that nothing stands
there. No other call aborts, so this is all that cuts a sequence of calls off.
-/
namespace ChannelFilter.Cursor

variable {cursor next last : Cursor} {tokens taken more : List Token} {token : Token}
variable {offset : UInt64} {calls others : List Call} {cause : Abort}

inductive Call
  | peek (offset : UInt64)
  | consume
  | expect (kinds : List Token.Kind)
  | check (kind : Token.Kind)
  | isAtEnd
  | remaining
deriving DecidableEq, Repr

/-- What a call returns. A token that was looked at is kept apart from one that was taken. -/
inductive Reply
  | seen (token : Option Token)
  | consumed (token : Option Token)
  | expected (result : Except FilterError Token)
  | truth (holds : Bool)
  | left (tokens : List Token)

def Reply.handsOut : Reply → List Token
  | consumed token => token.toList
  | expected (.ok token) => [token]
  | _ => []

/-- What a call returns, and the cursor after it. -/
def call (cursor : Cursor) : Call → Except Abort (Reply × Cursor)
  | .peek offset => (cursor.peek offset).map fun token => (.seen token, cursor)
  | .consume => .ok (.consumed cursor.consume.1, cursor.consume.2)
  | .expect kinds => .ok (.expected (cursor.expect kinds).1, (cursor.expect kinds).2)
  | .check kind => .ok (.truth (cursor.check kind), cursor)
  | .isAtEnd => .ok (.truth cursor.isAtEnd, cursor)
  | .remaining => .ok (.left cursor.remaining, cursor)

/-- The tokens that some calls hand out, and the cursor after them. No call is made after one that
aborts. -/
def run (cursor : Cursor) : List Call → Except Abort (List Token × Cursor)
  | [] => .ok ([], cursor)
  | call :: calls =>
    match cursor.call call with
    | .error cause => .error cause
    | .ok (reply, next) =>
      (next.run calls).map fun (taken, last) => (reply.handsOut ++ taken, last)

/-- The tokens that have been handed out are those in front of the position, and those that are
left are the ones behind it. -/
structure Divides (tokens handedOut : List Token) (cursor : Cursor) : Prop where
  inside : cursor.position ≤ tokens.length
  front : handedOut = tokens.take cursor.position
  rest : cursor.remaining = tokens.drop cursor.position

/-- The tokens that are left decide what an operation on the next token returns, and a failure
leaves the cursor as it is. -/
structure ReadsRest (cursor : Cursor) : Prop where
  consumes : cursor.consume.1 = cursor.remaining.head?
  expects : ∀ kinds token, (cursor.expect kinds).1 = .ok token ↔
    cursor.remaining.head? = some token ∧ token.kind ∈ kinds
  checks : ∀ kind, cursor.check kind = true ↔
    ∃ token, cursor.remaining.head? = some token ∧ token.kind = kind
  ends : cursor.isAtEnd = true ↔ cursor.remaining = []
  staysAtEnd : cursor.isAtEnd = true → cursor.consume = (none, cursor)
  staysOnFailure : ∀ kinds cause, (cursor.expect kinds).1 = .error cause →
    (cursor.expect kinds).2 = cursor

/-- Looking ahead finds what stands at the offset among the tokens that are left if and only if
the index is a word. -/
structure LooksAhead (cursor : Cursor) (offset : UInt64) : Prop where
  finds : cursor.peek offset = .ok cursor.remaining[offset.toNat]? ↔
    cursor.position + offset.toNat < UInt64.size
  aborts : cursor.peek offset = .error .overflow ↔
    UInt64.size ≤ cursor.position + offset.toNat

theorem consume_cases (cursor : Cursor) :
    (cursor.current? = none ∧ cursor.consume = (none, cursor)) ∨
      ∃ token, cursor.current? = some token ∧ cursor.consume = (some token, cursor.skip 1) := by
  unfold consume
  split
  · next token current => exact .inr ⟨token, current, rfl⟩
  · next current => exact .inl ⟨current, rfl⟩

theorem expect_cases (cursor : Cursor) (kinds : List Token.Kind) :
    (∃ cause, (∀ token, cursor.current? = some token → token.kind ∉ kinds) ∧
        cursor.expect kinds = (.error cause, cursor)) ∨
      ∃ token, cursor.current? = some token ∧ token.kind ∈ kinds ∧
        cursor.expect kinds = (.ok token, cursor.skip 1) := by
  unfold expect
  split
  · next current => exact .inl ⟨_, by simp [current], rfl⟩
  · next token current =>
    by_cases fits : token.kind ∈ kinds
    · exact .inr ⟨token, current, fits, if_pos fits⟩
    · exact .inl ⟨_, by simpa [current] using fits, if_neg fits⟩

theorem head?_remaining (cursor : Cursor) : cursor.remaining.head? = cursor.current? :=
  List.head?_drop

theorem isAtEnd_iff : cursor.isAtEnd = true ↔ cursor.remaining = [] := by
  rw [isAtEnd, decide_eq_true_eq, remaining, List.drop_eq_nil_iff]

theorem check_iff {kind : Token.Kind} : cursor.check kind = true ↔
    ∃ token, cursor.remaining.head? = some token ∧ token.kind = kind := by
  rw [head?_remaining, check, Option.any_eq_true]
  simp only [beq_iff_eq]

theorem consume_fst (cursor : Cursor) : cursor.consume.1 = cursor.remaining.head? := by
  rw [head?_remaining]
  rcases cursor.consume_cases with ⟨current, consumed⟩ | ⟨token, current, consumed⟩ <;>
    rw [consumed, current]

theorem consume_of_isAtEnd (atEnd : cursor.isAtEnd = true) : cursor.consume = (none, cursor) := by
  rcases cursor.consume_cases with ⟨-, consumed⟩ | ⟨token, current, -⟩
  · exact consumed
  · rw [← head?_remaining, isAtEnd_iff.1 atEnd] at current
    cases current

theorem expect_fst_eq_ok_iff {kinds : List Token.Kind} : (cursor.expect kinds).1 = .ok token ↔
    cursor.remaining.head? = some token ∧ token.kind ∈ kinds := by
  rw [head?_remaining]
  rcases cursor.expect_cases kinds with ⟨cause, refused, failed⟩ | ⟨first, current, fits, taken⟩
  · rw [failed]
    exact ⟨nofun, fun ⟨current, fits⟩ => absurd fits (refused token current)⟩
  · rw [taken, current]
    refine ⟨?_, fun ⟨same, _⟩ => congrArg _ (Option.some.inj same)⟩
    rintro ⟨⟩
    exact ⟨rfl, fits⟩

theorem expect_snd_of_error {kinds : List Token.Kind} {cause : FilterError}
    (failed : (cursor.expect kinds).1 = .error cause) : (cursor.expect kinds).2 = cursor := by
  rcases cursor.expect_cases kinds with ⟨_, -, refused⟩ | ⟨token, -, -, taken⟩
  · rw [refused]
  · rw [taken] at failed
    cases failed

theorem readsRest (cursor : Cursor) : ReadsRest cursor where
  consumes := cursor.consume_fst
  expects _ _ := expect_fst_eq_ok_iff
  checks _ := check_iff
  ends := isAtEnd_iff
  staysAtEnd := consume_of_isAtEnd
  staysOnFailure _ _ := expect_snd_of_error

/-- One cursor stands behind another, with these tokens between them. -/
structure Moves (cursor : Cursor) (taken : List Token) (next : Cursor) : Prop where
  whole : next.tokens = cursor.tokens
  position : next.position = cursor.position + taken.length
  remaining : cursor.remaining = taken ++ next.remaining

theorem Moves.stay (cursor : Cursor) : Moves cursor [] cursor :=
  ⟨rfl, rfl, rfl⟩

theorem Moves.skip (h : cursor.current? = some token) : Moves cursor [token] (cursor.skip 1) := by
  have front : cursor.remaining = cursor.current?.toList ++ (cursor.skip 1).remaining :=
    List.drop_eq_getElem?_toList_append
  rw [h] at front
  exact ⟨rfl, rfl, front⟩

theorem Moves.append (h : Moves cursor taken next) (k : Moves next more last) :
    Moves cursor (taken ++ more) last := by
  refine ⟨k.whole.trans h.whole, ?_, ?_⟩
  · rw [k.position, h.position, List.length_append, Nat.add_assoc]
  · rw [h.remaining, k.remaining, List.append_assoc]

theorem Moves.divides (h : Moves (start tokens) taken cursor) : Divides tokens taken cursor := by
  have position : taken.length = cursor.position := by simpa [start] using h.position.symm
  have whole : tokens = taken ++ cursor.remaining := h.remaining
  refine ⟨?_, ?_, ?_⟩
  · rw [whole, List.length_append, position]
    exact Nat.le_add_right ..
  · rw [whole, List.take_left' position]
  · rw [whole, List.drop_left' position]

theorem peek_of_lt (isWord : cursor.position + offset.toNat < UInt64.size) :
    cursor.peek offset = .ok cursor.remaining[offset.toNat]? := by
  rw [peek, ahead, if_pos isWord, remaining, List.getElem?_drop]
  rfl

theorem peek_of_le (beyond : UInt64.size ≤ cursor.position + offset.toNat) :
    cursor.peek offset = .error .overflow := by
  rw [peek, ahead, if_neg (Nat.not_lt.2 beyond)]
  rfl

/-- Operations on the next token look where the offset zero leads. -/
theorem peek_zero (isWord : cursor.position < UInt64.size) :
    cursor.peek 0 = .ok cursor.current? := by
  have first : cursor.peek 0 = .ok cursor.remaining[0]? := peek_of_lt isWord
  rw [first, ← List.head?_eq_getElem?, head?_remaining]

theorem looksAhead (cursor : Cursor) (offset : UInt64) : LooksAhead cursor offset := by
  rcases Nat.lt_or_ge (cursor.position + offset.toNat) UInt64.size with isWord | beyond
  · have found := cursor.peek_of_lt isWord
    refine ⟨iff_of_true found isWord, iff_of_false ?_ (Nat.not_le.2 isWord)⟩
    rw [found]
    exact nofun
  · have aborted := cursor.peek_of_le beyond
    refine ⟨iff_of_false ?_ (Nat.not_lt.2 beyond), iff_of_true aborted beyond⟩
    rw [aborted]
    exact nofun

/-- A call either moves over the tokens that it hands out, or it looks too far ahead. -/
theorem call_cases (cursor : Cursor) (call : Call) :
    (∃ reply next, cursor.call call = .ok (reply, next) ∧ Moves cursor reply.handsOut next) ∨
      ∃ offset, call = .peek offset ∧ UInt64.size ≤ cursor.position + offset.toNat ∧
        cursor.call call = .error .overflow := by
  cases call with
  -- Only these two can move; the others leave the cursor as it is.
  | consume =>
      refine .inl ⟨_, _, rfl, ?_⟩
      rcases cursor.consume_cases with ⟨-, consumed⟩ | ⟨token, current, consumed⟩ <;> rw [consumed]
      · exact .stay cursor
      · exact .skip current
  | expect kinds =>
      refine .inl ⟨_, _, rfl, ?_⟩
      rcases cursor.expect_cases kinds with ⟨cause, -, failed⟩ | ⟨token, current, -, expected⟩
      · rw [failed]
        exact .stay cursor
      · rw [expected]
        exact .skip current
  | peek offset =>
      rw [Cursor.call]
      rcases Nat.lt_or_ge (cursor.position + offset.toNat) UInt64.size with isWord | beyond
      · rw [peek_of_lt isWord]
        exact .inl ⟨_, _, rfl, .stay cursor⟩
      · rw [peek_of_le beyond]
        exact .inr ⟨offset, rfl, beyond, rfl⟩
  | check | isAtEnd | remaining => exact .inl ⟨_, _, rfl, .stay cursor⟩

theorem run_cons {call : Call} {reply : Reply} (called : cursor.call call = .ok (reply, next)) :
    cursor.run (call :: calls) =
      (next.run calls).map fun (more, last) => (reply.handsOut ++ more, last) := by
  rw [run, called]

theorem run_cons_of_error {call : Call} (aborted : cursor.call call = .error cause) :
    cursor.run (call :: calls) = .error cause := by
  rw [run, aborted]

/-- A run that returns has made its first call and goes on behind the tokens that it handed out. -/
theorem exists_of_run_cons {call : Call} (ran : cursor.run (call :: calls) = .ok (taken, last)) :
    ∃ reply next more, cursor.call call = .ok (reply, next) ∧
      Moves cursor reply.handsOut next ∧ next.run calls = .ok (more, last) ∧
      taken = reply.handsOut ++ more := by
  rcases cursor.call_cases call with ⟨reply, next, called, moves⟩ | ⟨-, -, -, aborted⟩
  · rw [run_cons called] at ran
    cases rest : next.run calls with
    | error cause =>
        rw [rest] at ran
        cases ran
    | ok result =>
        rw [rest] at ran
        cases ran
        exact ⟨reply, next, result.1, called, moves, rest, rfl⟩
  · rw [run_cons_of_error aborted] at ran
    cases ran

theorem moves_run (ran : cursor.run calls = .ok (taken, last)) : Moves cursor taken last := by
  induction calls generalizing cursor taken with
  | nil =>
      cases ran
      exact .stay _
  | cons call calls ih =>
      obtain ⟨reply, next, more, -, moves, rest, rfl⟩ := exists_of_run_cons ran
      exact moves.append (ih rest)

theorem run_append (ran : cursor.run calls = .ok (taken, next)) (others : List Call) :
    cursor.run (calls ++ others) =
      (next.run others).map fun (more, last) => (taken ++ more, last) := by
  induction calls generalizing cursor taken with
  | nil =>
      cases ran
      rw [List.nil_append]
      cases next.run others <;> rfl
  | cons call calls ih =>
      obtain ⟨reply, between, more, called, -, rest, rfl⟩ := exists_of_run_cons ran
      rw [List.cons_append, run_cons called, ih rest]
      cases next.run others with
      | error cause => rfl
      | ok result => simp only [Except.map, List.append_assoc]

/-- A run is cut off by the first call that looks too far ahead, and by nothing else. -/
theorem run_eq_error_iff : cursor.run calls = .error cause ↔
    ∃ before offset behind taken next, calls = before ++ .peek offset :: behind ∧
      cursor.run before = .ok (taken, next) ∧
      UInt64.size ≤ next.position + offset.toNat := by
  constructor
  · intro ended
    induction calls generalizing cursor with
    | nil => cases ended
    | cons call calls ih =>
        rcases cursor.call_cases call with ⟨reply, between, called, -⟩ | ⟨offset, rfl, beyond, -⟩
        · have later : between.run calls = .error cause := by
            rw [run_cons called] at ended
            cases rest : between.run calls with
            | ok result =>
                rw [rest] at ended
                cases ended
            | error other => rfl
          obtain ⟨before, offset, behind, taken, next, rfl, ran, beyond⟩ := ih later
          refine ⟨call :: before, offset, behind, reply.handsOut ++ taken, next, rfl, ?_, beyond⟩
          rw [run_cons called, ran]
          rfl
        · exact ⟨[], offset, calls, [], cursor, rfl, rfl, beyond⟩
  · rintro ⟨before, offset, behind, taken, next, rfl, ran, beyond⟩
    have aborted : next.call (.peek offset) = .error .overflow := by
      rw [call, peek_of_le beyond]
      rfl
    rw [run_append ran, run_cons_of_error aborted]
    cases cause
    rfl

/-- Where some calls return, the tokens that they handed out are those in front of the position and
those that are left are the rest, the tokens that are left decide what the operations return, with
any offset for which the index is a word, and further calls never move the position back. Calls do
not return if and only if one of them looks further ahead than any index reaches. -/
theorem calls_divide_tokens (tokens : List Token) (calls : List Call) :
    (∀ taken cursor, (start tokens).run calls = .ok (taken, cursor) →
      Divides tokens taken cursor ∧ ReadsRest cursor ∧ (∀ offset, LooksAhead cursor offset) ∧
        ∀ others more last, cursor.run others = .ok (more, last) →
          cursor.position ≤ last.position ∧
            (start tokens).run (calls ++ others) = .ok (taken ++ more, last)) ∧
      ((start tokens).run calls = .error .overflow ↔
        ∃ before offset behind taken cursor, calls = before ++ .peek offset :: behind ∧
          (start tokens).run before = .ok (taken, cursor) ∧
          UInt64.size ≤ cursor.position + offset.toNat) := by
  refine ⟨fun taken cursor ran => ?_, run_eq_error_iff⟩
  refine ⟨(moves_run ran).divides, readsRest cursor, looksAhead cursor, ?_⟩
  intro others more last further
  refine ⟨?_, ?_⟩
  · rw [(moves_run further).position]
    exact Nat.le_add_right ..
  · rw [run_append ran, further]
    rfl

def comparisonSample : List Token :=
  [⟨.channel, "shotnum"⟩, ⟨.comparison, ">"⟩, ⟨.number, "3"⟩]

/-- Calls that take two tokens and fail to take another in between. -/
def callsSample : List Call :=
  [.peek 2, .consume, .expect [.unary], .check .number, .expect [.comparison, .unary], .remaining]

theorem calls_divide_tokens_sample :
    (start comparisonSample).run callsSample =
        .ok (comparisonSample.take 2, ⟨comparisonSample, 2⟩) ∧
      (start comparisonSample).run (callsSample ++ [.consume, .consume]) =
        .ok (comparisonSample, ⟨comparisonSample, 3⟩) ∧
      (start comparisonSample).run (callsSample ++ [.peek 0xFFFFFFFFFFFFFFFF, .consume]) =
        .error .overflow := by
  have ran : (start comparisonSample).run callsSample =
      .ok (comparisonSample.take 2, ⟨comparisonSample, 2⟩) := rfl
  have divides := (calls_divide_tokens comparisonSample callsSample).1 _ _ ran
  have cutOff := calls_divide_tokens comparisonSample
    (callsSample ++ [.peek 0xFFFFFFFFFFFFFFFF, .consume])
  refine ⟨ran, (divides.2.2.2 [.consume, .consume] _ _ rfl).2, ?_⟩
  exact cutOff.2.2 ⟨callsSample, _, [.consume], _, _, rfl, ran, by decide⟩

/-- Behind the first token, nothing is left at the greatest offset, but looking ahead aborts. -/
theorem peek_aborts_behind_first :
    (start comparisonSample).run [.consume] =
        .ok ([⟨.channel, "shotnum"⟩], ⟨comparisonSample, 1⟩) ∧
      (Cursor.mk comparisonSample 1).remaining[(0xFFFFFFFFFFFFFFFF : UInt64).toNat]? = none ∧
      (Cursor.mk comparisonSample 1).peek 0xFFFFFFFFFFFFFFFF = .error .overflow ∧
      (start comparisonSample).run [.consume, .peek 0xFFFFFFFFFFFFFFFF] = .error .overflow :=
  ⟨rfl, rfl, rfl, rfl⟩

end ChannelFilter.Cursor
