import ChannelFilter.Proofs.FirstWrongToken

/-!
# What the limit of open groups changes

Without a limit a call opens as many groups as its tokens ask for. The limit changes nothing until
a group is opened that exceeds it: up to there both calls shift the same tokens to the same states,
so an error in front of that group, or the end of the condition, comes first with either of them.
The token that opens the group is the last that the limited call takes.

A group that is closed no longer counts. Groups that stand beside each other may therefore be as
many as one likes, provided that each of them is admitted alone, and so may other parts among them.
-/
namespace ChannelFilter.Parser

variable {opened : Nat} {s t : State} {token : Token} {tokens : List Token} {negated : Bool}

/-- How many groups of a call without a limit are open in front of its first token and behind each
token that it shifts. -/
def groupCounts : State → List Token → List Nat
  | s, [] => [s.groups.length]
  | s, token :: tokens =>
    s.groups.length ::
      match s.step none 0 token with
      | .shift next => groupCounts next tokens
      | _ => []

theorem length_mem_groupCounts (s : State) (tokens : List Token) :
    s.groups.length ∈ groupCounts s tokens := by
  cases tokens <;> simp [groupCounts]

theorem step_none (opened : Nat) (s : State) (token : Token) :
    s.step none opened token = s.step none 0 token := by
  simp only [State.step, State.stepFactor, limitReached, Option.filter_none]

/-- The token opens a group when as many groups are open as may be. -/
structure Exceeds (opened : Nat) (s : State) (token : Token) (negated : Bool) : Prop where
  due : s.due = .factor negated
  kind : token.kind = .openParen
  full : maxNesting ≤ opened + s.groups.length

theorem Exceeds.step_limited (h : Exceeds opened s token negated) :
    s.step (some maxNesting) opened token = .reject (.nestingTooDeep maxNesting) true := by
  have full : limitReached (some maxNesting) (opened + s.groups.length) = some maxNesting := by
    simpa [limitReached] using h.full
  exact (Rejection.tooDeep h.due h.kind full).step_eq

theorem Exceeds.step_unlimited (h : Exceeds opened s token negated) :
    s.step none 0 token = .shift (s.openGroup negated) :=
  Shift.step_eq (.openGroup h.due h.kind rfl)

/-- The limit matters to a step only if its token exceeds it. -/
theorem step_limited (opened : Nat) (s : State) (token : Token) :
    s.step (some maxNesting) opened token = s.step none 0 token ∨
      ∃ negated, Exceeds opened s token negated := by
  by_cases kind : token.kind = .openParen
  · cases due : s.due with
    | factor negated =>
        by_cases full : maxNesting ≤ opened + s.groups.length
        · exact .inr ⟨negated, due, kind, full⟩
        · have room : limitReached (some maxNesting) (opened + s.groups.length) = none := by
            simpa [limitReached] using full
          have limited : Shift (some maxNesting) opened s token (s.openGroup negated) :=
            .openGroup due kind room
          have unlimited : Shift none 0 s token (s.openGroup negated) := .openGroup due kind rfl
          exact .inl (limited.step_eq.trans unlimited.step_eq.symm)
    | operator _ _ => simp [State.step, due]
    | operand _ _ _ => simp [State.step, due]
    | connective => simp [State.step, due]
  · left
    unfold State.step
    split
    · unfold State.stepFactor
      split <;> simp_all
    all_goals rfl

theorem groupCounts_of_blocked (blocked : ∀ t, s.step none 0 token ≠ .shift t) :
    groupCounts s (token :: tokens) = [s.groups.length] := by
  unfold groupCounts
  split
  · next t step => exact absurd step (blocked t)
  · rfl

/-- Where no group exceeds the limit, it changes nothing. -/
theorem run_limited (within : ∀ n ∈ groupCounts s tokens, opened + n ≤ maxNesting) :
    run (some maxNesting) opened s tokens = run none opened s tokens := by
  induction tokens generalizing s with
  | nil => rfl
  | cons token tokens ih =>
      rcases step_limited opened s token with same | ⟨negated, exceeds⟩
      · rw [run, run, same, step_none opened]
        cases step : s.step none 0 token with
        | shift t =>
            have rest : ∀ n ∈ groupCounts t tokens, opened + n ≤ maxNesting := by
              intro n member
              exact within n (by simp [groupCounts, step, member])
            simp only [ih rest]
        | stop c => rfl
        | reject cause taken => rfl
      · -- The group that the token opens would count.
        have first := length_mem_groupCounts (s.openGroup negated) tokens
        have inside : s.groups.length + 1 ∈ groupCounts s (token :: tokens) := by
          rw [groupCounts, exceeds.step_unlimited]
          exact List.mem_cons_of_mem _ first
        have fits := within _ inside
        have full := exceeds.full
        omega

/-- The token at the index is the first with which a call without a limit opens a group that
exceeds the limit. -/
structure FirstExcess (opened : Nat) (counts : List Nat) (tokens : List Token) (i : Nat) :
    Prop where
  opens : ∃ token, tokens[i]? = some token ∧ token.kind = .openParen
  before : ∀ n ∈ counts.take (i + 1), opened + n ≤ maxNesting
  behind : counts[i + 1]? = some (maxNesting + 1 - opened)

theorem FirstExcess.cons {counts : List Nat} {i n : Nat} (h : FirstExcess opened counts tokens i)
    (token : Token) (fits : opened + n ≤ maxNesting) :
    FirstExcess opened (n :: counts) (token :: tokens) (i + 1) := by
  refine ⟨by simpa using h.opens, ?_, by simpa using h.behind⟩
  intro m member
  rcases List.mem_cons.1 member with rfl | member
  · exact fits
  · exact h.before m member

theorem Exceeds.firstExcess (h : Exceeds opened s token negated)
    (fits : opened + s.groups.length ≤ maxNesting) (tokens : List Token) :
    FirstExcess opened (groupCounts s (token :: tokens)) (token :: tokens) 0 := by
  have full := h.full
  have count : maxNesting + 1 - opened = (s.openGroup negated).groups.length := by
    simp only [State.openGroup, List.length_cons]
    omega
  refine ⟨⟨token, rfl, h.kind⟩, by simpa [groupCounts] using fits, ?_⟩
  rw [groupCounts, h.step_unlimited, count]
  cases tokens <;> rfl

/-- Where a group exceeds the limit, the call takes the token that opens the first such group and
no other behind it. -/
theorem run_exceeding (fits : opened + s.groups.length ≤ maxNesting)
    (beyond : ∃ n ∈ groupCounts s tokens, maxNesting < opened + n) :
    ∃ i, FirstExcess opened (groupCounts s tokens) tokens i ∧
      run (some maxNesting) opened s tokens =
        { result := .error (.nestingTooDeep maxNesting), taken := i + 1,
          opened := maxNesting } := by
  obtain ⟨n, member, excess⟩ := beyond
  induction tokens generalizing s with
  | nil =>
      have alone : n = s.groups.length := by simpa [groupCounts] using member
      omega
  | cons token tokens ih =>
      rcases step_limited opened s token with same | ⟨negated, exceeds⟩
      · by_cases shifts : ∃ t, s.step none 0 token = .shift t
        · obtain ⟨t, step⟩ := shifts
          have shift : Shift (some maxNesting) opened s token t :=
            step_eq_shift_iff.1 (same.trans step)
          have later : n ∈ groupCounts t tokens := by
            simp only [groupCounts, step, List.mem_cons] at member
            exact member.resolve_left (by omega)
          obtain ⟨i, first, ends⟩ := ih (shift.groups_le fits) later
          refine ⟨i + 1, ?_, ?_⟩
          · simpa only [groupCounts, step] using first.cons token fits
          · rw [run, same, step]
            simp only [ends, Outcome.afterToken]
        · have blocked : ∀ t, s.step none 0 token ≠ .shift t := not_exists.1 shifts
          rw [groupCounts_of_blocked blocked] at member
          have alone := List.mem_singleton.1 member
          omega
      · have full : opened + s.groups.length = maxNesting := Nat.le_antisymm fits exceeds.full
        refine ⟨0, exceeds.firstExcess fits tokens, ?_⟩
        rw [run, exceeds.step_limited]
        simp only [full, Bool.toNat_true]

/-- A strict call accepts all the tokens when `opened` groups had been left open before. -/
def AcceptedInside (opened : Nat) (tokens : List Token) : Prop :=
  ∃ c, (parseComplete { cursor := .start tokens, opened }).1 = .ok c

/-- Parts with a connective between any two of them: groups, with or without a negation in front,
each of which encloses what would be accepted by itself, and other parts that would be accepted by
themselves. -/
inductive Siblings (opened : Nat) : List Token → Prop
  | group {nots inner : List Token} {opening closing : Token} {negated : Bool}
      (negates : Negates nots negated) (openParen : opening.kind = .openParen)
      (closeParen : closing.kind = .closeParen) (accepted : AcceptedInside (opened + 1) inner) :
      Siblings opened (nots ++ (opening :: inner ++ [closing]))
  | alone {part : List Token} (accepted : AcceptedInside opened part) : Siblings opened part
  | more {part others : List Token} {connective : Token} (first : Siblings opened part)
      (kind : connective.kind = .and ∨ connective.kind = .or) (rest : Siblings opened others) :
      Siblings opened (part ++ connective :: others)

theorem AcceptedInside.exists_derives (h : AcceptedInside opened tokens) :
    ∃ c, Grammar.DerivesCondition opened tokens c := by
  obtain ⟨c, accepted⟩ := h
  obtain ⟨front, t, rest, outcome, whole, shifts, ending, called⟩ :=
    exists_call_ending { cursor := .start tokens, opened }
  have whole : tokens = front ++ rest := whole
  rw [parseComplete, called] at accepted
  cases ending with
  | finish =>
      rw [List.append_nil] at whole
      subst whole
      cases done : t.finish with
      | ok c => exact ⟨c, exists_shifts_iff.1 ⟨t, shifts, done⟩⟩
      | error cause => simp [done] at accepted
  | stop done next =>
      simp [whole, remaining, Cursor.remaining, Cursor.skip, Cursor.start, refuseTrailing]
        at accepted
  | reject rejection => simp at accepted

theorem Siblings.exists_derives (h : Siblings opened tokens) (room : opened < maxNesting) :
    ∃ c, Grammar.DerivesCondition opened tokens c := by
  induction h with
  | group negates openParen closeParen accepted =>
      obtain ⟨c, derives⟩ := accepted.exists_derives
      have inside : Grammar.DerivesInside opened _ c := ⟨room, derives⟩
      exact Grammar.exists_derivesCondition_of_factor
        (negates.factor (.group openParen inside closeParen))
  | alone accepted => exact accepted.exists_derives
  | more _ kind _ first rest =>
      obtain ⟨c, front⟩ := first
      obtain ⟨d, behind⟩ := rest
      exact Grammar.exists_derivesCondition_append front kind behind

theorem Siblings.parse_eq {parser : Parser} (h : Siblings parser.opened parser.remaining)
    (room : parser.opened < maxNesting) :
    ∃ c, parser.parse = (.ok c,
      { cursor := parser.cursor.skip parser.remaining.length, opened := parser.opened }) := by
  obtain ⟨c, derives⟩ := h.exists_derives room
  obtain ⟨t, shifts, done⟩ := exists_shifts_iff.2 derives
  have nothing : ∀ token ∈ ([] : List Token).head?, token.kind ≠ .and ∧ token.kind ≠ .or := by
    simp
  have ends := run_of_finish shifts done nothing
  rw [List.append_nil] at ends
  exact ⟨c, by simp only [parse, parseWithin, ends]⟩

/-- A call is the same with and without the limit if no group exceeds it. Otherwise the limited
call fails for the nesting, and the last token that it takes is the one with which the call
without a limit opens the first group in excess. Groups beside each other exceed nothing, however
many they are. -/
theorem parse_cut_off_at_first_excess (parser : Parser) (admitted : parser.opened ≤ maxNesting) :
    ((∀ n ∈ groupCounts .start parser.remaining, parser.opened + n ≤ maxNesting) →
      parser.parse = parser.parseWithin none) ∧
    ((∃ n ∈ groupCounts .start parser.remaining, maxNesting < parser.opened + n) →
      ∃ i, FirstExcess parser.opened (groupCounts .start parser.remaining) parser.remaining i ∧
        parser.parse = (.error (.nestingTooDeep maxNesting),
          { cursor := parser.cursor.skip (i + 1), opened := maxNesting })) ∧
    (parser.opened < maxNesting → Siblings parser.opened parser.remaining →
      ∃ c, parser.parse = (.ok c,
        { cursor := parser.cursor.skip parser.remaining.length, opened := parser.opened })) := by
  refine ⟨?_, ?_, fun room siblings => siblings.parse_eq room⟩
  · intro within
    simp only [parse, parseWithin, run_limited within]
  · intro beyond
    obtain ⟨i, first, ends⟩ := run_exceeding (s := .start) admitted beyond
    refine ⟨i, first, ?_⟩
    simp only [parse, parseWithin, ends]

/-- A parser in front of `(a is null) or ((`, when all groups but one are open. -/
def almostFullSample : Parser :=
  { cursor := .start
      [⟨.openParen, "("⟩, ⟨.channel, "a"⟩, ⟨.unary, "is null"⟩, ⟨.closeParen, ")"⟩, ⟨.or, "or"⟩,
       ⟨.openParen, "("⟩, ⟨.openParen, "("⟩]
    opened := 127 }

/-- The tokens of `(a = 1) and`, as often as the number says, and then those of `b = 2`. -/
def siblingsSample : Nat → List Token
  | 0 => [⟨.channel, "b"⟩, ⟨.comparison, "="⟩, ⟨.number, "2"⟩]
  | n + 1 =>
    ⟨.openParen, "("⟩ :: [⟨.channel, "a"⟩, ⟨.comparison, "="⟩, ⟨.number, "1"⟩] ++
      [⟨.closeParen, ")"⟩] ++ ⟨.and, "and"⟩ :: siblingsSample n

theorem siblings_siblingsSample (n : Nat) : Siblings 0 (siblingsSample n) := by
  induction n with
  | zero => exact .alone ⟨_, rfl⟩
  | succ n ih => exact .more (.group .plain rfl rfl ⟨_, rfl⟩) (.inl rfl) ih

/-- The first group is closed again, the second is the last that is admitted. More groups beside
each other than may be open are all read. -/
theorem parse_cut_off_at_first_excess_sample :
    almostFullSample.opened ≤ maxNesting ∧
      (∃ n ∈ groupCounts .start almostFullSample.remaining,
        maxNesting < almostFullSample.opened + n) ∧
      (∃ i, FirstExcess 127 (groupCounts .start almostFullSample.remaining)
          almostFullSample.remaining i ∧
        almostFullSample.parse = (.error (.nestingTooDeep maxNesting),
          { cursor := almostFullSample.cursor.skip (i + 1), opened := maxNesting })) ∧
      ∃ c, (ofTokens (siblingsSample (maxNesting + 10))).parse = (.ok c,
        { cursor := (Cursor.start (siblingsSample (maxNesting + 10))).skip
            (siblingsSample (maxNesting + 10)).length,
          opened := 0 }) := by
  have admitted : almostFullSample.opened ≤ maxNesting := by decide
  have beyond : ∃ n ∈ groupCounts .start almostFullSample.remaining,
      maxNesting < almostFullSample.opened + n := by decide
  have cutOff := (parse_cut_off_at_first_excess almostFullSample admitted).2.1 beyond
  have siblings := siblings_siblingsSample (maxNesting + 10)
  have beside := (parse_cut_off_at_first_excess (ofTokens (siblingsSample (maxNesting + 10)))
    (Nat.zero_le _)).2.2 (by decide) siblings
  exact ⟨admitted, beyond, cutOff, beside⟩

end ChannelFilter.Parser
