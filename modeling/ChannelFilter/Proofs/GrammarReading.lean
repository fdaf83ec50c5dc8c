import ChannelFilter.Proofs.ConditionGrammar
import ChannelFilter.Proofs.ShiftedTokens

/-!
# The reader accepts exactly the grammar

What the grammar derives is shifted, by recursion on the level of nesting: the tokens of a factor
lead from a state in which a factor is due to the state after that factor, whatever has been read
before and whatever follows. Conversely a state remembers what the tokens taken so far derive:
for each open group the terms and factors in front of it, and behind the innermost group the parts
of the condition that is being read. Each shift keeps this, so the tokens that lead to a complete
condition derive it.
-/
namespace ChannelFilter.Catalog

theorem lookup_eq_some_iff {label : String} {category : Token.Kind} {operator : Operator} :
    lookup label category = some operator ↔
      operator ∈ operators ∧ operator.category = category ∧ operator.label = label := by
  unfold lookup
  constructor
  · intro h
    have found := List.find?_some h
    simp only [Bool.and_eq_true, beq_iff_eq] at found
    exact ⟨List.mem_of_find?_eq_some h, found⟩
  · -- No two operators of the catalog share both the label and the category.
    intro h
    obtain ⟨h, rfl, rfl⟩ := h
    revert operator
    decide

end ChannelFilter.Catalog

namespace ChannelFilter.Parser
open Grammar

variable {limit : Option Nat} {opened : Nat} {s t : State} {token : Token} {tokens : List Token}
variable {c : Condition} {cs : List Condition}

theorem resolve_eq_ok_iff {comparison : Comparison} :
    Catalog.resolve token = .ok comparison ↔
      IsOperator .comparison token comparison ∨ IsOperator .unary token comparison := by
  have entry : (Catalog.lookup token.value token.kind).bind (·.comparison) = some comparison ↔
      ⟨token.value, token.kind, some comparison⟩ ∈ Catalog.operators := by
    simp only [Option.bind_eq_some_iff, Catalog.lookup_eq_some_iff]
    constructor
    · intro h
      obtain ⟨⟨label, category, _⟩, ⟨h, rfl, rfl⟩, rfl⟩ := h
      exact h
    · intro h
      exact ⟨_, ⟨h, rfl, rfl⟩, rfl⟩
  unfold Catalog.resolve IsOperator
  split
  · next kind =>
    split
    · next found =>
      rw [found] at entry
      rcases kind with kind | kind <;> simp_all
    · next missing =>
      rw [missing] at entry
      rcases kind with kind | kind <;> simp_all
  · next kind => simp_all

theorem operandOf_eq_ok_iff {operand : Operand} :
    operandOf token = .ok operand ↔ DerivesOperand token operand := by
  constructor
  · intro h
    unfold operandOf at h
    split at h
    · next kind => cases h; exact .channel kind
    · next kind => cases h; exact .string kind
    · next kind =>
      split at h
      · next readable => cases h; exact .number kind readable
      · cases h
    · cases h
  · intro h
    cases h with
    | channel kind => simp [operandOf, kind]
    | string kind => simp [operandOf, kind]
    | number kind readable => simp [operandOf, kind, readable]

theorem shifts_of_derivesPredicate {negated : Bool} {p : Predicate}
    (h : DerivesPredicate tokens p) (due : s.due = .factor negated) :
    Shifts limit opened s tokens (s.endFactor negated (.predicate p)) := by
  cases h with
  | comparison left known derives =>
      have resolved := resolve_eq_ok_iff.2 (.inl known)
      exact .cons (.channel due left) (.cons (.comparison rfl known.1 resolved)
        (.single (.operand rfl (operandOf_eq_ok_iff.2 derives))))
  | unary left known =>
      have resolved := resolve_eq_ok_iff.2 (.inr known)
      exact .cons (.channel due left) (.single (.unary rfl known.1 resolved))

/-- The tokens of a condition lead from the start of a level with `groups` open groups to its
end. -/
def Reads (limit : Option Nat) (opened groups : Nat) (tokens : List Token) (c : Condition) : Prop :=
  ∀ s : State, s.groups.length = groups → s.level = .empty → s.due = .factor false →
    ∃ level, Shifts limit opened s tokens { s with level, due := .connective } ∧
      level.condition = c

section Level
variable {Inner : List Token → Condition → Prop} {groups : Nat}
variable (inside : ∀ tokens c, Inner tokens c →
  limitReached limit (opened + groups) = none ∧ Reads limit opened (groups + 1) tokens c)
include inside

theorem shifts_of_derivesPrimary {negated : Bool} (h : DerivesPrimary Inner tokens c)
    (length : s.groups.length = groups) (due : s.due = .factor negated) :
    Shifts limit opened s tokens (s.endFactor negated c) := by
  cases h with
  | predicate derives => exact shifts_of_derivesPredicate derives due
  | @group tokens opening closing c openParen derives closeParen =>
      obtain ⟨room, reads⟩ := inside tokens c derives
      obtain ⟨level, shifts, rfl⟩ := reads (s.openGroup negated) (congrArg (· + 1) length) rfl rfl
      have close : Shift limit opened { s.openGroup negated with level, due := .connective } closing
          (State.closeGroup _ { outer := s.level, negated } s.groups) :=
        .closeGroup rfl rfl closeParen
      exact .cons (.openGroup due openParen (length ▸ room)) (shifts.append (.single close))

theorem shifts_of_derivesFactor (h : DerivesFactor Inner tokens c)
    (length : s.groups.length = groups) (due : s.due = .factor false) :
    Shifts limit opened s tokens (s.endFactor false c) := by
  cases h with
  | plain primary => exact shifts_of_derivesPrimary inside primary length due
  | negation kind primary =>
      have rest : Shifts limit opened { s with due := .factor true } _
          (State.endFactor _ true _) := shifts_of_derivesPrimary inside primary length rfl
      exact .cons (.negation due kind) rest

theorem shifts_of_derivesFactors (h : DerivesSeries .and (DerivesFactor Inner) tokens cs)
    (length : s.groups.length = groups) (due : s.due = .factor false) :
    Shifts limit opened s tokens
      { s with
        level := { s.level with factors := cs.reverse ++ s.level.factors }
        due := .connective } := by
  induction h generalizing s with
  | one factor => exact shifts_of_derivesFactor inside factor length due
  | @more front rest token c cs factor kind _ ih =>
      have first := shifts_of_derivesFactor inside factor length due
      have others := @ih { s.endFactor false c with due := .factor false } length rfl
      rw [List.reverse_cons, List.append_assoc]
      exact first.append (.cons (.and rfl kind) others)

theorem shifts_of_derivesTerm (h : DerivesTerm Inner tokens c)
    (length : s.groups.length = groups) (due : s.due = .factor false)
    (fresh : s.level.factors = []) :
    ∃ level, Shifts limit opened s tokens { s with level, due := .connective } ∧
      level.term = c ∧ level.terms = s.level.terms := by
  obtain ⟨cs, series, rfl⟩ := derivesTerm_iff.1 h
  refine ⟨_, shifts_of_derivesFactors inside series length due, ?_, rfl⟩
  simp [Level.term, fresh]

theorem shifts_of_derivesTerms (h : DerivesSeries .or (DerivesTerm Inner) tokens cs)
    (length : s.groups.length = groups) (due : s.due = .factor false)
    (fresh : s.level.factors = []) :
    ∃ level, Shifts limit opened s tokens { s with level, due := .connective } ∧
      level.term :: level.terms = cs.reverse ++ s.level.terms := by
  induction h generalizing s with
  | one term =>
      obtain ⟨level, shifts, rfl, terms⟩ := shifts_of_derivesTerm inside term length due fresh
      exact ⟨level, shifts, by simp [terms]⟩
  | more term kind _ ih =>
      obtain ⟨level, shifts, rfl, terms⟩ := shifts_of_derivesTerm inside term length due fresh
      obtain ⟨last, others, ends⟩ :=
        @ih { s with level := level.endTerm, due := .factor false } length rfl rfl
      refine ⟨last, shifts.append (.cons (.or rfl kind) others), ?_⟩
      simp [ends, Level.endTerm, terms]

end Level

theorem reads_of_derivesCondition {depth groups : Nat} (h : DerivesCondition depth tokens c)
    (level : opened + groups = depth) : Reads (some maxNesting) opened groups tokens c := by
  -- A group derives its condition one level deeper, so the induction is on what the limit leaves.
  induction depth using DerivesCondition.induct generalizing groups tokens c with
  | case1 depth ih =>
      have inside : ∀ tokens c, DerivesInside depth tokens c →
          limitReached (some maxNesting) (opened + groups) = none ∧
            Reads (some maxNesting) opened (groups + 1) tokens c := by
        intro tokens c inner
        obtain ⟨below, derives⟩ := inner
        refine ⟨by simp [limitReached, level, below], ?_⟩
        exact ih below derives (by omega)
      intro s length fresh due
      obtain ⟨cs, series, rfl⟩ := derivesCondition_iff.1 h
      obtain ⟨last, shifts, ends⟩ :=
        shifts_of_derivesTerms inside series length due (by rw [fresh]; rfl)
      exact ⟨last, shifts, by simp [Level.condition, ends, fresh, Level.empty]⟩

section Series
variable {separator : Token.Kind} {Part : List Token → Condition → Prop} {rest : List Token}

/-- The members of a series that goes on: no members yet, or some with a token of the separating
kind behind the last. -/
inductive Precedes (separator : Token.Kind) (Part : List Token → Condition → Prop) :
    List Token → List Condition → Prop
  | nothing : Precedes separator Part [] []
  | series {tokens : List Token} {token : Token} {cs : List Condition}
      (series : DerivesSeries separator Part tokens cs) (kind : token.kind = separator) :
      Precedes separator Part (tokens ++ [token]) cs

theorem Precedes.snoc (h : Precedes separator Part tokens cs) (part : Part rest c) :
    DerivesSeries separator Part (tokens ++ rest) (cs ++ [c]) := by
  cases h with
  | nothing => exact .one part
  | series series kind =>
      rw [List.append_assoc]
      exact series.append kind (.one part)

end Series

/-- The tokens of a level in front of a factor. -/
def BeforeFactor (depth : Nat) (tokens : List Token) (level : Level) : Prop :=
  ∃ terms factors, tokens = terms ++ factors ∧
    Precedes .or (DerivesTerm (DerivesInside depth)) terms level.terms.reverse ∧
    Precedes .and (DerivesFactor (DerivesInside depth)) factors level.factors.reverse

/-- The tokens of a level up to and including a factor. -/
def AfterFactor (depth : Nat) (tokens : List Token) (level : Level) : Prop :=
  ∃ terms factors, tokens = terms ++ factors ∧
    Precedes .or (DerivesTerm (DerivesInside depth)) terms level.terms.reverse ∧
    DerivesSeries .and (DerivesFactor (DerivesInside depth)) factors level.factors.reverse

/-- The tokens in front of a primary, and whether they negate it. -/
inductive Negates : List Token → Bool → Prop
  | plain : Negates [] false
  | negation {token : Token} (kind : token.kind = .not) : Negates [token] true

section Level
variable {depth : Nat} {level : Level} {front rest nots : List Token} {negated : Bool}

theorem beforeFactor_empty (depth : Nat) : BeforeFactor depth [] .empty :=
  ⟨[], [], rfl, .nothing, .nothing⟩

theorem Negates.factor {Inner : List Token → Condition → Prop} (h : Negates nots negated)
    (primary : DerivesPrimary Inner tokens c) :
    DerivesFactor Inner (nots ++ tokens) (c.negatedIf negated) := by
  cases h with
  | plain => exact .plain primary
  | negation kind => exact .negation kind primary

theorem BeforeFactor.addFactor (h : BeforeFactor depth front level)
    (negation : Negates nots negated) (primary : DerivesPrimary (DerivesInside depth) rest c) :
    AfterFactor depth (front ++ nots ++ rest) (level.addFactor (c.negatedIf negated)) := by
  obtain ⟨terms, factors, rfl, before, series⟩ := h
  refine ⟨terms, factors ++ (nots ++ rest), by simp, before, ?_⟩
  simpa [Level.addFactor] using series.snoc (negation.factor primary)

theorem AfterFactor.and (h : AfterFactor depth tokens level) (kind : token.kind = .and) :
    BeforeFactor depth (tokens ++ [token]) level := by
  obtain ⟨terms, factors, rfl, before, series⟩ := h
  exact ⟨terms, factors ++ [token], by simp, before, .series series kind⟩

theorem AfterFactor.terms (h : AfterFactor depth tokens level) :
    DerivesSeries .or (DerivesTerm (DerivesInside depth)) tokens
      (level.term :: level.terms).reverse := by
  obtain ⟨terms, factors, rfl, before, series⟩ := h
  rw [List.reverse_cons]
  exact before.snoc (derivesTerm_iff.2 ⟨_, series, rfl⟩)

theorem AfterFactor.or (h : AfterFactor depth tokens level) (kind : token.kind = .or) :
    BeforeFactor depth (tokens ++ [token]) level.endTerm :=
  ⟨tokens ++ [token], [], by simp, .series h.terms kind, .nothing⟩

theorem AfterFactor.condition (h : AfterFactor depth tokens level) :
    DerivesCondition depth tokens level.condition :=
  derivesCondition_iff.2 ⟨_, h.terms, rfl⟩

end Level

/-- The tokens taken behind the innermost open group, by what is due. -/
inductive TakenInside (depth : Nat) (level : Level) : Due → List Token → Prop
  | factor {front nots : List Token} {negated : Bool} (before : BeforeFactor depth front level)
      (negation : Negates nots negated) : TakenInside depth level (.factor negated) (front ++ nots)
  | operator {front nots : List Token} {negated : Bool} {channel : Token}
      (before : BeforeFactor depth front level) (negation : Negates nots negated)
      (left : channel.kind = .channel) :
      TakenInside depth level (.operator negated channel.value) (front ++ nots ++ [channel])
  | operand {front nots : List Token} {negated : Bool} {channel operator : Token}
      {comparison : Comparison} (before : BeforeFactor depth front level)
      (negation : Negates nots negated) (left : channel.kind = .channel)
      (known : IsOperator .comparison operator comparison) :
      TakenInside depth level (.operand negated channel.value comparison)
        (front ++ nots ++ [channel, operator])
  | connective {tokens : List Token} (after : AfterFactor depth tokens level) :
      TakenInside depth level .connective tokens

/-- The tokens taken up to the opening parenthesis of the innermost open group. -/
inductive TakenOutside (opened : Nat) : List Group → List Token → Prop
  | outermost : TakenOutside opened [] []
  | group {tokens front nots : List Token} {token : Token} {group : Group} {groups : List Group}
      (outside : TakenOutside opened groups tokens)
      (before : BeforeFactor (opened + groups.length) front group.outer)
      (negation : Negates nots group.negated) (kind : token.kind = .openParen)
      (below : opened + groups.length < maxNesting) :
      TakenOutside opened (group :: groups) (tokens ++ (front ++ nots ++ [token]))

/-- The tokens that have been taken where the state is reached. -/
def Taken (opened : Nat) (tokens : List Token) (s : State) : Prop :=
  ∃ outside inside, tokens = outside ++ inside ∧ TakenOutside opened s.groups outside ∧
    TakenInside (opened + s.groups.length) s.level s.due inside

theorem taken_start (opened : Nat) : Taken opened [] .start :=
  ⟨[], [], rfl, .outermost, .factor (beforeFactor_empty _) .plain⟩

/-- A factor that ends, with its tokens behind those in front of it. -/
theorem Taken.endFactor {groups : List Group} {level : Level}
    {outside front nots rest : List Token} {negated : Bool}
    (outer : TakenOutside opened groups outside)
    (before : BeforeFactor (opened + groups.length) front level) (negation : Negates nots negated)
    (primary : DerivesPrimary (DerivesInside (opened + groups.length)) rest c) :
    Taken opened (outside ++ (front ++ nots ++ rest))
      { groups, level := level.addFactor (c.negatedIf negated), due := .connective } :=
  ⟨outside, _, rfl, outer, .connective (before.addFactor negation primary)⟩

theorem Taken.closeGroup {groups : List Group} {group : Group} {level : Level}
    {outside inside : List Token} (outer : TakenOutside opened (group :: groups) outside)
    (after : AfterFactor (opened + (group :: groups).length) inside level)
    (kind : token.kind = .closeParen) :
    Taken opened (outside ++ inside ++ [token])
      (State.closeGroup { groups := group :: groups, level, due := .connective } group groups) := by
  cases outer with
  | @group tokens front nots opening _ _ outer before negation openParen below =>
      have primary : DerivesPrimary (DerivesInside (opened + groups.length))
          (opening :: inside ++ [token]) level.condition :=
        .group openParen ⟨below, after.condition⟩ kind
      have closed := Taken.endFactor outer before negation primary
      simpa [State.closeGroup, State.endFactor] using closed

theorem Taken.shift (h : Taken opened tokens s) (shift : Shift (some maxNesting) opened s token t) :
    Taken opened (tokens ++ [token]) t := by
  obtain ⟨outside, inside, rfl, outer, inner⟩ := h
  obtain ⟨groups, level, due⟩ := s
  -- What is due leaves one form for the tokens taken inside, so each shift has a single case.
  cases shift with
  | negation due kind =>
      cases due
      cases inner with
      | factor before negation =>
          cases negation
          exact ⟨outside, _, by simp, outer, .factor before (.negation kind)⟩
  | openGroup due kind room =>
      cases due
      cases inner with
      | factor before negation =>
          have below : opened + groups.length < maxNesting := by
            simpa [limitReached] using room
          refine ⟨_, [] ++ [], ?_, .group outer before negation kind below,
            .factor (beforeFactor_empty _) .plain⟩
          simp
  | channel due kind =>
      cases due
      cases inner with
      | factor before negation =>
          exact ⟨outside, _, by simp, outer, .operator before negation kind⟩
  | comparison due kind known =>
      cases due
      cases inner with
      | operator before negation left =>
          have known := (resolve_eq_ok_iff.1 known).resolve_right fun h => by
            cases kind.symm.trans h.1
          exact ⟨outside, _, by simp, outer, .operand before negation left known⟩
  | unary due kind known =>
      cases due
      cases inner with
      | operator before negation left =>
          have known := (resolve_eq_ok_iff.1 known).resolve_left fun h => by
            cases kind.symm.trans h.1
          have ended := Taken.endFactor outer before negation (.predicate (.unary left known))
          simpa [State.endFactor] using ended
  | operand due known =>
      cases due
      cases inner with
      | operand before negation left operator =>
          have right := operandOf_eq_ok_iff.1 known
          have ended := Taken.endFactor outer before negation
            (.predicate (.comparison left operator right))
          simpa [State.endFactor] using ended
  | and due kind =>
      cases due
      cases inner with
      | connective after =>
          exact ⟨outside, _, by simp, outer, .factor (after.and kind) .plain⟩
  | or due kind =>
      cases due
      cases inner with
      | connective after =>
          exact ⟨outside, _, by simp, outer, .factor (after.or kind) .plain⟩
  | closeGroup due inside kind =>
      cases due
      cases inside
      cases inner with
      | connective after => exact .closeGroup outer after kind

theorem Taken.shifts {more : List Token} (h : Taken opened tokens s)
    (shifts : Shifts (some maxNesting) opened s more t) : Taken opened (tokens ++ more) t := by
  induction shifts generalizing tokens with
  | nil s => simpa using h
  | cons first _ ih => simpa using ih (h.shift first)

theorem Taken.condition (h : Taken opened tokens s) (done : s.finish = .ok c) :
    DerivesCondition opened tokens c := by
  obtain ⟨outside, inside, rfl, outer, inner⟩ := h
  obtain ⟨groups, level, due⟩ := s
  obtain ⟨rfl, rfl, rfl⟩ := finish_eq_ok_iff.1 done
  cases outer with
  | outermost =>
      cases inner with
      | connective after => exact after.condition

/-- The tokens that lead to a complete condition, when some groups had been left open before the
start, are those that derive it at that level of nesting. -/
theorem exists_shifts_iff :
    (∃ t, Shifts (some maxNesting) opened .start tokens t ∧ t.finish = .ok c) ↔
      DerivesCondition opened tokens c := by
  constructor
  · intro h
    obtain ⟨t, shifts, done⟩ := h
    exact ((taken_start opened).shifts shifts).condition done
  · intro h
    obtain ⟨level, shifts, rfl⟩ := reads_of_derivesCondition h rfl .start rfl rfl rfl
    exact ⟨_, shifts, finish_eq_ok_iff.2 ⟨rfl, rfl, rfl⟩⟩

/-- A strict call on a new parser succeeds with exactly the conditions that the grammar derives
from the whole list of tokens outside of any group. -/
theorem ofAllTokens_eq_ok_iff_derives (tokens : List Token) (c : Condition) :
    Condition.ofAllTokens tokens = .ok c ↔ DerivesCondition 0 tokens c :=
  ofAllTokens_eq_ok_iff.trans exists_shifts_iff

end ChannelFilter.Parser
