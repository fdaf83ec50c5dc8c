import Mathlib.Data.List.Forall2
import ChannelFilter.Proofs.RepeatedCalls

/-!
# Renamed channels

The reader takes the names of channels as they are, and of keywords and parentheses it looks at the
kind alone. Tokens in which the channels are renamed, and the texts of keywords and parentheses are
any others, are therefore read in the same way: as many are taken, as many groups are open
afterwards, and a condition has the names in it replaced. A failure has the same cause, where the
value of the offending token is that of the token in its place.

The renaming may be any function. It may give two channels one name, or a channel the name of a
keyword.

A step on the renamed state with the token in the place of another does what the other token does
on the state, renamed. The shifts of a run follow by induction, and its ending is one more step.
-/
namespace ChannelFilter

variable {f : String → String}

/-- The second token may stand in the place of the first when channels are renamed by `f`. What
keywords and parentheses are spelled like is left open. -/
structure Token.Renames (f : String → String) (token other : Token) : Prop where
  kind : other.kind = token.kind
  channel : token.kind = .channel → other.value = f token.value
  literal : token.kind ∈ [.comparison, .unary, .string, .number] → other.value = token.value

theorem Token.Renames.exists_value {token other : Token} (h : Token.Renames f token other) :
    ∃ value, other = { kind := token.kind, value } :=
  ⟨other.value, by rw [← h.kind]⟩

def Operand.renamed (f : String → String) : Operand → Operand
  | .channel name => .channel (f name)
  | operand => operand

def Predicate.renamed (f : String → String) (p : Predicate) : Predicate :=
  { p with channel := f p.channel, operand := p.operand.renamed f }

namespace Condition

mutual

def renamed (f : String → String) : Condition → Condition
  | .anyOf terms => .anyOf (allRenamed f terms)
  | .allOf factors => .allOf (allRenamed f factors)
  | .negation c => .negation (renamed f c)
  | .predicate p => .predicate (p.renamed f)

def allRenamed (f : String → String) : List Condition → List Condition
  | [] => []
  | c :: cs => renamed f c :: allRenamed f cs

end

theorem allRenamed_eq_map (f : String → String) (cs : List Condition) :
    allRenamed f cs = cs.map (renamed f) := by
  induction cs with
  | nil => rfl
  | cons c cs ih => rw [allRenamed, ih, List.map_cons]

theorem renamed_conjunction (f : String → String) (cs : List Condition) :
    (conjunction cs).renamed f = conjunction (cs.map (renamed f)) := by
  match cs with
  | [] => rfl
  | [_] => rfl
  | _ :: _ :: _ => simp [conjunction, renamed, allRenamed_eq_map]

theorem renamed_disjunction (f : String → String) (cs : List Condition) :
    (disjunction cs).renamed f = disjunction (cs.map (renamed f)) := by
  match cs with
  | [] => rfl
  | [_] => rfl
  | _ :: _ :: _ => simp [disjunction, renamed, allRenamed_eq_map]

theorem renamed_negatedIf (f : String → String) (negated : Bool) (c : Condition) :
    (c.negatedIf negated).renamed f = (c.renamed f).negatedIf negated := by
  cases negated <;> rfl

end Condition

namespace FilterError

/-- The value of the token that the cause shows, if it shows one. -/
def value? : FilterError → Option String
  | unexpectedTokenKind _ found => some found.value
  | unexpectedToken value => some value
  | unexpectedLeftOperand found => some found.value
  | unknownOperator value => some value
  | invalidNumber value => some value
  | trailingToken value => some value
  | expressionIncomplete | missingOperand | missingTokenAtEnd _ | nestingTooDeep _ => none

/-- The same cause with another value for the token that it shows. The kind of that token and the
kinds that are expected stay. -/
def withValue (value : String) : FilterError → FilterError
  | unexpectedTokenKind expected found => unexpectedTokenKind expected { found with value }
  | unexpectedToken _ => unexpectedToken value
  | unexpectedLeftOperand found => unexpectedLeftOperand { found with value }
  | unknownOperator _ => unknownOperator value
  | invalidNumber _ => invalidNumber value
  | trailingToken _ => trailingToken value
  | cause => cause

theorem withValue_of_none {cause : FilterError} (none : cause.value? = none) (value : String) :
    cause.withValue value = cause := by
  cases cause <;> simp_all [value?, withValue]

end FilterError

namespace Parser

variable {limit : Option Nat} {opened : Nat} {s t : State} {token other : Token}
variable {tokens others : List Token} {cause : FilterError} {taken : Bool} {outcome : Outcome}

def Level.renamed (f : String → String) (level : Level) : Level :=
  { terms := level.terms.map (·.renamed f), factors := level.factors.map (·.renamed f) }

def Group.renamed (f : String → String) (group : Group) : Group :=
  { group with outer := group.outer.renamed f }

def Due.renamed (f : String → String) : Due → Due
  | .operator negated channel => .operator negated (f channel)
  | .operand negated channel comparison => .operand negated (f channel) comparison
  | due => due

def State.renamed (f : String → String) (s : State) : State :=
  { groups := s.groups.map (Group.renamed f), level := s.level.renamed f, due := s.due.renamed f }

/-- The step with the channels renamed, where `value` is the value of its token. -/
def Step.renamed (f : String → String) (value : String) : Step → Step
  | .shift next => .shift (next.renamed f)
  | .stop c => .stop (c.renamed f)
  | .reject cause taken => .reject (cause.withValue value) taken

namespace Level

theorem renamed_addFactor (f : String → String) (level : Level) (c : Condition) :
    (level.addFactor c).renamed f = (level.renamed f).addFactor (c.renamed f) := rfl

theorem renamed_term (f : String → String) (level : Level) :
    level.term.renamed f = (level.renamed f).term := by
  rw [term, Condition.renamed_conjunction, List.map_reverse]
  rfl

theorem renamed_endTerm (f : String → String) (level : Level) :
    level.endTerm.renamed f = (level.renamed f).endTerm := by
  simp only [endTerm, renamed, List.map_cons, List.map_nil, renamed_term]

theorem renamed_condition (f : String → String) (level : Level) :
    level.condition.renamed f = (level.renamed f).condition := by
  rw [condition, Condition.renamed_disjunction, List.map_reverse, List.map_cons, renamed_term]
  rfl

end Level

namespace State

@[simp] theorem length_groups_renamed (f : String → String) (s : State) :
    (s.renamed f).groups.length = s.groups.length :=
  List.length_map ..

theorem renamed_endFactor (f : String → String) (s : State) (negated : Bool) (c : Condition) :
    (s.endFactor negated c).renamed f = (s.renamed f).endFactor negated (c.renamed f) := by
  simp only [endFactor, renamed, Level.renamed_addFactor, Condition.renamed_negatedIf, Due.renamed]

theorem renamed_closeGroup (f : String → String) (s : State) (group : Group)
    (groups : List Group) :
    (s.closeGroup group groups).renamed f =
      (s.renamed f).closeGroup (group.renamed f) (groups.map (Group.renamed f)) := by
  rw [closeGroup, renamed_endFactor, Level.renamed_condition]
  rfl

end State

theorem renamed_operandOf (h : Token.Renames f token other) :
    operandOf other =
      match operandOf token with
      | .ok operand => .ok (operand.renamed f)
      | .error cause => .error (cause.withValue other.value) := by
  obtain ⟨kind, value⟩ := token
  obtain ⟨value', rfl⟩ := h.exists_value
  cases kind with
  | channel =>
      obtain rfl : value' = f value := h.channel rfl
      rfl
  | string =>
      obtain rfl : value' = value := h.literal (by simp)
      rfl
  | number =>
      obtain rfl : value' = value := h.literal (by simp)
      simp only [operandOf]
      cases Number.read? value' <;> simp [Operand.renamed, FilterError.withValue]
  | _ => simp [operandOf, FilterError.withValue]

theorem renamed_stepFactor (h : Token.Renames f token other) (negated : Bool) :
    (s.renamed f).stepFactor limit opened negated other =
      (s.stepFactor limit opened negated token).renamed f other.value := by
  obtain ⟨kind, value⟩ := token
  obtain ⟨value', rfl⟩ := h.exists_value
  cases kind with
  | channel =>
      obtain rfl : value' = f value := h.channel rfl
      rfl
  | openParen =>
      simp only [State.stepFactor, State.length_groups_renamed]
      cases limitReached limit (opened + s.groups.length) <;> rfl
  | not => cases negated <;> rfl
  | _ => rfl

theorem renamed_stepOperator (h : Token.Renames f token other) (negated : Bool)
    (channel : String) :
    (s.renamed f).stepOperator negated (f channel) other =
      (s.stepOperator negated channel token).renamed f other.value := by
  by_cases known : token.kind ∈ operatorKinds
  · -- An operator is the same token.
    have literal : token.kind ∈ [.comparison, .unary, .string, .number] :=
      List.mem_append_left [Token.Kind.string, .number] known
    have same : other = token := by
      obtain ⟨value, rfl⟩ := h.exists_value
      exact congrArg (Token.mk token.kind) (h.literal literal)
    rw [same]
    simp only [State.stepOperator, if_pos known]
    cases resolved : Catalog.resolve token with
    | ok comparison =>
        simp only
        split
        · rfl
        · rw [Step.renamed, State.renamed_endFactor]
          rfl
    | error cause =>
        cases resolve_eq_error resolved
        rfl
  · have unknown : other.kind ∉ operatorKinds := by rwa [h.kind]
    simp only [State.stepOperator, if_neg known, if_neg unknown, Step.renamed,
      FilterError.withValue]
    rw [← h.kind]

theorem renamed_stepOperand (h : Token.Renames f token other) (negated : Bool) (channel : String)
    (comparison : Comparison) :
    (s.renamed f).stepOperand negated (f channel) comparison other =
      (s.stepOperand negated channel comparison token).renamed f other.value := by
  simp only [State.stepOperand, renamed_operandOf h]
  cases operandOf token with
  | ok operand =>
      simp only [Step.renamed, State.renamed_endFactor]
      rfl
  | error cause => rfl

theorem renamed_stepConnective (h : Token.Renames f token other) :
    (s.renamed f).stepConnective other = (s.stepConnective token).renamed f other.value := by
  obtain ⟨groups, level, due⟩ := s
  obtain ⟨kind, value⟩ := token
  obtain ⟨value', rfl⟩ := h.exists_value
  cases kind with
  | and => rfl
  | or =>
      simp only [State.stepConnective, Step.renamed, State.renamed, Level.renamed_endTerm,
        Due.renamed]
  | closeParen =>
      cases groups with
      | nil => exact congrArg Step.stop (level.renamed_condition f).symm
      | cons group groups =>
          exact congrArg Step.shift (State.renamed_closeGroup f _ group groups).symm
  | _ =>
      cases groups with
      | nil => exact congrArg Step.stop (level.renamed_condition f).symm
      | cons group groups => rfl

/-- A token in the place of another does what that one does, with the channels renamed. -/
theorem renamed_step (h : Token.Renames f token other) :
    (s.renamed f).step limit opened other =
      (s.step limit opened token).renamed f other.value := by
  obtain ⟨groups, level, due⟩ := s
  cases due with
  | factor negated => exact renamed_stepFactor h negated
  | operator negated channel => exact renamed_stepOperator h negated channel
  | operand negated channel comparison => exact renamed_stepOperand h negated channel comparison
  | connective => exact renamed_stepConnective h

/-- What a reading of renamed tokens returns in the place of what the tokens themselves give. The
tokens `token` and `other` stand at the index where either reading ends, if it is not the end. -/
inductive Answers (f : String → String) (token other : Option Token) :
    Except FilterError Condition → Except FilterError Condition → Prop
  | read (c : Condition) : Answers f token other (.ok c) (.ok (c.renamed f))
  | unnamed {cause : FilterError} (none : cause.value? = none) :
      Answers f token other (.error cause) (.error cause)
  | named {cause : FilterError} {found place : Token} (here : token = some found)
      (there : other = some place) (shown : cause.value? = some found.value) :
      Answers f token other (.error cause) (.error (cause.withValue place.value))

theorem Rejection.value?_eq (h : Rejection limit opened s token cause taken) :
    cause.value? = none ∨ cause.value? = some token.value := by
  cases h with
  | tooDeep => exact .inl rfl
  | _ => exact .inr rfl

theorem answers_finish (f : String → String) (token other : Option Token) (s : State) :
    Answers f token other s.finish (s.renamed f).finish := by
  obtain ⟨groups, level, due⟩ := s
  cases due with
  | factor negated => exact .unnamed rfl
  | operator negated channel => exact .unnamed rfl
  | operand negated channel comparison => exact .unnamed rfl
  | connective =>
      cases groups with
      | nil =>
          have done : State.finish (State.renamed f { groups := [], level, due := .connective }) =
              .ok (level.condition.renamed f) := congrArg Except.ok (level.renamed_condition f).symm
          rw [done]
          exact .read level.condition
      | cons group groups => exact .unnamed rfl

/-- A run that ends in a state ends in the renamed one as well, for the same reason. -/
theorem Ending.renamed (ending : Ending limit opened s tokens outcome)
    (h : List.Forall₂ (Token.Renames f) tokens others) :
    ∃ result, run limit opened (s.renamed f) others = { outcome with result } ∧
      Answers f tokens.head? others.head? outcome.result result := by
  cases ending with
  | finish =>
      cases h
      exact ⟨_, by rw [run, State.length_groups_renamed], answers_finish f _ _ s⟩
  | @stop token rest c done next =>
      cases h with
      | @cons _ other _ others head tail =>
          have stop : (s.renamed f).step limit opened other = .stop (c.renamed f) := by
            rw [renamed_step head, step_eq_stop_iff.2 ⟨done, next⟩]
            rfl
          exact ⟨.ok (c.renamed f), by simp only [run, stop, State.length_groups_renamed], .read c⟩
  | @reject token rest cause taken rejection =>
      cases h with
      | @cons _ other _ others head tail =>
          have reject : (s.renamed f).step limit opened other =
              .reject (cause.withValue other.value) taken := by
            rw [renamed_step head, rejection.step_eq]
            rfl
          refine ⟨.error (cause.withValue other.value), ?_, ?_⟩
          · simp only [run, reject, State.length_groups_renamed]
          · rcases rejection.value?_eq with none | shown
            · rw [FilterError.withValue_of_none none]
              exact .unnamed none
            · exact .named rfl rfl shown

/-- A run on renamed tokens shifts as many of them, and what it ends with is decided by the token
behind those. -/
theorem run_renamed {front rest : List Token} (shifts : Shifts limit opened s front t)
    (ending : Ending limit opened t rest outcome)
    (h : List.Forall₂ (Token.Renames f) (front ++ rest) others) :
    ∃ result, run limit opened (s.renamed f) others =
        { outcome with result, taken := outcome.taken + front.length } ∧
      Answers f (front ++ rest)[front.length]? others[front.length]? outcome.result result := by
  induction shifts generalizing others with
  | nil s =>
      obtain ⟨result, ends, answers⟩ := ending.renamed h
      refine ⟨result, ends, ?_⟩
      rwa [List.head?_eq_getElem?, List.head?_eq_getElem?] at answers
  | @cons s t u token front first _ ih =>
      cases h with
      | @cons _ other _ others head tail =>
          obtain ⟨result, ends, answers⟩ := ih ending tail
          have step : (s.renamed f).step limit opened other = .shift (t.renamed f) := by
            rw [renamed_step head, first.step_eq]
            rfl
          refine ⟨result, ?_, answers⟩
          simp only [run, step, ends, Outcome.afterToken, List.length_cons, Nat.add_assoc]

def withTokens (parser : Parser) (tokens : List Token) : Parser :=
  { parser with cursor := { parser.cursor with tokens } }

/-- The index of the token in front of which a call stops or which it refuses. There is none if the
call reaches the end of the tokens. -/
def endOf (parser : Parser) (call : Call) : Nat :=
  parser.cursor.position + (parser.keptBy call).length

theorem endOf_eq (parser : Parser) (call : Call) : parser.endOf call = parser.endOf .lenient := by
  rw [endOf, endOf, keptBy_eq, keptBy_eq]

theorem endOf_of_ok {parser : Parser} {c : Condition} (read : parser.parse.1 = .ok c) :
    parser.endOf .lenient = parser.parse.2.cursor.position := by
  obtain ⟨-, forward, atMost⟩ := parser.parse_moves
  rw [endOf, keptBy_eq, read, kept, takenUpTo, List.length_take]
  omega

/-- A lenient call on renamed tokens goes as far. -/
theorem parse_withTokens (parser : Parser)
    (h : List.Forall₂ (Token.Renames f) parser.cursor.tokens others) :
    ∃ result, (parser.withTokens others).parse = (result, parser.parse.2.withTokens others) ∧
      Answers f parser.cursor.tokens[parser.endOf .lenient]? others[parser.endOf .lenient]?
        parser.parse.1 result := by
  obtain ⟨front, t, rest, outcome, same, whole, shifts, ending, called⟩ :=
    exists_kept_ending parser
  have left : List.Forall₂ (Token.Renames f) parser.remaining
      (parser.withTokens others).remaining := List.forall₂_drop _ h
  rw [whole] at left
  obtain ⟨result, ends, answers⟩ := run_renamed shifts ending left
  have sameRun : run (some maxNesting) (parser.withTokens others).opened .start
      (parser.withTokens others).remaining =
        { outcome with result, taken := outcome.taken + front.length } := ends
  refine ⟨result, ?_, ?_⟩
  · rw [called, parse, parseWithin, sameRun]
    rfl
  · rw [← whole] at answers
    simp only [remaining, Cursor.remaining, List.getElem?_drop] at answers
    rw [endOf, keptBy_eq, same, called]
    exact answers

theorem answers_refuseTrailing (c : Condition)
    (h : List.Forall₂ (Token.Renames f) tokens others) :
    Answers f tokens.head? others.head? (refuseTrailing c tokens)
      (refuseTrailing (c.renamed f) others) := by
  cases h with
  | nil => exact .read c
  | cons _ _ => exact .named rfl rfl rfl

/-- A strict call on renamed tokens returns what the lenient one does, or refuses the token in the
place of the one that is refused. -/
theorem answers_parseComplete (parser : Parser)
    (h : List.Forall₂ (Token.Renames f) parser.cursor.tokens others) :
    Answers f parser.cursor.tokens[parser.endOf .lenient]? others[parser.endOf .lenient]?
      parser.parseComplete.1 (parser.withTokens others).parseComplete.1 := by
  obtain ⟨result, parsed, answers⟩ := parse_withTokens parser h
  rcases called : parser.parse with ⟨first, next⟩
  have ends : ∀ c, parser.parse.1 = .ok c →
      parser.endOf .lenient = parser.parse.2.cursor.position := fun c read => endOf_of_ok read
  have whole := parser.parse_moves.1
  rw [called] at parsed answers ends whole
  rw [parseComplete, parseComplete, called, parsed]
  cases answers with
  | read c =>
      have behind : List.Forall₂ (Token.Renames f) next.remaining
          (next.withTokens others).remaining := by
        refine List.forall₂_drop _ ?_
        rwa [whole]
      have refused := answers_refuseTrailing c behind
      rw [ends c rfl, ← whole]
      simp only [remaining, Cursor.remaining, List.head?_drop] at refused
      exact refused
  | unnamed none => exact .unnamed none
  | named here there shown => exact .named here there shown

/-- Calls on tokens of which one list renames the channels of the other go equally far and leave
equally many groups open. They return the same condition up to the names in it, or fail for the
same cause up to the value of the token at which they end. -/
theorem call_renamed (f : String → String) (parser : Parser) (others : List Token) (call : Call)
    (h : List.Forall₂ (Token.Renames f) parser.cursor.tokens others) :
    ((parser.withTokens others).call call).2 = (parser.call call).2.withTokens others ∧
      Answers f parser.cursor.tokens[parser.endOf call]? others[parser.endOf call]?
        (parser.call call).1 ((parser.withTokens others).call call).1 := by
  obtain ⟨result, parsed, answers⟩ := parse_withTokens parser h
  rw [call_snd, call_snd, endOf_eq]
  refine ⟨by rw [parsed], ?_⟩
  cases call with
  | lenient =>
      rw [Parser.call, Parser.call, parsed]
      exact answers
  | strict => exact answers_parseComplete parser h

/-- The tokens of `a = b and not c is null)`. -/
def spelledSample : List Token :=
  [⟨.channel, "a"⟩, ⟨.comparison, "="⟩, ⟨.channel, "b"⟩, ⟨.and, "and"⟩, ⟨.not, "not"⟩,
   ⟨.channel, "c"⟩, ⟨.unary, "is null"⟩, ⟨.closeParen, ")"⟩]

/-- Gives every channel the name "or", and keywords and parentheses one and the same text. -/
def respelled (token : Token) : Token :=
  match token.kind with
  | .channel => { token with value := "or" }
  | .comparison | .unary | .string | .number => token
  | _ => { token with value := "?" }

theorem renames_respelled (token : Token) :
    Token.Renames (fun _ => "or") token (respelled token) := by
  obtain ⟨kind, value⟩ := token
  cases kind <;> exact ⟨rfl, by simp [respelled], by simp [respelled]⟩

/-- The parenthesis that is refused is shown with the text that it has. -/
theorem call_renamed_sample :
    List.Forall₂ (Token.Renames fun _ => "or") (ofTokens spelledSample).cursor.tokens
        (spelledSample.map respelled) ∧
      ((ofTokens spelledSample).call .strict).1 = .error (.trailingToken ")") ∧
      ((ofTokens (spelledSample.map respelled)).call .strict).1 = .error (.trailingToken "?") ∧
      ((ofTokens (spelledSample.map respelled)).call .strict).2 =
        ((ofTokens spelledSample).call .strict).2.withTokens (spelledSample.map respelled) ∧
      Answers (fun _ => "or") (some ⟨.closeParen, ")"⟩) (some ⟨.closeParen, "?"⟩)
        (.error (.trailingToken ")")) (.error (.trailingToken "?")) := by
  have renames : List.Forall₂ (Token.Renames fun _ => "or") spelledSample
      (spelledSample.map respelled) :=
    List.forall₂_map_right_iff.2 (List.forall₂_same.2 fun token _ => renames_respelled token)
  exact ⟨renames, rfl, rfl, call_renamed _ (ofTokens spelledSample) _ .strict renames⟩

end Parser

end ChannelFilter
