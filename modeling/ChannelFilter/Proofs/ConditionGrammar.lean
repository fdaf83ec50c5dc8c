import ChannelFilter.Parser.Run

/-!
# The grammar of conditions

The grammar says which lists of tokens derive which condition, without reference to a reader:

    condition d ::= term d ("or" term d)*
    term d      ::= factor d ("and" factor d)*
    factor d    ::= "not"? primary d
    primary d   ::= predicate | "(" condition (d + 1) ")", the latter only for d < 128
    predicate   ::= channel (comparison operand | unary)
    operand     ::= channel | string | number

The number `d` is the level of nesting. A list of terms or factors with a single member denotes
that member; a longer one denotes a node over its members in the order of the tokens. Keywords and
parentheses are told by their kinds alone. An operator has to be in the catalog under its own
category, and the text of a number has to be readable.
-/
namespace ChannelFilter.Grammar

inductive DerivesOperand : Token → Operand → Prop
  | channel {token : Token} (kind : token.kind = .channel) :
      DerivesOperand token (.channel token.value)
  | string {token : Token} (kind : token.kind = .string) :
      DerivesOperand token (.string (Text.unquoted token.value))
  | number {token : Token} {n : Number} (kind : token.kind = .number)
      (readable : Number.read? token.value = some n) : DerivesOperand token (.number n)

/-- The catalog has the spelling of the operator in the given category, for the comparison. -/
def IsOperator (category : Token.Kind) (operator : Token) (comparison : Comparison) : Prop :=
  operator.kind = category ∧ ⟨operator.value, category, some comparison⟩ ∈ Catalog.operators

inductive DerivesPredicate : List Token → Predicate → Prop
  | comparison {channel operator right : Token} {comparison : Comparison} {operand : Operand}
      (left : channel.kind = .channel) (known : IsOperator .comparison operator comparison)
      (derives : DerivesOperand right operand) :
      DerivesPredicate [channel, operator, right] ⟨channel.value, comparison, operand⟩
  | unary {channel operator : Token} {comparison : Comparison}
      (left : channel.kind = .channel) (known : IsOperator .unary operator comparison) :
      DerivesPredicate [channel, operator] ⟨channel.value, comparison, .null⟩

/-- One or more parts with a token of the separating kind between any two. -/
inductive DerivesSeries (separator : Token.Kind) (Part : List Token → Condition → Prop) :
    List Token → List Condition → Prop
  | one {tokens : List Token} {c : Condition} (part : Part tokens c) :
      DerivesSeries separator Part tokens [c]
  | more {front rest : List Token} {token : Token} {c : Condition} {cs : List Condition}
      (part : Part front c) (kind : token.kind = separator)
      (series : DerivesSeries separator Part rest cs) :
      DerivesSeries separator Part (front ++ token :: rest) (c :: cs)

/-- What a series denotes: its only member, or the node over its members. -/
inductive DerivesJoined (separator : Token.Kind) (node : List Condition → Condition)
    (Part : List Token → Condition → Prop) : List Token → Condition → Prop
  | single {tokens : List Token} {c : Condition}
      (series : DerivesSeries separator Part tokens [c]) :
      DerivesJoined separator node Part tokens c
  | several {tokens : List Token} {cs : List Condition}
      (series : DerivesSeries separator Part tokens cs) (two : 2 ≤ cs.length) :
      DerivesJoined separator node Part tokens (node cs)

/-- A predicate, or what `Inner` admits in parentheses. -/
inductive DerivesPrimary (Inner : List Token → Condition → Prop) : List Token → Condition → Prop
  | predicate {tokens : List Token} {p : Predicate} (derives : DerivesPredicate tokens p) :
      DerivesPrimary Inner tokens (.predicate p)
  | group {tokens : List Token} {opening closing : Token} {c : Condition}
      (openParen : opening.kind = .openParen) (inner : Inner tokens c)
      (closeParen : closing.kind = .closeParen) :
      DerivesPrimary Inner (opening :: tokens ++ [closing]) c

inductive DerivesFactor (Inner : List Token → Condition → Prop) : List Token → Condition → Prop
  | plain {tokens : List Token} {c : Condition} (primary : DerivesPrimary Inner tokens c) :
      DerivesFactor Inner tokens c
  | negation {tokens : List Token} {token : Token} {c : Condition} (kind : token.kind = .not)
      (primary : DerivesPrimary Inner tokens c) :
      DerivesFactor Inner (token :: tokens) (.negation c)

def DerivesTerm (Inner : List Token → Condition → Prop) : List Token → Condition → Prop :=
  DerivesJoined .and .allOf (DerivesFactor Inner)

/-- The tokens derive the condition at the given level of nesting. Another group may be opened
only below the limit. -/
def DerivesCondition (depth : Nat) : List Token → Condition → Prop :=
  DerivesJoined .or .anyOf (DerivesTerm fun tokens c =>
    ∃ _ : depth < Parser.maxNesting, DerivesCondition (depth + 1) tokens c)
termination_by Parser.maxNesting - depth

/-- What may stand in parentheses at the given level. -/
def DerivesInside (depth : Nat) (tokens : List Token) (c : Condition) : Prop :=
  depth < Parser.maxNesting ∧ DerivesCondition (depth + 1) tokens c

theorem derivesCondition_eq (depth : Nat) :
    DerivesCondition depth =
      DerivesJoined .or .anyOf (DerivesTerm (DerivesInside depth)) := by
  rw [DerivesCondition]
  simp only [exists_prop]
  rfl

section Series
variable {separator : Token.Kind} {Part : List Token → Condition → Prop}
variable {node : List Condition → Condition}
variable {tokens front rest : List Token} {token : Token} {c : Condition}
variable {cs ds : List Condition}

theorem DerivesSeries.ne_nil (h : DerivesSeries separator Part tokens cs) : cs ≠ [] := by
  cases h <;> simp

theorem DerivesSeries.part (h : DerivesSeries separator Part tokens [c]) : Part tokens c := by
  cases h with
  | one part => exact part
  | more _ _ series => exact absurd rfl series.ne_nil

theorem DerivesSeries.append (h : DerivesSeries separator Part front cs)
    (kind : token.kind = separator) (h' : DerivesSeries separator Part rest ds) :
    DerivesSeries separator Part (front ++ token :: rest) (cs ++ ds) := by
  induction h with
  | one first => exact .more first kind h'
  | more first between _ ih =>
      rw [List.append_assoc, List.cons_append]
      exact .more first between ih

theorem derivesJoined_iff {collapse : List Condition → Condition}
    (lone : ∀ c, collapse [c] = c) (several : ∀ cs, 2 ≤ cs.length → collapse cs = node cs) :
    DerivesJoined separator node Part tokens c ↔
      ∃ cs, DerivesSeries separator Part tokens cs ∧ collapse cs = c := by
  constructor
  · intro h
    cases h with
    | single series => exact ⟨_, series, lone c⟩
    | several series two => exact ⟨_, series, several _ two⟩
  · intro h
    obtain ⟨cs, series, rfl⟩ := h
    match cs, series.ne_nil with
    | [c], _ =>
        rw [lone]
        exact .single series
    | c :: d :: cs, _ =>
        rw [several _ (by simp)]
        exact .several series (by simp)

end Series

section Levels
variable {Inner : List Token → Condition → Prop} {tokens front rest : List Token}
variable {token : Token} {c d : Condition} {cs ds : List Condition} {depth : Nat}

theorem derivesTerm_iff :
    DerivesTerm Inner tokens c ↔
      ∃ cs, DerivesSeries .and (DerivesFactor Inner) tokens cs ∧ Condition.conjunction cs = c := by
  refine derivesJoined_iff (fun _ => rfl) fun cs two => ?_
  match cs, two with
  | _ :: _ :: _, _ => rfl

theorem derivesCondition_iff :
    DerivesCondition depth tokens c ↔
      ∃ cs, DerivesSeries .or (DerivesTerm (DerivesInside depth)) tokens cs ∧
        Condition.disjunction cs = c := by
  rw [derivesCondition_eq]
  refine derivesJoined_iff (fun _ => rfl) fun cs two => ?_
  match cs, two with
  | _ :: _ :: _, _ => rfl

theorem DerivesTerm.and (h : DerivesTerm Inner front c) (kind : token.kind = .and)
    (h' : DerivesTerm Inner rest d) : ∃ e, DerivesTerm Inner (front ++ token :: rest) e := by
  obtain ⟨cs, factors, -⟩ := derivesTerm_iff.1 h
  obtain ⟨ds, others, -⟩ := derivesTerm_iff.1 h'
  exact ⟨_, derivesTerm_iff.2 ⟨_, factors.append kind others, rfl⟩⟩

/-- An "and" joins the last term in front of it with the first one behind it. -/
theorem DerivesSeries.and (h : DerivesSeries .or (DerivesTerm Inner) front cs)
    (kind : token.kind = .and) (h' : DerivesSeries .or (DerivesTerm Inner) rest ds) :
    ∃ es, DerivesSeries .or (DerivesTerm Inner) (front ++ token :: rest) es := by
  induction h with
  | one last =>
      cases h' with
      | one first =>
          obtain ⟨e, joined⟩ := last.and kind first
          exact ⟨[e], .one joined⟩
      | more first between others =>
          obtain ⟨e, joined⟩ := last.and kind first
          rw [← List.cons_append, ← List.append_assoc]
          exact ⟨_, .more joined between others⟩
  | more first between _ ih =>
      obtain ⟨es, joined⟩ := ih
      rw [List.append_assoc, List.cons_append]
      exact ⟨_, .more first between joined⟩

/-- Two conditions with a connective between them make another one. -/
theorem exists_derivesCondition_append (h : DerivesCondition depth front c)
    (kind : token.kind = .and ∨ token.kind = .or) (h' : DerivesCondition depth rest d) :
    ∃ e, DerivesCondition depth (front ++ token :: rest) e := by
  obtain ⟨cs, terms, -⟩ := derivesCondition_iff.1 h
  obtain ⟨ds, others, -⟩ := derivesCondition_iff.1 h'
  rcases kind with kind | kind
  · obtain ⟨es, joined⟩ := terms.and kind others
    exact ⟨_, derivesCondition_iff.2 ⟨es, joined, rfl⟩⟩
  · exact ⟨_, derivesCondition_iff.2 ⟨_, terms.append kind others, rfl⟩⟩

theorem exists_derivesCondition_of_factor (h : DerivesFactor (DerivesInside depth) tokens c) :
    ∃ d, DerivesCondition depth tokens d := by
  have term : DerivesTerm (DerivesInside depth) tokens c := .single (.one h)
  exact ⟨_, derivesCondition_iff.2 ⟨_, .one term, rfl⟩⟩

end Levels

end ChannelFilter.Grammar
