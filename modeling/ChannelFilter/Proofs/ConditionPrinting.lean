import ChannelFilter.Proofs.GrammarReading
import ChannelFilter.Proofs.StrippedText

/-!
# The conditions that tokens can express

A condition is written with parentheses only where precedence forces them: around a conjunction or
disjunction under a conjunction, around a disjunction under a disjunction, and around anything but
a predicate under a negation. How many such groups stand inside one another is what the condition
needs of the nesting limit.

Every condition that keeps within the limit is read back from what is written for it, provided its
lists have two members at least and its predicates can be written. Conversely only such conditions
are ever read, whatever the tokens are. That the text of a number reads back is an assumption on
the written condition here; nothing is said about which numbers have it.
-/
namespace ChannelFilter

/-- Where a condition stands as a part of another. -/
inductive Position
  | term
  | factor
  | negated
deriving DecidableEq, Repr

namespace Position

/-- Whether precedence forces parentheses around a condition at the position. -/
def forces : Position → Condition → Bool
  | term, .anyOf _ => true
  | factor, .anyOf _ => true
  | factor, .allOf _ => true
  | negated, .anyOf _ => true
  | negated, .allOf _ => true
  | negated, .negation _ => true
  | _, _ => false

/-- The tokens of a condition, in parentheses if the position forces them. -/
def enclose (position : Position) (c : Condition) (tokens : List Token) : List Token :=
  if position.forces c then ⟨.openParen, "("⟩ :: tokens ++ [⟨.closeParen, ")"⟩] else tokens

/-- The number of groups around a condition at the position. -/
def cost (position : Position) (c : Condition) : Nat :=
  (position.forces c).toNat

@[simp] theorem cost_predicate (position : Position) (p : Predicate) :
    position.cost (.predicate p) = 0 := by
  cases position <;> rfl

@[simp] theorem cost_factor_negation (c : Condition) : factor.cost (.negation c) = 0 := rfl

@[simp] theorem cost_term_allOf (factors : List Condition) : term.cost (.allOf factors) = 0 := rfl

theorem cost_le_one (position : Position) (c : Condition) : position.cost c ≤ 1 :=
  Bool.toNat_le _

theorem cost_term_le_factor (c : Condition) : term.cost c ≤ factor.cost c := by
  cases c <;> simp [cost, forces]

theorem cost_factor_le_negated (c : Condition) : factor.cost c ≤ negated.cost c := by
  cases c <;> simp [cost, forces]

end Position

def Comparison.spelling : Comparison → String
  | .eq => "="
  | .ne => "!="
  | .lt => "<"
  | .gt => ">"
  | .lte => "<="
  | .gte => ">="

/-- The spelling of a comparison with null. There is one for `eq` and one for `ne`. -/
def Comparison.nullSpelling : Comparison → String
  | .ne => "is not null"
  | _ => "is null"

def Operand.tokens (comparison : Comparison) : Operand → List Token
  | .null => [⟨.unary, comparison.nullSpelling⟩]
  | .channel name => [⟨.comparison, comparison.spelling⟩, ⟨.channel, name⟩]
  | .string text => [⟨.comparison, comparison.spelling⟩, ⟨.string, "\"" ++ text ++ "\""⟩]
  | .number n => [⟨.comparison, comparison.spelling⟩, ⟨.number, n.text⟩]

def Predicate.tokens (p : Predicate) : List Token :=
  ⟨.channel, p.channel⟩ :: p.operand.tokens p.comparison

/-- A null operand stands only where it can be written, and no string has a quote at an end. -/
structure Predicate.Expressible (p : Predicate) : Prop where
  null : p.operand = .null → p.comparison = .eq ∨ p.comparison = .ne
  string : ∀ text, p.operand = .string text → Text.Bare Text.isQuote text.toList

/-- A predicate that is expressible, with a number that is read from its own text. -/
structure Predicate.Writable (p : Predicate) : Prop extends p.Expressible where
  number : ∀ n, p.operand = .number n → Number.read? n.text = some n

namespace Condition

mutual

/-- The condition as tokens, with parentheses only where precedence forces them. -/
def tokens : Condition → List Token
  | .anyOf terms => partTokens .term ⟨.or, "or"⟩ terms
  | .allOf factors => partTokens .factor ⟨.and, "and"⟩ factors
  | .negation c => ⟨.not, "not"⟩ :: Position.negated.enclose c (tokens c)
  | .predicate p => p.tokens

/-- The parts of a condition as tokens, with the separator between any two. -/
def partTokens (position : Position) (separator : Token) : List Condition → List Token
  | [] => []
  | [c] => position.enclose c (tokens c)
  | c :: d :: cs =>
      position.enclose c (tokens c) ++ separator :: partTokens position separator (d :: cs)

end

mutual

/-- How many of the forced groups stand inside one another. -/
def need : Condition → Nat
  | .anyOf terms => partNeed .term terms
  | .allOf factors => partNeed .factor factors
  | .negation c => Position.negated.cost c + need c
  | .predicate _ => 0

/-- How many groups stand inside one another in any of the parts. -/
def partNeed (position : Position) : List Condition → Nat
  | [] => 0
  | c :: cs => max (position.cost c + need c) (partNeed position cs)

end

/-- Every list in the condition has two members at least, and every predicate in it satisfies
`Leaf`. -/
inductive Regular (Leaf : Predicate → Prop) : Condition → Prop
  | anyOf {terms : List Condition} (two : 2 ≤ terms.length)
      (regular : ∀ c ∈ terms, Regular Leaf c) : Regular Leaf (.anyOf terms)
  | allOf {factors : List Condition} (two : 2 ≤ factors.length)
      (regular : ∀ c ∈ factors, Regular Leaf c) : Regular Leaf (.allOf factors)
  | negation {c : Condition} (regular : Regular Leaf c) : Regular Leaf (.negation c)
  | predicate {p : Predicate} (leaf : Leaf p) : Regular Leaf (.predicate p)

end Condition

namespace Grammar
open Condition

variable {depth : Nat} {tokens : List Token} {c : Condition} {cs : List Condition}
variable {position : Position}

theorem isOperator_spelling (comparison : Comparison) :
    IsOperator .comparison ⟨.comparison, comparison.spelling⟩ comparison := by
  cases comparison <;> exact ⟨rfl, by decide⟩

theorem isOperator_nullSpelling {comparison : Comparison}
    (h : comparison = .eq ∨ comparison = .ne) :
    IsOperator .unary ⟨.unary, comparison.nullSpelling⟩ comparison := by
  rcases h with rfl | rfl <;> exact ⟨rfl, by decide⟩

theorem derivesPredicate_tokens {p : Predicate} (h : p.Writable) :
    DerivesPredicate p.tokens p := by
  obtain ⟨channel, comparison, operand⟩ := p
  have known := isOperator_spelling comparison
  cases operand with
  | null => exact .unary rfl (isOperator_nullSpelling (h.null rfl))
  | channel name => exact .comparison rfl known (.channel rfl)
  | string text =>
      have right : DerivesOperand ⟨.string, "\"" ++ text ++ "\""⟩
          (.string (Text.unquoted ("\"" ++ text ++ "\""))) := .string rfl
      rw [Text.unquoted_quote (h.string text rfl)] at right
      exact .comparison rfl known right
  | number n => exact .comparison rfl known (.number rfl (h.number n rfl))

/-- The nonterminal of a position. -/
def DerivesPart (depth : Nat) : Position → List Token → Condition → Prop
  | .term => DerivesTerm (DerivesInside depth)
  | .factor => DerivesFactor (DerivesInside depth)
  | .negated => DerivesPrimary (DerivesInside depth)

theorem derivesPart_of_primary (position : Position)
    (h : DerivesPrimary (DerivesInside depth) tokens c) : DerivesPart depth position tokens c := by
  cases position with
  | term => exact .single (.one (.plain h))
  | factor => exact .plain h
  | negated => exact h

/-- What is written for a condition derives it where no parentheses are forced, as long as the
groups inside keep within the limit. -/
structure Derivable (c : Condition) : Prop where
  alone : ∀ depth, c.need + depth ≤ Parser.maxNesting → DerivesCondition depth c.tokens c
  part : ∀ position depth, position.forces c = false → c.need + depth ≤ Parser.maxNesting →
    DerivesPart depth position c.tokens c

theorem Derivable.enclosed (h : Derivable c) (position : Position)
    (fits : position.cost c + c.need + depth ≤ Parser.maxNesting) :
    DerivesPart depth position (position.enclose c c.tokens) c := by
  unfold Position.cost at fits
  unfold Position.enclose
  cases forced : position.forces c with
  | false =>
      simp only [forced, Bool.toNat_false] at fits
      exact h.part position depth forced (by omega)
  | true =>
      simp only [forced, Bool.toNat_true] at fits
      have inside : DerivesInside depth c.tokens c := ⟨by omega, h.alone (depth + 1) (by omega)⟩
      exact derivesPart_of_primary position (.group rfl inside rfl)

theorem derivesSeries_partTokens (separator : Token) (derivable : ∀ c ∈ cs, Derivable c)
    (nonempty : cs ≠ []) (fits : partNeed position cs + depth ≤ Parser.maxNesting) :
    DerivesSeries separator.kind (DerivesPart depth position)
      (partTokens position separator cs) cs := by
  induction cs with
  | nil => exact absurd rfl nonempty
  | cons c cs ih =>
      simp only [partNeed] at fits
      have first : DerivesPart depth position (position.enclose c c.tokens) c :=
        (derivable c (by simp)).enclosed position (by omega)
      cases cs with
      | nil => exact .one first
      | cons d cs =>
          have rest := ih (fun c member => derivable c (by simp [member])) (by simp) (by omega)
          exact .more first rfl rest

theorem derivable_of_part (never : Position.term.forces c = false)
    (part : ∀ position depth, position.forces c = false → c.need + depth ≤ Parser.maxNesting →
      DerivesPart depth position c.tokens c) : Derivable c := by
  refine ⟨fun depth fits => ?_, part⟩
  rw [derivesCondition_eq]
  exact .single (.one (part .term depth never fits))

theorem derivable_of_regular (h : c.Regular Predicate.Writable) : Derivable c := by
  induction h with
  | @anyOf terms two regular ih =>
      refine ⟨fun depth fits => ?_, fun position depth never => ?_⟩
      · simp only [need] at fits
        have nonempty : terms ≠ [] := List.ne_nil_of_length_pos (by omega)
        rw [derivesCondition_eq]
        exact .several (derivesSeries_partTokens ⟨.or, "or"⟩ ih nonempty fits) two
      · -- At every position a disjunction is enclosed.
        cases position <;> simp [Position.forces] at never
  | @allOf factors two regular ih =>
      refine derivable_of_part rfl fun position depth never fits => ?_
      simp only [need] at fits
      have nonempty : factors ≠ [] := List.ne_nil_of_length_pos (by omega)
      cases position with
      | term => exact .several (derivesSeries_partTokens ⟨.and, "and"⟩ ih nonempty fits) two
      | factor => simp [Position.forces] at never
      | negated => simp [Position.forces] at never
  | negation regular ih =>
      refine derivable_of_part rfl fun position depth never fits => ?_
      simp only [need] at fits
      have factor : DerivesPart depth .factor (Condition.negation _).tokens (.negation _) :=
        .negation rfl (ih.enclosed .negated fits)
      cases position with
      | term => exact .single (.one factor)
      | factor => exact factor
      | negated => simp [Position.forces] at never
  | predicate leaf =>
      refine derivable_of_part rfl fun position depth _ _ => ?_
      exact derivesPart_of_primary position (.predicate (derivesPredicate_tokens leaf))

/-- The condition is regular, and the groups around and inside it keep within the limit. -/
def Keeps (depth : Nat) (position : Position) (c : Condition) : Prop :=
  c.Regular Predicate.Expressible ∧ position.cost c + c.need + depth ≤ Parser.maxNesting

theorem eq_or_ne_of_isOperator {token : Token} {comparison : Comparison}
    (h : IsOperator .unary token comparison) : comparison = .eq ∨ comparison = .ne := by
  have entry := h.2
  simp only [Catalog.operators, List.mem_cons, Operator.mk.injEq] at entry
  cases comparison <;> simp_all

theorem expressible_of_derivesPredicate {p : Predicate} (h : DerivesPredicate tokens p) :
    p.Expressible := by
  cases h with
  | comparison left known derives =>
      constructor
      · intro h
        cases h
        cases derives
      · intro text h
        cases h
        cases derives with
        | string => exact Text.bare_unquoted _
  | unary left known =>
      constructor
      · intro _
        exact eq_or_ne_of_isOperator known
      · intro text h
        cases h

theorem Keeps.mono {other : Position} (h : Keeps depth position c)
    (le : other.cost c ≤ position.cost c) : Keeps depth other c := by
  obtain ⟨regular, fits⟩ := h
  exact ⟨regular, by omega⟩

theorem keeps_of_derivesSeries {separator : Token.Kind} {Part : List Token → Condition → Prop}
    (part : ∀ tokens c, Part tokens c → Keeps depth position c)
    (h : DerivesSeries separator Part tokens cs) :
    (∀ c ∈ cs, c.Regular Predicate.Expressible) ∧
      partNeed position cs + depth ≤ Parser.maxNesting := by
  induction h with
  | one first =>
      obtain ⟨regular, fits⟩ := part _ _ first
      simp only [List.mem_singleton, forall_eq, partNeed]
      exact ⟨regular, by omega⟩
  | more first kind _ ih =>
      obtain ⟨regular, fits⟩ := part _ _ first
      simp only [List.forall_mem_cons, partNeed]
      exact ⟨⟨regular, ih.1⟩, by omega⟩

section Level
variable {Inner : List Token → Condition → Prop}
variable (level : depth ≤ Parser.maxNesting)
variable (inside : ∀ tokens c, Inner tokens c →
  c.Regular Predicate.Expressible ∧ c.need + (depth + 1) ≤ Parser.maxNesting)
include level inside

theorem keeps_of_derivesPrimary (h : DerivesPrimary Inner tokens c) : Keeps depth .negated c := by
  cases h with
  | predicate derives =>
      exact ⟨.predicate (expressible_of_derivesPredicate derives), by simpa [need] using level⟩
  | group openParen inner closeParen =>
      -- The group has been read a level deeper, which pays for parentheses around it if forced.
      obtain ⟨regular, fits⟩ := inside _ _ inner
      have atMost := Position.negated.cost_le_one c
      exact ⟨regular, by omega⟩

theorem keeps_of_derivesFactor (h : DerivesFactor Inner tokens c) : Keeps depth .factor c := by
  cases h with
  | plain primary =>
      exact (keeps_of_derivesPrimary level inside primary).mono (Position.cost_factor_le_negated c)
  | negation kind primary =>
      obtain ⟨regular, fits⟩ := keeps_of_derivesPrimary level inside primary
      exact ⟨.negation regular, by simpa [need] using fits⟩

theorem keeps_of_derivesTerm (h : DerivesTerm Inner tokens c) : Keeps depth .term c := by
  have part : ∀ tokens c, DerivesFactor Inner tokens c → Keeps depth .factor c :=
    fun tokens c => keeps_of_derivesFactor level inside
  cases h with
  | single series => exact (part _ _ series.part).mono (Position.cost_term_le_factor c)
  | several series two =>
      obtain ⟨regular, fits⟩ := keeps_of_derivesSeries part series
      exact ⟨.allOf two regular, by simpa [need] using fits⟩

end Level

theorem keeps_of_derivesCondition (h : DerivesCondition depth tokens c)
    (level : depth ≤ Parser.maxNesting) :
    c.Regular Predicate.Expressible ∧ c.need + depth ≤ Parser.maxNesting := by
  induction depth using DerivesCondition.induct generalizing tokens c with
  | case1 depth ih =>
      have inside : ∀ tokens c, DerivesInside depth tokens c →
          c.Regular Predicate.Expressible ∧ c.need + (depth + 1) ≤ Parser.maxNesting :=
        fun tokens c inner => ih inner.1 inner.2 inner.1
      have part : ∀ tokens c, DerivesTerm (DerivesInside depth) tokens c → Keeps depth .term c :=
        fun tokens c => keeps_of_derivesTerm level inside
      rw [derivesCondition_eq] at h
      cases h with
      | single series =>
          obtain ⟨regular, fits⟩ := part _ _ series.part
          exact ⟨regular, by omega⟩
      | several series two =>
          obtain ⟨regular, fits⟩ := keeps_of_derivesSeries part series
          exact ⟨.anyOf two regular, by simpa [need] using fits⟩

end Grammar

namespace Parser
open Grammar

variable {tokens : List Token} {c : Condition}

theorem ofAllTokens_of_derives (h : DerivesCondition 0 tokens c) :
    Condition.ofAllTokens tokens = .ok c :=
  ofAllTokens_eq_ok_iff.2 (exists_shifts_iff.2 h)

/-- What a call succeeds with, lenient or strict, is derived by the front of the tokens. -/
theorem exists_derives_of_ok
    (h : Condition.ofTokens tokens = .ok c ∨ Condition.ofAllTokens tokens = .ok c) :
    ∃ front, DerivesCondition 0 front c := by
  rcases h with h | h
  · obtain ⟨front, t, rest, rfl, shifts, done, -⟩ := ofTokens_eq_ok_iff.1 h
    exact ⟨front, exists_shifts_iff.1 ⟨t, shifts, done⟩⟩
  · exact ⟨tokens, exists_shifts_iff.1 (ofAllTokens_eq_ok_iff.1 h)⟩

/-- A regular condition within the nesting limit is read back from what is written for it, and no
other conditions are ever read. -/
theorem written_read_back_and_read_regular :
    (∀ c : Condition, c.Regular Predicate.Writable → c.need ≤ maxNesting →
      Condition.ofAllTokens c.tokens = .ok c) ∧
    ∀ (tokens : List Token) (c : Condition),
      Condition.ofTokens tokens = .ok c ∨ Condition.ofAllTokens tokens = .ok c →
        c.Regular Predicate.Expressible ∧ c.need ≤ maxNesting := by
  constructor
  · intro c regular fits
    exact ofAllTokens_of_derives ((derivable_of_regular regular).alone 0 fits)
  · intro tokens c h
    obtain ⟨front, derives⟩ := exists_derives_of_ok h
    exact keeps_of_derivesCondition derives (Nat.zero_le _)

/-- `not (a = "it's" or b is not null) and t < -12`, with one forced group. -/
def sample : Condition :=
  .allOf
    [.negation (.anyOf [.predicate ⟨"a", .eq, .string "it's"⟩, .predicate ⟨"b", .ne, .null⟩]),
     .predicate ⟨"t", .lt, .number (.integer (-12) (by decide))⟩]

theorem written_read_back_and_read_regular_sample :
    sample.Regular Predicate.Writable ∧ sample.need = 1 ∧
      Condition.ofAllTokens sample.tokens = .ok sample ∧
      sample.Regular Predicate.Expressible := by
  have regular : sample.Regular Predicate.Writable := by
    refine .allOf (by decide) (List.forall_mem_cons.2 ⟨.negation (.anyOf (by decide) ?_), ?_⟩)
    · refine List.forall_mem_cons.2 ⟨.predicate ?_, List.forall_mem_singleton.2 (.predicate ?_)⟩
      · refine ⟨⟨by simp, ?_⟩, by simp⟩
        intro text h
        cases h
        constructor <;> simp [Text.isQuote]
      · exact ⟨⟨by simp, by simp⟩, by simp⟩
    · refine List.forall_mem_singleton.2 (.predicate ⟨⟨by simp, by simp⟩, ?_⟩)
      intro n h
      cases h
      decide +kernel
  have readBack := written_read_back_and_read_regular.1 sample regular (by decide)
  exact ⟨regular, by decide, readBack,
    (written_read_back_and_read_regular.2 sample.tokens sample (.inr readBack)).1⟩

end Parser

end ChannelFilter
