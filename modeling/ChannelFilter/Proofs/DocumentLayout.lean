import ChannelFilter.Json.Source
import ChannelFilter.Proofs.NumberLiterals

/-!
# The layouts of a document tree

What a well-formed document text is, is said here without the readers: a tree has a sequence of
lexical elements, each element has its spellings, and a layout writes spellings behind each other
with any amount of space between them. A string may be spelled with every escape, and a number with
every literal. Every layout of a tree is read back as that tree, so a text is a layout of one tree
only.
-/
namespace ChannelFilter.Json

namespace Lexeme

variable {body cs rest : List Char} {units : List StringUnit} {lexeme : Lexeme}
variable {lexemes : List Lexeme}

/-- The characters between the quotes of a string, and the units that they stand for. -/
inductive Body : List Char → List StringUnit → Prop
  | nil : Body [] []
  | plain {c : Char} {cs : List Char} {units : List StringUnit} (noQuote : c ≠ '"')
      (noBackslash : c ≠ '\\') (noControl : 0x20 ≤ c.toNat) (behind : Body cs units) :
      Body (c :: cs) (.char c :: units)
  | named {e c : Char} {cs : List Char} {units : List StringUnit} (name : namedEscape? e = some c)
      (behind : Body cs units) : Body ('\\' :: e :: cs) (.char c :: units)
  | code {h₁ h₂ h₃ h₄ : Char} {unit : Nat} {cs : List Char} {units : List StringUnit}
      (digits : codeUnit? h₁ h₂ h₃ h₄ = some unit) (behind : Body cs units) :
      Body ('\\' :: 'u' :: h₁ :: h₂ :: h₃ :: h₄ :: cs) (.code unit :: units)

/-- A way to spell an element. -/
inductive Spelling : Lexeme → List Char → Prop
  | punctuation {c : Char} {lexeme : Lexeme} (mark : punctuation? c = some lexeme) :
      Spelling lexeme [c]
  | null : Spelling .null ['n', 'u', 'l', 'l']
  | true : Spelling (.bool true) ['t', 'r', 'u', 'e']
  | false : Spelling (.bool false) ['f', 'a', 'l', 's', 'e']
  | number (l : Literal) : Spelling (.number l.chars) l.chars
  | string {body : List Char} {units : List StringUnit} (spelled : Body body units) :
      Spelling (.string ((decodeUnits? units).map String.ofList)) ('"' :: body ++ ['"'])

/-- Whether the element is a number, which goes on for as long as it can. -/
def isNumber : Lexeme → Bool
  | .number _ => true
  | _ => false

/-- The text spells the elements one after another, with space before, between and behind them. -/
inductive Layout : List Lexeme → List Char → Prop
  | nil {gap : List Char} (space : ∀ c ∈ gap, isSpace c = true) : Layout [] gap
  | cons {gap cs rest : List Char} {lexeme : Lexeme} {lexemes : List Lexeme}
      (space : ∀ c ∈ gap, isSpace c = true) (spelling : Spelling lexeme cs)
      (apart : lexeme.isNumber = true → Literal.Ends rest) (behind : Layout lexemes rest) :
      Layout (lexeme :: lexemes) (gap ++ (cs ++ rest))

theorem Layout.spelled (spelling : Spelling lexeme cs)
    (apart : lexeme.isNumber = true → Literal.Ends rest) (behind : Layout lexemes rest) :
    Layout (lexeme :: lexemes) (cs ++ rest) := by
  have nothing : ∀ c ∈ ([] : List Char), isSpace c = true := by simp
  exact .cons nothing spelling apart behind

theorem readUnits?_body (h : Body body units) (rest : List Char) :
    readUnits? (body ++ '"' :: rest) = some (units, rest) := by
  induction h with
  | nil =>
      unfold readUnits?
      rfl
  | @plain c cs units noQuote noBackslash noControl _ ih =>
      rw [List.cons_append]
      unfold readUnits?
      simp [noQuote, noBackslash, Nat.not_lt.2 noControl, ih, consUnit]
  | @named e c cs units name _ ih =>
      -- A `u` behind a backslash is no name, so this case is apart from the next one.
      have other : e ≠ 'u' := by
        rintro rfl
        have nameless : namedEscape? 'u' = none := rfl
        rw [nameless] at name
        cases name
      simp [readUnits?, other, name, ih, consUnit]
  | @code h₁ h₂ h₃ h₄ unit cs units digits _ ih =>
      simp [readUnits?, digits, ih, consUnit]

theorem punctuation?_of_isSpace {c : Char} (space : isSpace c = true) : punctuation? c = none := by
  simp only [isSpace, Bool.or_eq_true, beq_iff_eq] at space
  rcases space with ((rfl | rfl) | rfl) | rfl <;> rfl

theorem isSpace_of_punctuation? {c : Char} (mark : punctuation? c = some lexeme) :
    isSpace c = false := by
  refine Bool.eq_false_iff.2 ?_
  intro space
  rw [punctuation?_of_isSpace space] at mark
  cases mark

/-- A spelling is taken off the front of a text as the element that it spells. -/
theorem next?_spelling (h : Spelling lexeme cs)
    (apart : lexeme.isNumber = true → Literal.Ends rest) :
    ∃ c tail, cs = c :: tail ∧ isSpace c = false ∧
      next? c (tail ++ rest) = some (lexeme, rest) := by
  cases h with
  | @punctuation c lexeme mark =>
      exact ⟨c, [], rfl, isSpace_of_punctuation? mark, by simp [next?, mark]⟩
  | null => exact ⟨'n', _, rfl, rfl, rfl⟩
  | true => exact ⟨'t', _, rfl, rfl, rfl⟩
  | false => exact ⟨'f', _, rfl, rfl, rfl⟩
  | number l => exact l.next?_chars (apart rfl)
  | @string body units spelled =>
      have read := readUnits?_body spelled rest
      refine ⟨'"', body ++ ['"'], rfl, rfl, ?_⟩
      simp [next?, punctuation?, nextLong?, read]

theorem scan_space {c : Char} (space : isSpace c = true) (cs : List Char) :
    scan (c :: cs) = scan cs := by
  rw [scan, if_pos space]

theorem scan_gap {gap : List Char} (space : ∀ c ∈ gap, isSpace c = true) (cs : List Char) :
    scan (gap ++ cs) = scan cs := by
  induction gap with
  | nil => rfl
  | cons c gap ih =>
      obtain ⟨first, others⟩ := List.forall_mem_cons.1 space
      rw [List.cons_append, scan_space first, ih others]

theorem scan_next {c : Char} (visible : isSpace c = false)
    (taken : next? c cs = some (lexeme, rest)) :
    scan (c :: cs) = (scan rest).map (lexeme :: ·) := by
  rw [scan, if_neg (by rw [visible]; exact Bool.false_ne_true)]
  split
  · next none =>
    rw [taken] at none
    cases none
  · next some =>
    rw [taken] at some
    cases some
    rfl

theorem scan_of_layout (h : Layout lexemes cs) : scan cs = some lexemes := by
  induction h with
  | @nil gap space =>
      have all := scan_gap space []
      rw [List.append_nil] at all
      rw [all, scan]
  | cons space spelling apart _ ih =>
      obtain ⟨c, tail, rfl, visible, taken⟩ := next?_spelling spelling apart
      rw [scan_gap space, List.cons_append, scan_next visible taken, ih]
      rfl

theorem ends_of_isSpace {c : Char} (space : isSpace c = true) (cs : List Char) :
    Literal.Ends (c :: cs) := by
  simp only [isSpace, Bool.or_eq_true, beq_iff_eq] at space
  rcases space with ((rfl | rfl) | rfl) | rfl <;> exact Literal.ends_cons (by decide) cs

/-- With space in front of each element and behind the last, no number runs into what follows. -/
theorem layout_spaced {gap : List Char} (space : ∀ c ∈ gap, isSpace c = true) (some : gap ≠ [])
    (spelled : ∀ lexeme ∈ lexemes, Spelling lexeme lexeme.chars) :
    Layout lexemes (lexemes.flatMap (fun lexeme => gap ++ lexeme.chars) ++ gap) := by
  induction lexemes with
  | nil => exact .nil space
  | cons lexeme lexemes ih =>
      obtain ⟨first, others⟩ := List.forall_mem_cons.1 spelled
      have apart : Literal.Ends (lexemes.flatMap (fun lexeme => gap ++ lexeme.chars) ++ gap) := by
        obtain ⟨c, cs, rfl⟩ := List.exists_cons_of_ne_nil some
        have front := space c List.mem_cons_self
        cases lexemes <;> exact ends_of_isSpace front _
      rw [List.flatMap_cons, List.append_assoc, List.append_assoc]
      exact .cons space first (fun _ => apart) (ih others)

end Lexeme

namespace Source

variable {frames : List Frame} {rest : List Lexeme}

mutual

/-- The lexical elements of a tree. Those of items and fields have a comma before each. -/
def lexemes : Source → List Lexeme
  | .null => [.null]
  | .bool value => [.bool value]
  | .number literal => [.number literal]
  | .string text => [.string text]
  | .array items => .openBracket :: (itemLexemes items).drop 1 ++ [.closeBracket]
  | .object fields => .openBrace :: (fieldLexemes fields).drop 1 ++ [.closeBrace]

def itemLexemes : List Source → List Lexeme
  | [] => []
  | item :: items => .comma :: lexemes item ++ itemLexemes items

def fieldLexemes : List (Option String × Source) → List Lexeme
  | [] => []
  | (key, value) :: fields =>
    .comma :: .string key :: .colon :: lexemes value ++ fieldLexemes fields

end

/-- Where the first item of an array is due, a value is read as where any value is. -/
theorem run_firstItem (source : Source) (frames : List Frame) (rest : List Lexeme) :
    State.run ⟨frames, .firstItem⟩ (source.lexemes ++ rest) =
      State.run ⟨.array [] :: frames, .value⟩ (source.lexemes ++ rest) := by
  cases source <;> rfl

theorem run_items {items before : List Source} {value : Source}
    (each : ∀ item ∈ items, ∀ frames rest,
      State.run ⟨frames, .value⟩ (item.lexemes ++ rest) = State.run ⟨frames, .done item⟩ rest) :
    State.run ⟨.array before :: frames, .done value⟩
        (itemLexemes items ++ .closeBracket :: rest) =
      State.run ⟨frames, .done (.array (before.reverse ++ value :: items))⟩ rest := by
  induction items generalizing before value with
  | nil =>
      have closed : (value :: before).reverse = before.reverse ++ [value] := List.reverse_cons
      rw [← closed]
      rfl
  | cons item items ih =>
      obtain ⟨first, others⟩ := List.forall_mem_cons.1 each
      have step : State.run ⟨.array before :: frames, .done value⟩
          (.comma :: (item.lexemes ++ (itemLexemes items ++ .closeBracket :: rest))) =
          State.run ⟨.array (value :: before) :: frames, .value⟩
            (item.lexemes ++ (itemLexemes items ++ .closeBracket :: rest)) := rfl
      rw [itemLexemes, List.cons_append, List.cons_append, List.append_assoc, step, first,
        ih others, List.reverse_cons, List.append_assoc]
      rfl

theorem run_fields {fields before : List (Option String × Source)} {key : Option String}
    {value : Source}
    (each : ∀ field ∈ fields, ∀ frames rest,
      State.run ⟨frames, .value⟩ (field.2.lexemes ++ rest) =
        State.run ⟨frames, .done field.2⟩ rest) :
    State.run ⟨.object before key :: frames, .done value⟩
        (fieldLexemes fields ++ .closeBrace :: rest) =
      State.run ⟨frames, .done (.object (before.reverse ++ (key, value) :: fields))⟩ rest := by
  induction fields generalizing before key value with
  | nil =>
      have closed : ((key, value) :: before).reverse = before.reverse ++ [(key, value)] :=
        List.reverse_cons
      rw [← closed]
      rfl
  | cons field fields ih =>
      obtain ⟨first, others⟩ := List.forall_mem_cons.1 each
      obtain ⟨name, item⟩ := field
      have step : State.run ⟨.object before key :: frames, .done value⟩
          (.comma :: .string name :: .colon ::
            (item.lexemes ++ (fieldLexemes fields ++ .closeBrace :: rest))) =
          State.run ⟨.object ((key, value) :: before) name :: frames, .value⟩
            (item.lexemes ++ (fieldLexemes fields ++ .closeBrace :: rest)) := rfl
      simp only [fieldLexemes, List.cons_append, List.append_assoc]
      rw [step, first, ih others, List.reverse_cons, List.append_assoc]
      rfl

/-- Where a value is due, the elements of a tree build that tree, whatever is open around it. -/
theorem run_lexemes (source : Source) (frames : List Frame) (rest : List Lexeme) :
    State.run ⟨frames, .value⟩ (source.lexemes ++ rest) =
      State.run ⟨frames, .done source⟩ rest := by
  induction source generalizing frames rest with
  | null => rfl
  | bool value => rfl
  | number literal => rfl
  | string text => rfl
  | array items ih =>
      cases items with
      | nil => rfl
      | cons item items =>
          -- The first item has no comma before it, so the loop over the items starts behind it.
          obtain ⟨first, others⟩ := List.forall_mem_cons.1 ih
          have opened : State.run ⟨frames, .value⟩ (lexemes (.array (item :: items)) ++ rest) =
              State.run ⟨frames, .firstItem⟩
                (item.lexemes ++ (itemLexemes items ++ .closeBracket :: rest)) := by
            simp only [lexemes, itemLexemes, List.cons_append, List.drop_succ_cons, List.drop_zero,
              List.append_assoc, List.nil_append]
            rfl
          rw [opened, run_firstItem, first, run_items others]
          rfl
  | object fields ih =>
      cases fields with
      | nil => rfl
      | cons field fields =>
          obtain ⟨first, others⟩ := List.forall_mem_cons.1 ih
          obtain ⟨key, value⟩ := field
          have opened : State.run ⟨frames, .value⟩
              (lexemes (.object ((key, value) :: fields)) ++ rest) =
              State.run ⟨.object [] key :: frames, .value⟩
                (value.lexemes ++ (fieldLexemes fields ++ .closeBrace :: rest)) := by
            simp only [lexemes, fieldLexemes, List.cons_append, List.drop_succ_cons, List.drop_zero,
              List.append_assoc, List.nil_append]
            rfl
          rw [opened, first, run_fields others]
          rfl

theorem ofLexemes?_lexemes (source : Source) : ofLexemes? source.lexemes = some source := by
  have built := source.run_lexemes [] []
  rw [List.append_nil] at built
  rw [ofLexemes?, built]
  rfl

/-- Every layout of a tree is read as that tree. -/
theorem read?_of_layout {source : Source} {text : String}
    (h : Lexeme.Layout source.lexemes text.toList) : read? text = some source := by
  rw [read?, Lexeme.scan_of_layout h]
  exact source.ofLexemes?_lexemes

end Source

end ChannelFilter.Json
