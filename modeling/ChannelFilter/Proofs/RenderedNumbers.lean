import ChannelFilter.Document
import ChannelFilter.Proofs.CharacterClasses
import ChannelFilter.Proofs.WrittenNumbers

/-!
# Numbers are shown as they are read

A number in a filter expression prefers to be an integer, so not every number stands for a text: a
double that is equal to a small integer does not, and neither does an integer beyond the signed
words. The numbers that do stand for a text are read back from the literal that a filter shows for
them. A literal holds no blanks, so nothing of it is left aside; an integer is shown without a
point and an exponent part and is read as an integer again, and a double is shown with one of them
and prefers to stay what it is.
-/
namespace ChannelFilter

-- Powers are the built-in ones, whatever else is imported.
attribute [local instance (high)] instPowNat

open Text (isBlank Bare strip_of_bare not_isBlank_of_isDigit)

theorem Exponent.not_isBlank_of_mem (e : Exponent) : ∀ c ∈ e.chars, isBlank c = false := by
  have sign : ∀ c ∈ e.sign, isBlank c = false := by
    rcases e.sign_mem with sign | sign | sign <;> rw [sign]
    · exact nofun
    · exact List.forall_mem_singleton.2 rfl
    · exact List.forall_mem_singleton.2 rfl
  intro c member
  rw [chars, List.mem_cons, List.mem_append] at member
  rcases member with rfl | member | member
  · rcases e.mark_mem with mark | mark <;> rw [mark] <;> rfl
  · exact sign c member
  · exact not_isBlank_of_isDigit (e.isDigit c member)

namespace Literal

theorem not_isBlank_of_mem_fractionChars {digits : List Char}
    (all : ∀ c ∈ digits, c.isDigit = true) : ∀ c ∈ fractionChars digits, isBlank c = false := by
  unfold fractionChars
  split
  · exact nofun
  · intro c member
    rcases List.mem_cons.1 member with rfl | member
    · rfl
    · exact not_isBlank_of_isDigit (all c member)

theorem not_isBlank_of_mem_unsigned (l : Literal) : ∀ c ∈ l.unsigned, isBlank c = false := by
  intro c member
  rw [unsigned, List.mem_append, List.mem_append] at member
  rcases member with member | member | member
  · exact not_isBlank_of_isDigit (l.isDigit_whole c member)
  · exact not_isBlank_of_mem_fractionChars l.isDigit_fraction c member
  · cases part : l.exponent with
    | none =>
        rw [part] at member
        cases member
    | some e =>
        rw [part] at member
        exact e.not_isBlank_of_mem c member

theorem not_isBlank_of_mem (l : Literal) : ∀ c ∈ l.chars, isBlank c = false := by
  intro c member
  unfold chars at member
  split at member
  · rcases List.mem_cons.1 member with rfl | member
    · rfl
    · exact l.not_isBlank_of_mem_unsigned c member
  · exact l.not_isBlank_of_mem_unsigned c member

theorem strip_chars (l : Literal) : Text.strip isBlank l.chars = l.chars := by
  have bare : Bare isBlank l.chars := by
    constructor
    · intro c first
      exact l.not_isBlank_of_mem c (List.mem_of_mem_head? first)
    · intro c last
      exact l.not_isBlank_of_mem c (List.mem_of_mem_getLast? last)
  exact strip_of_bare bare

/-- A literal in a filter expression is read as the spelling that it is. -/
theorem read?_chars (l : Literal) : Number.read? (String.ofList l.chars) =
    ((Decimal.readInt? l.chars).bind Number.ofSigned?).or (Number.ofDecimal? l.parts.value) := by
  have spelled : l.spelling.IsOf (String.ofList l.chars) := by
    rw [Decimal.Spelling.IsOf, String.toList_ofList, strip_chars, spelling_chars]
  rw [Decimal.Spelling.read?_eq spelled, spelling_chars, spelling_parts]

end Literal

namespace Number

/-- The number is what a text in a filter expression can stand for: an integer of a signed word,
or a double that does not become an integer. -/
def Preferred : Number → Prop
  | .integer n _ => n < 2 ^ (63 : Nat)
  | .double x => ofDouble x = .double x

theorem ofSigned?_eq_some {i : Int} {n : Number} (h : ofSigned? i = some n) :
    i < 2 ^ (63 : Nat) ∧ ∃ fits, n = .integer i fits := by
  unfold ofSigned? ofInt? at h
  split at h
  · next small =>
    split at h
    · next fits =>
      obtain rfl := Option.some.inj h
      exact ⟨small, fits, rfl⟩
    · cases h
  · cases h

theorem ofSigned?_of_fits {i : Int} (small : i < 2 ^ (63 : Nat)) (fits : FitsWord i) :
    ofSigned? i = some (.integer i fits) := by
  rw [ofSigned?, if_pos small, ofInt?, dif_pos fits]

theorem fitsWord_of_lt {i : Int} (small : i.natAbs < exactLimit) : FitsWord i := by
  unfold FitsWord
  unfold exactLimit at small
  omega

theorem ofDouble_cases (x : Double) :
    ofDouble x = .double x ∨ ∃ i fits, i.natAbs < exactLimit ∧ ofDouble x = .integer i fits := by
  cases whole : x.integer? with
  | none => exact .inl (by simp only [ofDouble, whole])
  | some i =>
      by_cases small : i.natAbs < exactLimit
      · have fits := fitsWord_of_lt small
        refine .inr ⟨i, fits, small, ?_⟩
        simp only [ofDouble, whole, if_pos small, ofInt?, dif_pos fits, Option.getD_some]
      · exact .inl (by simp only [ofDouble, whole, if_neg small])

theorem preferred_ofDouble (x : Double) : (ofDouble x).Preferred := by
  rcases ofDouble_cases x with same | ⟨i, fits, small, whole⟩
  · rw [same]
    exact same
  · rw [whole]
    unfold exactLimit at small
    show i < 2 ^ (63 : Nat)
    omega

/-- Each number that a text stands for is a preferred one. -/
theorem preferred_of_read? {text : String} {n : Number} (h : read? text = some n) :
    n.Preferred := by
  rw [read?, Option.or_eq_some_iff] at h
  rcases h with h | ⟨-, h⟩
  · obtain ⟨i, -, signed⟩ := Option.bind_eq_some_iff.1 h
    obtain ⟨small, fits, rfl⟩ := ofSigned?_eq_some signed
    exact small
  · obtain ⟨x, -, rfl⟩ := Option.map_eq_some_iff.1 h
    exact preferred_ofDouble x

theorem read?_text_integer {i : Int} (fits : FitsWord i) (small : i < 2 ^ (63 : Nat)) :
    read? (text (.integer i fits)) = some (.integer i fits) := by
  obtain ⟨l, chars, value⟩ := exists_literal_intText i
  have spelled : text (.integer i fits) = String.ofList l.chars := by rw [chars]; rfl
  rw [spelled, l.read?_chars, value, Option.bind_some, ofSigned?_of_fits small fits, Option.some_or]

theorem read?_text_double {x : Double} (kept : ofDouble x = .double x) :
    read? (text (.double x)) = some (.double x) := by
  obtain ⟨l, chars, marked, value⟩ := x.exists_literal_shortest
  have spelled : text (.double x) = String.ofList l.chars := by rw [chars]; rfl
  rw [spelled, l.read?_chars, Literal.readInt?_chars_of_marked marked, Option.bind_none,
    Option.none_or, ofDecimal?, value, Option.map_some, kept]

/-- A preferred number is read back from the text that it is written as. -/
theorem read?_text {n : Number} (preferred : n.Preferred) : read? n.text = some n := by
  cases n with
  | integer i fits => exact read?_text_integer fits preferred
  | double x => exact read?_text_double preferred

end Number

namespace Operand

theorem compact_document_number (mapping : FieldMapping) (n : Number) :
    ((Operand.number n).document mapping).compact = n.text := by
  rw [document, Json.compact, Json.chars, Json.lexemes, List.flatMap_singleton]
  rfl

end Operand

namespace Predicate

/-- The filter of a comparison with a number shows the text of the number behind the keys. -/
theorem chars_document_number (mapping : FieldMapping) (channel : String) (comparison : Comparison)
    (n : Number) :
    (document mapping { channel, comparison, operand := .number n }).chars =
      '\x7b' :: Json.Lexeme.stringChars (mapping.path channel) ++
        ':' :: '\x7b' :: Json.Lexeme.stringChars comparison.key ++
          ':' :: n.text.toList ++ ['\x7d', '\x7d'] := by
  simp [document, Json.single, Json.chars, Json.lexemes, Json.fieldLexemes, Json.Lexeme.chars,
    Operand.document, Number.text]

/-- What a filter shows for a number that a text stands for is a text that stands for the same
number, integer or double, and a token with it is the same operand. -/
theorem shown_number_read {raw : String} {n : Number} (accepted : Number.read? raw = some n)
    (mapping : FieldMapping) (channel : String) (comparison : Comparison) :
    ∃ shown : String,
      ((Operand.number n).document mapping).compact = shown ∧
      (document mapping { channel, comparison, operand := .number n }).chars =
        '\x7b' :: Json.Lexeme.stringChars (mapping.path channel) ++
          ':' :: '\x7b' :: Json.Lexeme.stringChars comparison.key ++
            ':' :: shown.toList ++ ['\x7d', '\x7d'] ∧
      Number.read? shown = some n ∧
      Parser.operandOf { kind := .number, value := shown } =
        Parser.operandOf { kind := .number, value := raw } := by
  have read : Number.read? n.text = some n := Number.read?_text (Number.preferred_of_read? accepted)
  refine ⟨n.text, Operand.compact_document_number mapping n,
    chars_document_number mapping channel comparison n, read, ?_⟩
  simp only [Parser.operandOf, read, accepted]

/-- The double `2 ^ 53`, which is too great to become an integer. -/
def limitSample : Double :=
  { negative := false, mantissa := 2 ^ (52 : Nat), scale := 1075, mantissa_lt := by decide,
    normal := .inr (by decide), scale_le := by decide }

/-- The text is rounded to `2 ^ 53`, and what is shown for it is no integer literal. -/
theorem shown_number_read_limit :
    Number.read? " 9007199254740993.0\t" = some (.double limitSample) ∧
      ∃ shown : String,
        ((Operand.number (.double limitSample)).document .builtin).compact = shown ∧
        Number.read? shown = some (.double limitSample) := by
  have accepted : Number.read? " 9007199254740993.0\t" = some (.double limitSample) := by
    decide +kernel
  obtain ⟨shown, text, -, read, -⟩ := shown_number_read accepted .builtin "CHANNEL_1" .lt
  exact ⟨accepted, shown, text, read⟩

end Predicate

end ChannelFilter
