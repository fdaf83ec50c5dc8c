import ChannelFilter.Proofs.RespelledTokens

/-!
# The tokens of joined texts

A blank ends every token but a string, and so does a quote. Put behind another text, a text that
starts with such a character changes no token of that text, except for a string that the first text
leaves open and for a word "is" at its end that becomes a null check. So two texts with blanks
between them have the tokens of the first and then those of the second, exactly if neither is the
case.
-/
namespace ChannelFilter.Token

open Text (isBlank isQuote)

variable {c : Char} {cs rest blanks word : List Char} {lexed : Lexed} {pieces : List Lexed}
variable {first token : Token} {tokens front back : List Token}

/-- No token but a string goes on with the character. -/
structure Separates (c : Char) : Prop where
  noWord : isWordChar c = false
  noOperator : isOperatorChar c = false
  noNumber : isNumberChar true c = false

theorem separates_of_isQuote (h : isQuote c = true) : Separates c := by
  have quotes : c = '"' ∨ c = '\'' := by simpa [isQuote] using h
  rcases quotes with rfl | rfl
  · exact ⟨by decide, by decide, by decide⟩
  · exact ⟨by decide, by decide, by decide⟩

theorem separates_of_isBlank (h : isBlank c = true) : Separates c := by
  have other : ∀ sign, isBlank sign = false → (c == sign) = false := by
    intro sign visible
    apply beq_eq_false_iff_ne.2
    intro same
    rw [same, visible] at h
    cases h
  have noDigit : c.isDigit = false := by
    apply Bool.eq_false_iff.2
    intro digit
    rw [Text.not_isBlank_of_isDigit digit] at h
    cases h
  have noAlpha : c.isAlpha = false := by
    apply Bool.eq_false_iff.2
    intro letter
    rw [not_isBlank_of_isWordStart (isWordStart_of_isAlpha letter)] at h
    cases h
  constructor
  · exact not_isWordChar_of_isBlank h
  · simp [isOperatorChar, other '<' (by decide), other '>' (by decide), other '=' (by decide),
      other '!' (by decide)]
  · simp [isNumberChar, Char.isAlphanum, noDigit, noAlpha, other '.' (by decide),
      other '-' (by decide), other '+' (by decide)]

theorem Separates.not_isNumberChar (h : Separates c) (signAllowed : Bool) :
    isNumberChar signAllowed c = false := by
  have none := h.noNumber
  cases signAllowed with
  | true => exact none
  | false =>
      simp only [isNumberChar, Bool.true_and, Bool.or_eq_false_iff] at none
      simp [isNumberChar, none.1]

theorem Separates.not_isDigit (h : Separates c) : c.isDigit = false := by
  have none := h.not_isNumberChar false
  simp only [isNumberChar, Char.isAlphanum, Bool.false_and, Bool.or_false,
    Bool.or_eq_false_iff] at none
  exact none.1.2

theorem Separates.ne_point (h : Separates c) : c ≠ '.' := by
  rintro rfl
  have point : isWordChar '.' = true := by decide
  rw [h.noWord] at point
  cases point

/-- The text is empty, or it starts with a character that ends any token but a string. -/
def StandsApart (cs : List Char) : Prop :=
  ∀ c ∈ cs.head?, Separates c

theorem IsGap.standsApart (gap : IsGap blanks) (cs : List Char) : StandsApart (blanks ++ cs) := by
  obtain ⟨some, blank⟩ := gap
  obtain ⟨b, tail, rfl⟩ := List.exists_cons_of_ne_nil some
  intro c member
  cases member
  exact separates_of_isBlank (blank b List.mem_cons_self)

theorem standsApart_of_isQuote (h : isQuote c = true) (cs : List Char) : StandsApart (c :: cs) := by
  intro d member
  cases member
  exact separates_of_isQuote h

/-- What holds of the first character of the rest, and of all that separate, holds of the first
character of the rest with the text behind it. -/
theorem StandsApart.head? {P : Char → Prop} (apart : StandsApart cs)
    (separated : ∀ c, Separates c → P c) (ends : ∀ c ∈ rest.head?, P c) :
    ∀ c ∈ (rest ++ cs).head?, P c := by
  cases rest with
  | nil => exact fun c member => separated c (apart c member)
  | cons d rest => exact ends

theorem StandsApart.wordEnds (apart : StandsApart cs) (ends : WordEnds rest) :
    WordEnds (rest ++ cs) :=
  apart.head? (fun _ separates => separates.noWord) ends

theorem StandsApart.not_startsWithDigit (apart : StandsApart cs) : startsWithDigit cs = false := by
  cases cs with
  | nil => rfl
  | cons c cs => exact (apart c rfl).not_isDigit

/-- What shows that a number starts with a sign follows the sign at once. -/
theorem StandsApart.startsNumber_append (apart : StandsApart cs) (c : Char) (rest : List Char) :
    startsNumber c (rest ++ cs) = startsNumber c rest := by
  have noDigit := apart.not_startsWithDigit
  have nothing : startsWithDigit [] = false := rfl
  match rest with
  | [] =>
      have noPoint : (cs.head? == some '.') = false := by
        apply beq_eq_false_iff_ne.2
        intro point
        exact (apart '.' point).ne_point rfl
      simp [startsNumber, noDigit, noPoint, nothing]
  | [d] =>
      have second : startsWithDigit (d :: cs) = startsWithDigit [d] := rfl
      simp [startsNumber, noDigit, second, nothing]
  | d :: e :: rest => rfl

/-- A token is read in the same way in front of more text, unless it is a string that is not
closed or a word "is" that becomes a null check. -/
theorem Reading.joined (h : Reading lexed) (apart : StandsApart cs)
    (closed : lexed.rest = [] → ¬IsUnclosed lexed.token)
    (alone : Names "is" lexed.token → ¬NullCheckFollows (lexed.rest ++ cs)) :
    Reading { lexed with rest := lexed.rest ++ cs } := by
  cases h with
  | openParen => exact .openParen
  | closeParen => exact .closeParen
  | closedString opens absent => exact .closedString opens absent
  | unclosedString opens absent =>
      exact absurd ⟨rfl, _, _, opens, absent, String.toList_ofList⟩ (closed rfl)
  | operator nonempty chars ends =>
      exact .operator nonempty chars (apart.head? (fun _ separates => separates.noOperator) ends)
  | symbol lone noNumber =>
      apply Reading.symbol lone
      exact (apart.startsNumber_append _ _).trans noNumber
  | number text ends =>
      apply Reading.number text
      exact apart.head? (fun c separates =>
        not_isNumberText_concat separates.not_isNumberChar separates.not_isDigit _) ends
  | keyword known spelled ends => exact .keyword known spelled (apart.wordEnds ends)
  | isNull first gap last ends => exact .isNull first gap last (apart.wordEnds ends)
  | isNotNull first gap second another last ends =>
      exact .isNotNull first gap second another last (apart.wordEnds ends)
  | channel name ends _ =>
      apply Reading.channel name (apart.wordEnds ends)
      intro spelled
      apply alone
      exact ⟨rfl, by rwa [Lexed.ofRun, String.toList_ofList]⟩

/-- A channel "is" ends the front and the back completes a null check, or a channel "is" and a
"not" end the front and a channel "null" starts the back. -/
def JoinsCheck (front back : List Token) : Prop :=
  (∃ before is, front = before ++ [is] ∧ Names "is" is ∧ CompletesCheck back) ∨
    ∃ before is not, front = before ++ [is, not] ∧ Names "is" is ∧ not.kind = .not ∧
      ∃ null ∈ back.head?, Names "null" null

theorem completesCheck_append_iff :
    CompletesCheck (front ++ back) ↔
      CompletesCheck front ∨ front = [] ∧ CompletesCheck back ∨
        ∃ not, front = [not] ∧ not.kind = .not ∧ ∃ null ∈ back.head?, Names "null" null := by
  match front with
  | [] => simp [CompletesCheck]
  | [first] => simp [CompletesCheck]
  | first :: second :: rest => simp [CompletesCheck]

theorem JoinsCheck.cons (h : JoinsCheck front back) (first : Token) :
    JoinsCheck (first :: front) back := by
  rcases h with ⟨before, is, rfl, names, check⟩ | ⟨before, is, not, rfl, names, check⟩
  · exact .inl ⟨first :: before, is, rfl, names, check⟩
  · exact .inr ⟨first :: before, is, not, rfl, names, check⟩

theorem joinsCheck_of_completesCheck (names : Names "is" first) (alone : ¬CompletesCheck front)
    (check : CompletesCheck (front ++ back)) : JoinsCheck (first :: front) back := by
  rcases completesCheck_append_iff.1 check with inside | ⟨rfl, check⟩ | ⟨not, rfl, kind, null⟩
  · exact absurd inside alone
  · exact .inl ⟨[], first, rfl, names, check⟩
  · exact .inr ⟨[], first, not, rfl, names, kind, null⟩

/-- A text never has a channel "is" in front of tokens that complete a null check. -/
theorem Spellable.not_joinsCheck (h : Spellable (front ++ back)) : ¬JoinsCheck front back := by
  rintro (⟨before, is, rfl, names, check⟩ | ⟨before, is, not, rfl, names, kind, null⟩)
  · exact h.alone before is back (by simp) names check
  · exact h.alone before is (not :: back) (by simp) names (.inr ⟨kind, null⟩)

/-- The tokens of a text stay as they are in front of another text. -/
theorem Cuts.joined {more : List Char} (h : Cuts cs pieces) (apart : StandsApart more)
    (closed : ∀ token ∈ (pieces.map (·.token)).getLast?, ¬IsUnclosed token)
    (parted : ¬JoinsCheck (pieces.map (·.token)) ((lexAll more).map (·.token))) :
    (lexAll (cs ++ more)).map (·.token) =
      pieces.map (·.token) ++ (lexAll more).map (·.token) := by
  induction h with
  | none blank => rw [lexAll_append blank, List.map_nil, List.nil_append]
  | @piece blanks lexed others blank nonempty reading rest ih =>
      have others' : ∀ token ∈ (others.map (·.token)).getLast?, ¬IsUnclosed token := by
        intro token last
        cases others with
        | nil => cases last
        | cons _ _ => exact closed token last
      have behind := ih others' fun joins => parted (joins.cons lexed.token)
      have last : lexed.rest = [] → ¬IsUnclosed lexed.token := by
        intro ends
        rw [ends] at rest
        have none : others = [] := (cuts_iff.1 rest).symm.trans (lexAll_of_none rfl)
        apply closed
        rw [none]
        rfl
      have alone : Names "is" lexed.token → ¬NullCheckFollows (lexed.rest ++ more) := by
        intro names
        obtain ⟨-, ends, value, single⟩ := reading.channel_spelling names.1
        have inside := single (value ▸ names.2)
        rw [nullCheckFollows_iff_completesCheck ends, cuts_iff.1 rest] at inside
        rw [nullCheckFollows_iff_completesCheck (apart.wordEnds ends), behind]
        exact fun check => parted (joinsCheck_of_completesCheck names inside check)
      have next : next? (blanks ++ (lexed.spelling ++ lexed.rest) ++ more) =
          some { lexed with rest := lexed.rest ++ more } := by
        apply next?_eq_some_iff.2
        exact ⟨blanks, blank, reading.joined apart last alone, by simp⟩
      rw [lexAll_of_some next, List.map_cons, behind]
      rfl

theorem not_isClosedString (h : IsUnclosedString cs) : ¬IsClosedString cs := by
  obtain ⟨quote, body, -, absent, rfl⟩ := h
  rintro ⟨other, inner, -, -, same⟩
  cases same
  exact absent (by simp)

theorem IsUnclosed.not_hasShape (h : IsUnclosed token) : ¬HasShape token := by
  obtain ⟨kind, unclosed⟩ := h
  rw [HasShape, kind]
  exact not_isClosedString unclosed

theorem Reading.spelling_of_isUnclosed (h : Reading lexed) (unclosed : IsUnclosed lexed.token) :
    lexed.spelling = lexed.token.value.toList ∧ lexed.rest = [] := by
  rcases h.hasShape with shape | ⟨ends, -⟩
  · exact absurd shape unclosed.not_hasShape
  · refine ⟨?_, ends⟩
    have kind := unclosed.1
    cases h with
    | closedString => exact String.toList_ofList.symm
    | unclosedString => exact String.toList_ofList.symm
    | keyword known =>
        have other : ∀ entry ∈ keywords, entry.1 ≠ .string := by decide
        exact absurd kind (other _ known)
    | _ => cases kind

/-- A text whose last token is a string that is not closed ends with this string. -/
theorem Cuts.suffix_of_isUnclosed (h : Cuts cs pieces)
    (last : token ∈ (pieces.map (·.token)).getLast?) (unclosed : IsUnclosed token) :
    token.value.toList <:+ cs := by
  induction h with
  | none blank => cases last
  | @piece blanks lexed others blank nonempty reading rest ih =>
      cases others with
      | nil =>
          have same : lexed.token = token := Option.some.inj last
          rw [← same] at unclosed ⊢
          obtain ⟨spelling, ends⟩ := reading.spelling_of_isUnclosed unclosed
          rw [ends, List.append_nil, spelling]
          exact List.suffix_append _ _
      | cons next others =>
          have behind := ih last
          exact (behind.trans (List.suffix_append _ _)).trans (List.suffix_append _ _)

/-- Where a quote last stands in a text decides what follows it. -/
theorem suffix_unique {quote : Char} {body other : List Char} (absent : quote ∉ body)
    (absent' : quote ∉ other) (h : quote :: body <:+ cs) (h' : quote :: other <:+ cs) :
    body = other := by
  rcases List.suffix_or_suffix_of_suffix h h' with shorter | shorter
  · rcases List.suffix_cons_iff.1 shorter with same | inside
    · cases same; rfl
    · exact absurd (inside.subset List.mem_cons_self) absent'
  · rcases List.suffix_cons_iff.1 shorter with same | inside
    · cases same; rfl
    · exact absurd (inside.subset List.mem_cons_self) absent

theorem lexAll_eq_nil_iff : lexAll cs = [] ↔ ∀ c ∈ cs, isBlank c = true := by
  rw [← next?_eq_none_iff]
  cases h : next? cs with
  | none => simp [lexAll_of_none h]
  | some lexed => simp [lexAll_of_some h]

/-- Blanks behind a string that is not closed belong to it. -/
theorem lexAll_unclosed_ne (last : token ∈ ((lexAll cs).map (·.token)).getLast?)
    (unclosed : IsUnclosed token) (gap : IsGap blanks) :
    (lexAll (cs ++ blanks)).map (·.token) ≠ (lexAll cs).map (·.token) := by
  intro same
  obtain ⟨quote, body, opens, absent, text⟩ := unclosed.2
  have visible : quote ∉ blanks := by
    intro member
    have separates := gap.2 quote member
    rw [not_isBlank_of_mem_reserved (mem_reserved_iff.2 (.inr (.inr (.inl opens))))] at separates
    cases separates
  have before : token.value.toList <:+ cs := (cuts_lexAll cs).suffix_of_isUnclosed last unclosed
  have after : token.value.toList <:+ cs ++ blanks :=
    (cuts_lexAll (cs ++ blanks)).suffix_of_isUnclosed (same ▸ last) unclosed
  rw [text] at before after
  have longer : quote :: (body ++ blanks) <:+ cs ++ blanks := by
    obtain ⟨front, rfl⟩ := before
    exact ⟨front, by simp⟩
  have absent' : quote ∉ body ++ blanks := by simp [absent, visible]
  have equal : body = body ++ blanks := suffix_unique absent absent' after longer
  exact gap.1 (by simpa using equal)

/-- Two texts with blanks between them have the tokens of the first and then those of the second,
unless the first ends inside a string or a null check goes across the blanks. In either of these
cases they have other tokens. -/
theorem lex_joined_iff (s w t : String) (gap : IsGap w.toList) :
    lex (s ++ w ++ t) = lex s ++ lex t ↔
      (∀ token ∈ (lex s).getLast?, ¬IsUnclosed token) ∧ ¬JoinsCheck (lex s) (lex t) := by
  have text : (s ++ w ++ t).toList = s.toList ++ (w.toList ++ t.toList) := by simp
  have skipped : lexAll (w.toList ++ t.toList) = lexAll t.toList := lexAll_append gap.2
  constructor
  · intro joined
    have spellable : Spellable (lex s ++ lex t) := joined ▸ (cuts_lexAll _).spellable
    refine ⟨?_, spellable.not_joinsCheck⟩
    intro token last unclosed
    -- Nothing can follow an open string, so the second text is blank, and the string takes it.
    obtain ⟨before, whole⟩ := List.getLast?_eq_some_iff.1 last
    have nothing : lex t = [] := by
      rcases spellable.shape before token (lex t) (by simp [whole]) with shape | ⟨ends, -⟩
      · exact absurd shape unclosed.not_hasShape
      · exact ends
    have blank : IsGap (w.toList ++ t.toList) := by
      refine ⟨by simp [gap.1], ?_⟩
      rw [List.forall_mem_append]
      exact ⟨gap.2, lexAll_eq_nil_iff.1 (List.map_eq_nil_iff.1 nothing)⟩
    apply lexAll_unclosed_ne last unclosed blank
    rw [nothing, List.append_nil] at joined
    rwa [lex, text] at joined
  · intro h
    obtain ⟨closed, parted⟩ := h
    have apart := gap.standsApart t.toList
    have joined := (cuts_lexAll s.toList).joined apart closed (by rwa [skipped])
    rw [lex, text, joined, skipped]
    rfl

/-- A "not" stands in front of the blanks and a "-" behind them, so that the channel "is" and the
channel "null" do not meet. -/
theorem lex_joined_iff_sample :
    IsGap "\t\u00a0".toList ∧
      lex ("x is not" ++ "\t\u00a0" ++ "-null = 'b'") = lex "x is not" ++ lex "-null = 'b'" ∧
      lex "x is not" ++ lex "-null = 'b'" =
        [⟨.channel, "x"⟩, ⟨.channel, "is"⟩, ⟨.not, "not"⟩, ⟨.comparison, "-"⟩,
          ⟨.channel, "null"⟩, ⟨.comparison, "="⟩, ⟨.string, "'b'"⟩] := by
  have gap : IsGap "\t\u00a0".toList := ⟨by decide, List.all_eq_true.1 (by decide)⟩
  have first : lex "x is not" = [⟨.channel, "x"⟩, ⟨.channel, "is"⟩, ⟨.not, "not"⟩] := by
    decide +kernel
  have second : lex "-null = 'b'" =
      [⟨.comparison, "-"⟩, ⟨.channel, "null"⟩, ⟨.comparison, "="⟩, ⟨.string, "'b'"⟩] := by
    decide +kernel
  have closed : ∀ token ∈ (lex "x is not").getLast?, ¬IsUnclosed token := by
    simp [first, IsUnclosed]
  have parted : ¬JoinsCheck (lex "x is not") (lex "-null = 'b'") := by
    simp [second, JoinsCheck, CompletesCheck, Names]
  refine ⟨gap, (lex_joined_iff _ _ _ gap).2 ⟨closed, parted⟩, ?_⟩
  rw [first, second]
  rfl

end ChannelFilter.Token
