import ChannelFilter.Proofs.TokenSpans

/-!
# Tokens that are spelled again

The tokens of a text have the shapes that the rules give them, a string that is not closed is the
last of them, and no channel "is" stands where it would make a null check with the tokens behind
it. Tokens of that kind are called spellable. Written with a space between any two, they are read
back as they are. So the spellable lists of tokens are exactly those that texts have.
-/
namespace ChannelFilter.Token

open Text (isBlank isQuote)

variable {cs rest word : List Char} {lexed : Lexed} {token : Token} {tokens : List Token}
variable {keyword : String}

def IsClosedString (cs : List Char) : Prop :=
  ∃ quote body, isQuote quote = true ∧ quote ∉ body ∧ cs = quote :: (body ++ [quote])

/-- A quote and text without that quote. -/
def IsUnclosedString (cs : List Char) : Prop :=
  ∃ quote body, isQuote quote = true ∧ quote ∉ body ∧ cs = quote :: body

/-- A run of operator characters, or one character that starts nothing else. -/
def IsOperatorText (cs : List Char) : Prop :=
  (cs ≠ [] ∧ ∀ c ∈ cs, isOperatorChar c = true) ∨ ∃ c, IsSymbol c ∧ cs = [c]

/-- The value has the shape of the kind. -/
def HasShape (token : Token) : Prop :=
  match token.kind with
  | .channel => IsName token.value.toList
  | .number => IsNumberText token.value.toList
  | .string => IsClosedString token.value.toList
  | .comparison => IsOperatorText token.value.toList
  | .unary => token.value = "is null" ∨ token.value = "is not null"
  | .not => token.value = "not"
  | .and => token.value = "and"
  | .or => token.value = "or"
  | .openParen => token.value = "("
  | .closeParen => token.value = ")"

/-- The token is a string that is not closed. -/
def IsUnclosed (token : Token) : Prop :=
  token.kind = .string ∧ IsUnclosedString token.value.toList

/-- The token is a channel of that name, in any case of the ASCII letters. -/
def Names (keyword : String) (token : Token) : Prop :=
  token.kind = .channel ∧ isWord keyword token.value.toList = true

/-- The tokens start with a channel "null", or with a "not" and a channel "null". -/
def CompletesCheck : List Token → Prop
  | [] => False
  | first :: rest =>
    Names "null" first ∨ first.kind = .not ∧ ∃ second ∈ rest.head?, Names "null" second

/-- Each token has the shape of its kind, except that the last may be a string that is not closed,
and no channel "is" stands in front of tokens that complete a null check. -/
structure Spellable (tokens : List Token) : Prop where
  shape : ∀ front token rest, tokens = front ++ token :: rest →
    HasShape token ∨ rest = [] ∧ IsUnclosed token
  alone : ∀ front token rest, tokens = front ++ token :: rest →
    Names "is" token → ¬CompletesCheck rest

theorem spellable_nil : Spellable [] := by
  constructor <;> intro front token rest h <;> simp at h

theorem spellable_cons_iff :
    Spellable (token :: tokens) ↔
      (HasShape token ∨ tokens = [] ∧ IsUnclosed token) ∧
        (Names "is" token → ¬CompletesCheck tokens) ∧ Spellable tokens := by
  constructor
  · intro h
    refine ⟨h.shape [] token tokens rfl, h.alone [] token tokens rfl, ?_, ?_⟩
    · intro front other rest whole
      exact h.shape (token :: front) other rest (congrArg (token :: ·) whole)
    · intro front other rest whole
      exact h.alone (token :: front) other rest (congrArg (token :: ·) whole)
  · intro h
    obtain ⟨shape, alone, others⟩ := h
    constructor
    · intro front other rest whole
      cases front with
      | nil =>
          cases whole
          exact shape
      | cons first front =>
          cases whole
          exact others.shape front other rest rfl
    · intro front other rest whole
      cases front with
      | nil =>
          cases whole
          exact alone
      | cons first front =>
          cases whole
          exact others.alone front other rest rfl

theorem Lowercase.isName (lower : Lowercase keyword) (other : ∀ entry ∈ keywords, keyword ≠ entry.2)
    (h : isWord keyword word = true) : IsName word :=
  ⟨lower.isWordText h, fun entry member => not_isWord_of_ne h (other entry member)⟩

theorem next?_follows_null (h : Follows "null" cs rest) :
    ∃ word, isWord "null" word = true ∧ next? cs = some (.ofRun .channel word rest) := by
  obtain ⟨blanks, word, gap, null, ends, rfl⟩ := h
  have name : IsName word := lowercase_null.isName (by decide) null
  have noIs : isWord "is" word = false := not_isWord_of_ne null (by decide)
  refine ⟨word, null, next?_eq_some_iff.2 ⟨blanks, gap.2, .channel name ends ?_, ?_⟩⟩
  · simp [noIs]
  · simp [Lexed.ofRun]

theorem next?_follows_not (h : Follows "not" cs rest) :
    ∃ word, next? cs = some ⟨⟨.not, "not"⟩, word, rest⟩ := by
  obtain ⟨blanks, word, gap, not, ends, rfl⟩ := h
  refine ⟨word, next?_eq_some_iff.2 ⟨blanks, gap.2, .keyword (by decide) not ends, ?_⟩⟩
  simp

/-- A word token behind text with which no word goes on stands behind blanks. -/
theorem spacedWord_of_next? (h : next? cs = some lexed) (text : IsWordText lexed.spelling)
    (ends : WordEnds lexed.rest) :
    (spacedWord cs).word = lexed.spelling ∧ (spacedWord cs).rest = lexed.rest := by
  obtain ⟨blanks, blank, -, rfl⟩ := next?_eq_some_iff.1 h
  rw [← List.append_assoc, spacedWord_eq blank text ends]
  exact ⟨rfl, rfl⟩

theorem Reading.channel_spelling (h : Reading lexed) (kind : lexed.token.kind = .channel) :
    IsName lexed.spelling ∧ WordEnds lexed.rest ∧ lexed.token.value.toList = lexed.spelling ∧
      (isWord "is" lexed.spelling = true → ¬NullCheckFollows lexed.rest) := by
  cases h with
  | channel name ends alone => exact ⟨name, ends, String.toList_ofList, alone⟩
  | keyword known =>
      have other : ∀ entry ∈ keywords, entry.1 ≠ .channel := by decide
      exact absurd kind (other _ known)
  | _ => cases kind

theorem Reading.not_spelling (h : Reading lexed) (kind : lexed.token.kind = .not) :
    isWord "not" lexed.spelling = true ∧ WordEnds lexed.rest := by
  cases h with
  | keyword known spelled ends =>
      have value : ∀ entry ∈ keywords, entry.1 = .not → entry.2 = "not" := by decide
      cases value _ known kind
      exact ⟨spelled, ends⟩
  | _ => cases kind

theorem isWord_spacedWord_of_names (h : next? cs = some lexed) (names : Names keyword lexed.token) :
    isWord keyword (spacedWord cs).word = true := by
  obtain ⟨-, -, reading, -⟩ := next?_eq_some_iff.1 h
  obtain ⟨name, ends, value, -⟩ := reading.channel_spelling names.1
  rw [(spacedWord_of_next? h name.toIsWordText ends).1, ← value]
  exact names.2

theorem completesCheck_of_follows (h : NullCheckFollows cs) :
    CompletesCheck ((lexAll cs).map (·.token)) := by
  rcases h with ⟨rest, null⟩ | ⟨middle, rest, not, null⟩
  · obtain ⟨word, spelled, first⟩ := next?_follows_null null
    rw [lexAll_of_some first]
    exact .inl ⟨rfl, by rwa [Lexed.ofRun, String.toList_ofList]⟩
  · obtain ⟨no, first⟩ := next?_follows_not not
    obtain ⟨word, spelled, second⟩ := next?_follows_null null
    rw [lexAll_of_some first, lexAll_of_some second]
    exact .inr ⟨rfl, _, rfl, rfl, by rwa [Lexed.ofRun, String.toList_ofList]⟩

/-- What follows a word makes a null check of "is" exactly if the tokens there say so. -/
theorem nullCheckFollows_iff_completesCheck (ends : WordEnds cs) :
    NullCheckFollows cs ↔ CompletesCheck ((lexAll cs).map (·.token)) := by
  refine ⟨completesCheck_of_follows, ?_⟩
  intro h
  rw [nullCheckFollows_iff ends]
  cases first : next? cs with
  | none =>
      rw [lexAll_of_none first] at h
      exact h.elim
  | some lexed =>
      rw [lexAll_of_some first] at h
      rcases h with null | ⟨not, second, member, null⟩
      · exact .inl (isWord_spacedWord_of_names first null)
      · obtain ⟨-, -, reading, -⟩ := next?_eq_some_iff.1 first
        obtain ⟨spelled, behind⟩ := reading.not_spelling not
        obtain ⟨word, rest⟩ :=
          spacedWord_of_next? first (lowercase_not.isWordText spelled) behind
        refine .inr ⟨word ▸ spelled, ?_⟩
        rw [rest]
        cases next : next? lexed.rest with
        | none =>
            rw [lexAll_of_none next] at member
            cases member
        | some lexed' =>
            rw [lexAll_of_some next] at member
            cases member
            exact isWord_spacedWord_of_names next null

theorem Reading.hasShape (h : Reading lexed) :
    HasShape lexed.token ∨ lexed.rest = [] ∧ IsUnclosed lexed.token := by
  cases h with
  | openParen => exact .inl rfl
  | closeParen => exact .inl rfl
  | closedString opens absent =>
      exact .inl ⟨_, _, opens, absent, String.toList_ofList⟩
  | unclosedString opens absent =>
      exact .inr ⟨rfl, rfl, _, _, opens, absent, String.toList_ofList⟩
  | operator nonempty chars ends =>
      refine .inl (.inl ?_)
      rw [Lexed.ofRun, String.toList_ofList]
      exact ⟨nonempty, chars⟩
  | symbol lone noNumber => exact .inl (.inr ⟨_, lone, String.toList_ofList⟩)
  | number text ends =>
      refine .inl ?_
      rw [HasShape, Lexed.ofRun, String.toList_ofList]
      exact text
  | keyword known spelled ends =>
      have shapes : ∀ entry ∈ keywords, HasShape ⟨entry.1, entry.2⟩ := by
        simp [keywords, HasShape]
      exact .inl (shapes _ known)
  | isNull first gap last ends => exact .inl (.inl rfl)
  | isNotNull first gap second another last ends => exact .inl (.inr rfl)
  | channel name ends alone =>
      refine .inl ?_
      rw [HasShape, Lexed.ofRun, String.toList_ofList]
      exact name

theorem Cuts.spellable {pieces : List Lexed} (h : Cuts cs pieces) :
    Spellable (pieces.map (·.token)) := by
  induction h with
  | none blank => exact spellable_nil
  | @piece blanks lexed others blank nonempty reading rest ih =>
      refine spellable_cons_iff.2 ⟨?_, ?_, ih⟩
      · rcases reading.hasShape with shape | ⟨ends, unclosed⟩
        · exact .inl shape
        · rw [ends] at rest
          have none : others = [] := (cuts_iff.1 rest).symm.trans (lexAll_of_none rfl)
          exact .inr ⟨congrArg (List.map (·.token)) none, unclosed⟩
      · intro names
        obtain ⟨name, ends, value, alone⟩ := reading.channel_spelling names.1
        rw [← cuts_iff.1 rest, ← nullCheckFollows_iff_completesCheck ends]
        exact alone (value ▸ names.2)

theorem ofRun_toList (kind : Kind) (value : String) (rest : List Char) :
    Lexed.ofRun kind value.toList rest = ⟨⟨kind, value⟩, value.toList, rest⟩ := by
  rw [Lexed.ofRun, String.ofList_toList]

/-- The characters of the values, with a space in front of each. -/
def spaced : List Token → List Char
  | [] => []
  | token :: tokens => ' ' :: (token.value.toList ++ spaced tokens)

theorem IsSymbol.startsNumber_eq (lone : IsSymbol c) (space : ∀ c ∈ rest.head?, c = ' ') :
    startsNumber c rest = false := by
  cases rest with
  | nil => simp [startsNumber, startsWithDigit, lone.notDigit]
  | cons d rest =>
      cases space d rfl
      simp [startsNumber, startsWithDigit, lone.notDigit]

theorem reading_of_shape (shape : HasShape token ∨ rest = [] ∧ IsUnclosed token)
    (space : ∀ c ∈ rest.head?, c = ' ') (alone : Names "is" token → ¬NullCheckFollows rest) :
    Reading ⟨token, token.value.toList, rest⟩ := by
  have stops : ∀ {p : Char → Bool}, p ' ' = false → ∀ c ∈ rest.head?, p c = false := by
    intro p none c member
    rw [space c member]
    exact none
  have ends : WordEnds rest := stops (by decide)
  obtain ⟨kind, value⟩ := token
  rcases shape with shape | ⟨rfl, rfl, quote, body, opens, absent, text⟩
  · cases kind with
    | channel =>
        rw [← ofRun_toList]
        exact .channel shape ends fun spelled => alone ⟨rfl, spelled⟩
    | number =>
        rw [← ofRun_toList]
        refine .number shape ?_
        intro c member
        rw [space c member]
        exact not_isNumberText_concat (by decide) (by decide) _
    | string =>
        obtain ⟨quote, body, opens, absent, text⟩ := shape
        rw [← ofRun_toList, text]
        exact .closedString opens absent
    | comparison =>
        rw [← ofRun_toList]
        rcases shape with ⟨nonempty, chars⟩ | ⟨c, lone, text⟩
        · exact .operator nonempty chars (stops (by decide))
        · rw [text]
          exact .symbol lone (lone.startsNumber_eq space)
    | unary =>
        rcases shape with rfl | rfl
        · exact @Reading.isNull "is".toList [' '] "null".toList rest (by decide)
            isGap_space (by decide) ends
        · exact @Reading.isNotNull "is".toList [' '] "not".toList [' '] "null".toList rest
            (by decide) isGap_space (by decide) isGap_space (by decide) ends
    | not =>
        cases shape
        exact .keyword (by decide) (by decide) ends
    | and =>
        cases shape
        exact .keyword (by decide) (by decide) ends
    | or =>
        cases shape
        exact .keyword (by decide) (by decide) ends
    | openParen =>
        cases shape
        exact .openParen
    | closeParen =>
        cases shape
        exact .closeParen
  · rw [← ofRun_toList, text]
    exact .unclosedString opens absent

theorem head?_spaced : ∀ c ∈ (spaced tokens).head?, c = ' ' := by
  intro c member
  cases tokens with
  | nil => cases member
  | cons token tokens =>
      cases member
      rfl

theorem lexAll_spaced (h : Spellable tokens) : (lexAll (spaced tokens)).map (·.token) = tokens := by
  induction tokens with
  | nil => rw [spaced, lexAll_of_none rfl, List.map_nil]
  | cons token tokens ih =>
      obtain ⟨shape, alone, others⟩ := spellable_cons_iff.1 h
      have reread := ih others
      have ends : WordEnds (spaced tokens) := by
        intro c member
        rw [head?_spaced c member]
        decide
      have apart : Names "is" token → ¬NullCheckFollows (spaced tokens) := by
        rw [nullCheckFollows_iff_completesCheck ends, reread]
        exact alone
      have last : HasShape token ∨ spaced tokens = [] ∧ IsUnclosed token := by
        refine shape.imp_right fun unclosed => ⟨?_, unclosed.2⟩
        rw [unclosed.1, spaced]
      have reading := reading_of_shape last head?_spaced apart
      have first : next? (spaced (token :: tokens)) =
          some ⟨token, token.value.toList, spaced tokens⟩ :=
        next?_eq_some_iff.2 ⟨[' '], isGap_space.2, reading, rfl⟩
      rw [lexAll_of_some first, List.map_cons, reread]

/-- Leading blanks change no token. -/
theorem lexAll_append {blanks : List Char} (blank : ∀ c ∈ blanks, isBlank c = true) :
    lexAll (blanks ++ cs) = lexAll cs := by
  cases h : next? cs with
  | none => rw [lexAll_of_none h, lexAll_of_none ((next?_append blank cs).trans h)]
  | some lexed => rw [lexAll_of_some h, lexAll_of_some ((next?_append blank cs).trans h)]

/-- The values of the tokens with a space between any two. -/
def respell (tokens : List Token) : String :=
  " ".intercalate (tokens.map (·.value))

theorem spaced_eq (nonempty : tokens ≠ []) : spaced tokens = ' ' :: (respell tokens).toList := by
  induction tokens with
  | nil => exact absurd rfl nonempty
  | cons token tokens ih =>
      cases tokens with
      | nil => simp [spaced, respell]
      | cons next tokens =>
          rw [spaced, ih (List.cons_ne_nil _ _)]
          simp [respell, String.intercalate_cons_cons]

theorem lex_respell (h : Spellable tokens) : lex (respell tokens) = tokens := by
  have reread := lexAll_spaced h
  cases tokens with
  | nil => exact reread
  | cons token tokens =>
      rw [spaced_eq (List.cons_ne_nil _ _)] at reread
      rwa [lex, ← lexAll_append isGap_space.2]

/-- What texts have is spellable, and what is spellable is read back from the values with a space
between any two. So the spellable lists are those that some text has, and the tokens of a text are
also those of its respelling. -/
theorem lex_image_spellable :
    (∀ text, Spellable (lex text)) ∧
      (∀ tokens, Spellable tokens → lex (respell tokens) = tokens) ∧
      (∀ tokens, (∃ text, lex text = tokens) ↔ Spellable tokens) ∧
      ∀ text, lex (respell (lex text)) = lex text := by
  have spellable : ∀ text, Spellable (lex text) := fun text => (cuts_lexAll text.toList).spellable
  refine ⟨spellable, fun tokens => lex_respell, ?_, fun text => lex_respell (spellable text)⟩
  intro tokens
  constructor
  · intro h
    obtain ⟨text, rfl⟩ := h
    exact spellable text
  · intro h
    exact ⟨respell tokens, lex_respell h⟩

/-- The tokens of `is not-null -.5e+3 'it`, with a "-" that keeps "null" apart from "is not". -/
def apartSample : List Token :=
  [⟨.channel, "is"⟩, ⟨.not, "not"⟩, ⟨.comparison, "-"⟩, ⟨.channel, "null"⟩, ⟨.number, "-.5e+3"⟩,
   ⟨.string, "'it"⟩]

theorem lex_image_spellable_sample :
    Spellable apartSample ∧ lex "is not - null -.5e+3 'it" = apartSample := by
  have name : IsName "is".toList := lowercase_is.isName (by decide) (by decide)
  have null : IsName "null".toList := lowercase_null.isName (by decide) (by decide)
  have sign : IsSymbol '-' := ⟨by decide, by decide, by decide, by decide⟩
  have number : IsNumberText "-.5e+3".toList := by
    simp [IsNumberText, IsNumberTail, startsNumber, startsWithDigit, isNumberChar, isExponentMark]
  have string : IsUnclosed ⟨.string, "'it"⟩ := ⟨rfl, '\'', "it".toList, by decide, by decide, rfl⟩
  have spellable : Spellable apartSample := by
    refine spellable_cons_iff.2 ⟨.inl name, by simp [CompletesCheck, Names], ?_⟩
    refine spellable_cons_iff.2 ⟨.inl rfl, by simp [Names], ?_⟩
    refine spellable_cons_iff.2 ⟨.inl (.inr ⟨'-', sign, rfl⟩), by simp [Names], ?_⟩
    refine spellable_cons_iff.2 ⟨.inl null, by simp [Names, isWord], ?_⟩
    refine spellable_cons_iff.2 ⟨.inl number, by simp [Names], ?_⟩
    exact spellable_cons_iff.2 ⟨.inr ⟨rfl, string⟩, by simp [Names], spellable_nil⟩
  exact ⟨spellable, lex_image_spellable.2.1 apartSample spellable⟩

end ChannelFilter.Token
