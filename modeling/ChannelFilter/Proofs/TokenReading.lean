import ChannelFilter.Proofs.TokenRules

/-!
# How one token is read

The lexer follows the rules for tokens. Every token that it reads is read by one of them, and
wherever one of them applies the lexer reads the token that it gives. So no two rules apply to one
text.
-/
namespace ChannelFilter.Token

open Text (isBlank isQuote takeWhile_run dropWhile_run)

variable {c quote : Char} {cs tail rest word blanks body is : List Char} {lexed : Lexed}

theorem not_mem_reserved {p : Char → Bool} (none : reserved.any p = false) (h : p c = true) :
    c ∉ reserved := by
  intro member
  exact List.any_eq_false.1 none c member h

theorem lexFirst_quote (h : isQuote c = true) (cs : List Char) :
    lexFirst c cs = .ofRun .string (c :: (stringRun c cs).1) (stringRun c cs).2 := by
  have quotes : c = '"' ∨ c = '\'' := by simpa [isQuote] using h
  rcases quotes with rfl | rfl <;> rfl

theorem lexFirst_operator (h : isOperatorChar c = true) (cs : List Char) :
    lexFirst c cs =
      .ofRun .comparison (c :: cs.takeWhile isOperatorChar) (cs.dropWhile isOperatorChar) := by
  have signs : ((c = '<' ∨ c = '>') ∨ c = '=') ∨ c = '!' := by simpa [isOperatorChar] using h
  rcases signs with ((rfl | rfl) | rfl) | rfl <;> rfl

theorem mem_reserved_iff :
    c ∈ reserved ↔ c = '(' ∨ c = ')' ∨ isQuote c = true ∨ isOperatorChar c = true := by
  simp [reserved, isQuote, isOperatorChar, or_assoc]

theorem lexFirst_of_not_mem_reserved (h : c ∉ reserved) (cs : List Char) :
    lexFirst c cs =
      if startsNumber c cs then .ofRun .number (c :: (numberRun false cs).1) (numberRun false cs).2
      else if isWordStart c then
        lexWord (c :: cs.takeWhile isWordChar) (cs.dropWhile isWordChar)
      else .ofRun .comparison [c] cs := by
  simp only [mem_reserved_iff, not_or] at h
  obtain ⟨noOpen, noClose, noQuote, noOperator⟩ := h
  rw [lexFirst, if_neg noOpen, if_neg noClose, if_neg noQuote, if_neg noOperator]

theorem not_mem_reserved_of_startsNumber (h : startsNumber c cs = true) : c ∉ reserved := by
  rcases isDigit_or_sign_of_startsNumber h with digit | rfl | rfl
  · exact not_mem_reserved (by decide) digit
  · decide
  · decide

theorem lexFirst_number (h : startsNumber c cs = true) :
    lexFirst c cs = .ofRun .number (c :: (numberRun false cs).1) (numberRun false cs).2 := by
  rw [lexFirst_of_not_mem_reserved (not_mem_reserved_of_startsNumber h), if_pos h]

theorem not_startsNumber_of_isWordStart (h : isWordStart c = true) (cs : List Char) :
    startsNumber c cs = false := by
  rw [Bool.eq_false_iff]
  intro starts
  rcases isDigit_or_sign_of_startsNumber starts with digit | rfl | rfl
  · rw [not_isDigit_of_isWordStart h] at digit
    cases digit
  · exact absurd h (by decide)
  · exact absurd h (by decide)

theorem lexFirst_word (h : isWordStart c = true) (cs : List Char) :
    lexFirst c cs = lexWord (c :: cs.takeWhile isWordChar) (cs.dropWhile isWordChar) := by
  have free : c ∉ reserved := not_mem_reserved (by decide) h
  rw [lexFirst_of_not_mem_reserved free, not_startsNumber_of_isWordStart h, if_pos h]
  rfl

theorem lexFirst_symbol (lone : IsSymbol c) (noNumber : startsNumber c cs = false) :
    lexFirst c cs = .ofRun .comparison [c] cs := by
  rw [lexFirst_of_not_mem_reserved lone.notReserved, noNumber, lone.notWordStart]
  rfl

theorem reading_stringRun (opens : isQuote quote = true) (cs : List Char) :
    Reading (.ofRun .string (quote :: (stringRun quote cs).1) (stringRun quote cs).2) := by
  by_cases closes : quote ∈ cs
  · obtain ⟨body, rest, rfl, absent⟩ := List.eq_append_cons_of_mem closes
    rw [stringRun_closed absent]
    exact .closedString opens absent
  · rw [stringRun_unclosed closes]
    exact .unclosedString opens closes

theorem reading_numberRun (h : startsNumber c cs = true) :
    Reading (.ofRun .number (c :: (numberRun false cs).1) (numberRun false cs).2) := by
  have start := startsNumber_numberRun h
  have goesOn := isNumberTail_numberRun c cs
  have ends := numberRun_ends c cs
  rw [not_isExponentMark_of_startsNumber h] at goesOn ends
  exact .number ⟨start, goesOn⟩ fun d member more => ends d member more.2

theorem reading_nullCheck (isIs : isWord "is" is = true) (ends : WordEnds rest)
    (h : nullCheck? is rest = some lexed) : Reading lexed := by
  have second := wordEnds_spacedWord rest
  simp only [nullCheck?] at h
  split at h
  · next null =>
    cases h
    exact .isNull isIs (isGap_spacedWord lowercase_null ends null) null second
  · split at h
    · next notNull =>
      cases h
      obtain ⟨not, null⟩ := Bool.and_eq_true_iff.1 notNull
      exact .isNotNull isIs (isGap_spacedWord lowercase_not ends not) not
        (isGap_spacedWord lowercase_null second null) null (wordEnds_spacedWord _)
    · cases h

theorem nullCheck?_eq_none_iff (ends : WordEnds rest) :
    nullCheck? is rest = none ↔ ¬NullCheckFollows rest := by
  rw [nullCheckFollows_iff ends]
  simp only [nullCheck?]
  split
  · next null => simp [null]
  · next noNull => split <;> simp_all

theorem reading_lexWord (text : IsWordText word) (ends : WordEnds rest) :
    Reading (lexWord word rest) := by
  unfold lexWord
  split
  · next spelled => exact .keyword (by decide) spelled ends
  split
  · next spelled => exact .keyword (by decide) spelled ends
  split
  · next spelled => exact .keyword (by decide) spelled ends
  next noAnd noOr noNot =>
  have name : IsName word := ⟨text, by simp [keywords, noAnd, noOr, noNot]⟩
  split
  · next isIs =>
    cases check : nullCheck? word rest with
    | none => exact .channel name ends fun _ => (nullCheck?_eq_none_iff ends).1 check
    | some lexed => exact reading_nullCheck isIs ends check
  · next other => exact .channel name ends fun spelled => absurd spelled other

theorem isWordText_takeWhile (h : isWordStart c = true) (cs : List Char) :
    IsWordText (c :: cs.takeWhile isWordChar) :=
  ⟨⟨c, rfl, h⟩, forall_mem_cons_takeWhile (isWordChar_of_isWordStart h) cs⟩

theorem reading_of_mem_reserved (member : c ∈ reserved) (cs : List Char) :
    Reading (lexFirst c cs) := by
  rcases mem_reserved_iff.1 member with rfl | rfl | opens | sign
  · exact .openParen
  · exact .closeParen
  · rw [lexFirst_quote opens]
    exact reading_stringRun opens cs
  · rw [lexFirst_operator sign]
    exact .operator (List.cons_ne_nil _ _) (forall_mem_cons_takeWhile sign cs)
      (Text.head?_dropWhile isOperatorChar cs)

theorem reading_lexFirst (visible : isBlank c = false) (cs : List Char) :
    Reading (lexFirst c cs) := by
  by_cases member : c ∈ reserved
  · exact reading_of_mem_reserved member cs
  cases number : startsNumber c cs with
  | true =>
      rw [lexFirst_number number]
      exact reading_numberRun number
  | false =>
      cases word : isWordStart c with
      | true =>
          rw [lexFirst_word word]
          exact reading_lexWord (isWordText_takeWhile word cs)
            (Text.head?_dropWhile isWordChar cs)
      | false =>
          have noDigit : c.isDigit = false := by
            rw [startsNumber, Bool.or_assoc] at number
            exact (Bool.or_eq_false_iff.1 number).1
          have lone : IsSymbol c := ⟨visible, member, noDigit, word⟩
          rw [lexFirst_symbol lone number]
          exact .symbol lone number

theorem next?_cons (visible : isBlank c = false) (cs : List Char) :
    next? (c :: cs) = some (lexFirst c cs) := by
  rw [next?, List.dropWhile_cons_of_neg (by simp [visible])]

theorem next?_word (text : IsWordText word) (ends : WordEnds rest) :
    next? (word ++ rest) = some (lexWord word rest) := by
  obtain ⟨c, member, start⟩ := text.start
  cases word with
  | nil => cases member
  | cons c tail =>
      cases member
      have chars : ∀ d ∈ tail, isWordChar d = true :=
        fun d member => text.chars d (List.mem_cons_of_mem _ member)
      rw [List.cons_append, next?_cons (not_isBlank_of_isWordStart start), lexFirst_word start,
        takeWhile_run chars ends, dropWhile_run chars ends]

theorem lexWord_keyword {kind : Kind} {value : String} (known : (kind, value) ∈ keywords)
    (spelled : isWord value word = true) (rest : List Char) :
    lexWord word rest = ⟨⟨kind, value⟩, word, rest⟩ := by
  simp only [keywords, List.mem_cons, List.not_mem_nil, or_false, Prod.mk.injEq] at known
  rcases known with ⟨rfl, rfl⟩ | ⟨rfl, rfl⟩ | ⟨rfl, rfl⟩
  · rw [lexWord, if_pos spelled]
  · have noAnd : isWord "and" word = false := not_isWord_of_ne spelled (by decide)
    simp [lexWord, noAnd, spelled]
  · have noAnd : isWord "and" word = false := not_isWord_of_ne spelled (by decide)
    have noOr : isWord "or" word = false := not_isWord_of_ne spelled (by decide)
    simp [lexWord, noAnd, noOr, spelled]

theorem lexWord_of_noKeyword (noKeyword : ∀ entry ∈ keywords, isWord entry.2 word = false)
    (rest : List Char) :
    lexWord word rest =
      if isWord "is" word then (nullCheck? word rest).getD (.ofRun .channel word rest)
      else .ofRun .channel word rest := by
  simp only [keywords, List.forall_mem_cons] at noKeyword
  simp [lexWord, noKeyword]

theorem lexWord_is (spelled : isWord "is" word = true) (rest : List Char) :
    lexWord word rest = (nullCheck? word rest).getD (.ofRun .channel word rest) := by
  have noKeyword : ∀ entry ∈ keywords, isWord entry.2 word = false := by
    intro entry member
    exact not_isWord_of_ne spelled (by revert entry; decide)
  rw [lexWord_of_noKeyword noKeyword, if_pos spelled]

theorem lexWord_name (name : IsName word) (alone : isWord "is" word = true → ¬NullCheckFollows rest)
    (ends : WordEnds rest) : lexWord word rest = .ofRun .channel word rest := by
  cases spelled : isWord "is" word with
  | true =>
      rw [lexWord_is spelled, (nullCheck?_eq_none_iff ends).2 (alone spelled)]
      rfl
  | false =>
      rw [lexWord_of_noKeyword name.noKeyword, spelled]
      rfl

theorem nullCheck?_null (gap : IsGap blanks) (null : isWord "null" word = true)
    (ends : WordEnds rest) :
    nullCheck? is (blanks ++ word ++ rest) =
      some ⟨⟨.unary, "is null"⟩, is ++ blanks ++ word, rest⟩ := by
  simp only [nullCheck?, spacedWord_eq gap.2 (lowercase_null.isWordText null) ends]
  rw [if_pos null]

theorem nullCheck?_notNull {not more null : List Char} (gap : IsGap blanks)
    (second : isWord "not" not = true) (another : IsGap more) (last : isWord "null" null = true)
    (ends : WordEnds rest) :
    nullCheck? is (blanks ++ not ++ (more ++ null ++ rest)) =
      some ⟨⟨.unary, "is not null"⟩, is ++ blanks ++ not ++ more ++ null, rest⟩ := by
  have noNull : isWord "null" not = false := not_isWord_of_ne second (by decide)
  simp only [nullCheck?,
    spacedWord_eq gap.2 (lowercase_not.isWordText second) (another.wordEnds null rest),
    spacedWord_eq another.2 (lowercase_null.isWordText last) ends, noNull, second, last]
  rfl

theorem not_isBlank_of_mem_reserved (h : c ∈ reserved) : isBlank c = false := by
  rw [Bool.eq_false_iff]
  intro blank
  exact not_mem_reserved (by decide) blank h

theorem next?_quote (opens : isQuote c = true) (cs : List Char) :
    next? (c :: cs) = some (.ofRun .string (c :: (stringRun c cs).1) (stringRun c cs).2) := by
  have member : c ∈ reserved := mem_reserved_iff.2 (.inr (.inr (.inl opens)))
  rw [next?_cons (not_isBlank_of_mem_reserved member), lexFirst_quote opens]

theorem next?_operator (nonempty : word ≠ []) (chars : ∀ c ∈ word, isOperatorChar c = true)
    (ends : ∀ c ∈ rest.head?, isOperatorChar c = false) :
    next? (word ++ rest) = some (.ofRun .comparison word rest) := by
  cases word with
  | nil => exact absurd rfl nonempty
  | cons c run =>
      obtain ⟨sign, signs⟩ := List.forall_mem_cons.1 chars
      have member : c ∈ reserved := mem_reserved_iff.2 (.inr (.inr (.inr sign)))
      rw [List.cons_append, next?_cons (not_isBlank_of_mem_reserved member), lexFirst_operator sign,
        takeWhile_run signs ends, dropWhile_run signs ends]

theorem not_isBlank_of_startsNumber (h : startsNumber c cs = true) : isBlank c = false := by
  rcases isDigit_or_sign_of_startsNumber h with digit | rfl | rfl
  · exact Text.not_isBlank_of_isDigit digit
  · decide
  · decide

theorem next?_number (text : IsNumberText word)
    (ends : ∀ c ∈ rest.head?, ¬IsNumberText (word ++ [c])) :
    next? (word ++ rest) = some (.ofRun .number word rest) := by
  cases word with
  | nil => cases text
  | cons c tail =>
      obtain ⟨starts, goesOn⟩ := text
      have stops : ∀ d ∈ rest.head?, ¬IsNumberTail c (tail ++ [d]) :=
        fun d member more => ends d member ⟨startsNumber_append starts [d], more⟩
      have run := numberRun_eq goesOn stops
      rw [not_isExponentMark_of_startsNumber starts] at run
      rw [List.cons_append, next?_cons (not_isBlank_of_startsNumber starts),
        lexFirst_number (startsNumber_append starts rest), run]

theorem Reading.next?_eq (h : Reading lexed) :
    next? (lexed.spelling ++ lexed.rest) = some lexed := by
  cases h with
  | openParen => rfl
  | closeParen => rfl
  | @closedString quote body rest opens absent =>
      have whole : quote :: (body ++ [quote]) ++ rest = quote :: (body ++ quote :: rest) := by simp
      exact (congrArg next? whole).trans ((next?_quote opens _).trans
        (by rw [stringRun_closed absent]))
  | @unclosedString quote body opens absent =>
      have whole : quote :: body ++ [] = quote :: body := List.append_nil _
      exact (congrArg next? whole).trans ((next?_quote opens _).trans
        (by rw [stringRun_unclosed absent]))
  | operator nonempty chars ends => exact next?_operator nonempty chars ends
  | symbol lone noNumber =>
      exact (next?_cons lone.notBlank _).trans (congrArg some (lexFirst_symbol lone noNumber))
  | number text ends => exact next?_number text ends
  | keyword known spelled ends =>
      have text := (lowercase_of_mem_keywords known).isWordText spelled
      exact (next?_word text ends).trans (congrArg some (lexWord_keyword known spelled _))
  | @isNull is blanks null rest first gap last ends =>
      have whole : is ++ blanks ++ null ++ rest = is ++ (blanks ++ null ++ rest) := by simp
      rw [whole, next?_word (lowercase_is.isWordText first) (gap.wordEnds null rest),
        lexWord_is first, nullCheck?_null gap last ends]
      rfl
  | @isNotNull is blanks not more null rest first gap second another last ends =>
      have whole : is ++ blanks ++ not ++ more ++ null ++ rest =
          is ++ (blanks ++ not ++ (more ++ null ++ rest)) := by simp
      rw [whole, next?_word (lowercase_is.isWordText first) (gap.wordEnds not _),
        lexWord_is first, nullCheck?_notNull gap second another last ends]
      rfl
  | channel name ends alone =>
      exact (next?_word name.toIsWordText ends).trans (congrArg some (lexWord_name name alone ends))

theorem next?_append (blank : ∀ c ∈ blanks, isBlank c = true) (cs : List Char) :
    next? (blanks ++ cs) = next? cs := by
  rw [next?, next?, List.dropWhile_append_of_pos blank]

theorem next?_eq_none_iff : next? cs = none ↔ ∀ c ∈ cs, isBlank c = true := by
  have whole := List.takeWhile_append_dropWhile (p := isBlank) (l := cs)
  constructor
  · intro h
    unfold next? at h
    split at h
    · next behind =>
      rw [behind, List.append_nil] at whole
      intro c member
      rw [← whole] at member
      exact of_mem_takeWhile member
    · cases h
  · intro blank
    have nothing := next?_append blank []
    rwa [List.append_nil] at nothing

/-- The first token is the one that some rule reads behind the blanks at the front. -/
theorem next?_eq_some_iff :
    next? cs = some lexed ↔
      ∃ blanks, (∀ c ∈ blanks, isBlank c = true) ∧ Reading lexed ∧
        cs = blanks ++ (lexed.spelling ++ lexed.rest) := by
  constructor
  · intro h
    have whole := List.takeWhile_append_dropWhile (p := isBlank) (l := cs)
    have visible := Text.head?_dropWhile isBlank cs
    unfold next? at h
    split at h
    · cases h
    · next c tail behind =>
      cases h
      rw [behind] at whole visible
      refine ⟨cs.takeWhile isBlank, fun d member => of_mem_takeWhile member,
        reading_lexFirst (visible c rfl) tail, ?_⟩
      rw [lexFirst_append, whole]
  · intro h
    obtain ⟨blanks, blank, reading, rfl⟩ := h
    rw [next?_append blank, reading.next?_eq]

end ChannelFilter.Token
