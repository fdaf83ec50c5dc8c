import ChannelFilter.Proofs.JoinedTexts
import ChannelFilter.Proofs.RepeatedCalls

/-!
# Quoted literals

A literal is closed by the first quote of the sort that opens it, so its body may hold quotes of the
other sort, and at the end of a text it may stay open. It is one token, with its quotes. As the
right operand of a comparison it stands for the body without the quotes at either end, of both
sorts, so it stands for the body itself only if no quote of the other sort stands there.
-/
namespace ChannelFilter.Text

variable {quote : Char} {body text : String}

/-- The result has no quote at its ends, and what the text has around it are quotes. -/
def Unquotes (text result : String) : Prop :=
  Bare isQuote result.toList ∧
    ∃ front back, (∀ c ∈ front ++ back, isQuote c = true) ∧
      text.toList = front ++ (result.toList ++ back)

theorem unquotes_unquoted (text : String) : Unquotes text (unquoted text) := by
  refine ⟨bare_unquoted text, ?_⟩
  rw [unquoted, String.toList_ofList]
  exact exists_strip isQuote text.toList

def otherQuote (quote : Char) : Char :=
  if quote = '"' then '\'' else '"'

theorem isQuote_otherQuote (quote : Char) : isQuote (otherQuote quote) = true := by
  unfold otherQuote
  split <;> rfl

theorem eq_otherQuote {c : Char} (opens : isQuote quote = true) (h : isQuote c = true)
    (ne : c ≠ quote) : c = otherQuote quote := by
  have quotes : quote = '"' ∨ quote = '\'' := by simpa [isQuote] using opens
  have either : c = '"' ∨ c = '\'' := by simpa [isQuote] using h
  rcases quotes with rfl | rfl <;> rcases either with rfl | rfl
  · exact absurd rfl ne
  · rfl
  · rfl
  · exact absurd rfl ne

/-- Of the characters of a body without the one quote, only the other one is a quote. -/
theorem forall_not_isQuote_iff (opens : isQuote quote = true) (absent : quote ∉ body.toList)
    {outer : Option Char} (inside : ∀ c ∈ outer, c ∈ body.toList) :
    (∀ c ∈ outer, isQuote c = false) ↔ otherQuote quote ∉ outer := by
  constructor
  · intro none member
    have visible := none _ member
    rw [isQuote_otherQuote] at visible
    cases visible
  · intro none c member
    apply Bool.eq_false_iff.2
    intro h
    have other : c = otherQuote quote := by
      apply eq_otherQuote opens h
      rintro rfl
      exact absent (inside _ member)
    exact none (other ▸ member)

theorem bare_iff_otherQuote (opens : isQuote quote = true) (absent : quote ∉ body.toList) :
    Bare isQuote body.toList ↔
      otherQuote quote ∉ body.toList.head? ∧ otherQuote quote ∉ body.toList.getLast? :=
  and_congr (forall_not_isQuote_iff opens absent fun _ first => List.mem_of_mem_head? first)
    (forall_not_isQuote_iff opens absent fun _ last => List.mem_of_mem_getLast? last)

/-- The body between two quotes. -/
def closedLiteral (quote : Char) (body : String) : String :=
  String.singleton quote ++ body ++ String.singleton quote

/-- The body behind a quote. -/
def openLiteral (quote : Char) (body : String) : String :=
  String.singleton quote ++ body

/-- The text is the literal with this body, closed or not. -/
def IsLiteral (quote : Char) (body text : String) : Prop :=
  text = closedLiteral quote body ∨ text = openLiteral quote body

theorem toList_closedLiteral (quote : Char) (body : String) :
    (closedLiteral quote body).toList = quote :: (body.toList ++ [quote]) := by
  simp [closedLiteral]

theorem toList_openLiteral (quote : Char) (body : String) :
    (openLiteral quote body).toList = quote :: body.toList := by
  simp [openLiteral]

/-- The quotes around a body are taken off with those at its ends. -/
theorem IsLiteral.unquoted_eq (h : IsLiteral quote body text) (opens : isQuote quote = true) :
    unquoted text = unquoted body := by
  rcases h with rfl | rfl
  · rw [unquoted, toList_closedLiteral, strip_cons opens, strip_concat opens, unquoted]
  · rw [unquoted, toList_openLiteral, strip_cons opens, unquoted]

end ChannelFilter.Text

namespace ChannelFilter.Token

open Text

variable {quote : Char} {body front text : String} {tokens : List Token}

def EndsInComparison (tokens : List Token) : Prop :=
  ∃ token ∈ tokens.getLast?, token.kind = .comparison

theorem EndsInComparison.not_isUnclosed (h : EndsInComparison tokens) :
    ∀ token ∈ tokens.getLast?, ¬IsUnclosed token := by
  obtain ⟨last, member, kind⟩ := h
  intro token other unclosed
  cases Option.mem_unique member other
  cases kind.symm.trans unclosed.1

theorem EndsInComparison.not_joinsCheck (h : EndsInComparison tokens) (back : List Token) :
    ¬JoinsCheck tokens back := by
  obtain ⟨last, member, kind⟩ := h
  rintro (⟨before, is, rfl, names, -⟩ | ⟨before, is, not, rfl, -, negation, -⟩)
  · have same : is = last := by simpa using member
    cases same
    cases kind.symm.trans names.1
  · have same : not = last := by simpa using member
    cases same
    cases kind.symm.trans negation

/-- Behind a comparison operator, text that starts with a quote keeps its tokens. -/
theorem lex_append_quote (h : EndsInComparison (lex front))
    (opens : isQuote quote = true) (quoted : quote ∈ text.toList.head?) :
    lex (front ++ text) = lex front ++ lex text := by
  obtain ⟨tail, chars⟩ := List.head?_eq_some_iff.1 quoted
  have apart : StandsApart text.toList := chars ▸ standsApart_of_isQuote opens tail
  have joined := (cuts_lexAll front.toList).joined apart h.not_isUnclosed (h.not_joinsCheck _)
  rw [lex, String.toList_append]
  exact joined

theorem lex_empty : lex "" = [] := by
  rw [lex, String.toList_empty, lexAll_of_none rfl, List.map_nil]

theorem lex_closedLiteral (opens : isQuote quote = true) (absent : quote ∉ body.toList)
    (rest : String) :
    lex (closedLiteral quote body ++ rest) = ⟨.string, closedLiteral quote body⟩ :: lex rest := by
  have value : String.ofList (quote :: (body.toList ++ [quote])) = closedLiteral quote body := by
    rw [← toList_closedLiteral, String.ofList_toList]
  have first : next? (closedLiteral quote body ++ rest).toList =
      some (.ofRun .string (quote :: (body.toList ++ [quote])) rest.toList) := by
    rw [String.toList_append, toList_closedLiteral]
    exact next?_eq_some_iff.2 ⟨[], by simp, .closedString opens absent, rfl⟩
  rw [lex, lexAll_of_some first, List.map_cons, Lexed.ofRun, value]
  rfl

theorem lex_openLiteral (opens : isQuote quote = true) (absent : quote ∉ body.toList) :
    lex (openLiteral quote body) = [⟨.string, openLiteral quote body⟩] := by
  have value : String.ofList (quote :: body.toList) = openLiteral quote body := by
    rw [← toList_openLiteral, String.ofList_toList]
  have first : next? (openLiteral quote body).toList =
      some (.ofRun .string (quote :: body.toList) []) := by
    rw [toList_openLiteral]
    exact next?_eq_some_iff.2 ⟨[], by simp, .unclosedString opens absent, by simp [Lexed.ofRun]⟩
  rw [lex, lexAll_of_some first, List.map_cons, Lexed.ofRun, value, lexAll_of_none rfl,
    List.map_nil]

/-- Behind a comparison operator a closed literal is one token, whatever follows it. -/
theorem lex_append_closedLiteral (h : EndsInComparison (lex front))
    (opens : isQuote quote = true) (absent : quote ∉ body.toList) (rest : String) :
    lex (front ++ closedLiteral quote body ++ rest) =
      lex front ++ ⟨.string, closedLiteral quote body⟩ :: lex rest := by
  have quoted : quote ∈ (closedLiteral quote body ++ rest).toList.head? := by
    simp [toList_closedLiteral]
  rw [String.append_assoc, lex_append_quote h opens quoted, lex_closedLiteral opens absent]

/-- Behind a comparison operator a literal that is not closed is one token. -/
theorem lex_append_openLiteral (h : EndsInComparison (lex front))
    (opens : isQuote quote = true) (absent : quote ∉ body.toList) :
    lex (front ++ openLiteral quote body) =
      lex front ++ [⟨.string, openLiteral quote body⟩] := by
  have quoted : quote ∈ (openLiteral quote body).toList.head? := by simp [toList_openLiteral]
  rw [lex_append_quote h opens quoted, lex_openLiteral opens absent]

/-- At the end of a text a literal of either sort is one token. -/
theorem lex_append_literal (h : EndsInComparison (lex front)) (opens : isQuote quote = true)
    (absent : quote ∉ body.toList) (literal : IsLiteral quote body text) :
    lex (front ++ text) = lex front ++ [⟨.string, text⟩] := by
  rcases literal with rfl | rfl
  · have whole := lex_append_closedLiteral h opens absent ""
    rwa [String.append_empty, lex_empty] at whole
  · exact lex_append_openLiteral h opens absent

end ChannelFilter.Token

namespace ChannelFilter.Parser

open Text Token

variable {limit : Option Nat} {opened : Nat} {s : State} {operand : Operand}
variable {quote : Char} {body front text : String}

/-- Behind every text that takes a reader behind a comparison operator, the given text is taken as
the given operand. -/
def TakenAs (text : String) (operand : Operand) : Prop :=
  ∀ limit opened front s, EndsInComparison (lex front) →
    Shifts limit opened .start (lex front) s →
    ∃ negated channel comparison, s.due = .operand negated channel comparison ∧
      Shifts limit opened .start (lex (front ++ text))
        (s.endFactor negated (.predicate { channel, comparison, operand }))

/-- Behind a comparison operator that was taken, an operand is due. -/
theorem Shifts.due_of_endsInComparison {tokens : List Token}
    (shifts : Shifts limit opened .start tokens s) (behind : EndsInComparison tokens) :
    ∃ negated channel comparison, s.due = .operand negated channel comparison := by
  obtain ⟨operator, last, kind⟩ := behind
  obtain ⟨before, rfl⟩ := List.getLast?_eq_some_iff.1 last
  obtain ⟨_, -, final⟩ := shifts.of_append
  cases final with
  | cons shift none =>
      cases none
      exact shift.due_of_comparison kind

/-- A literal is taken as its body without the quotes at the ends. -/
theorem takenAs_literal (opens : isQuote quote = true) (absent : quote ∉ body.toList)
    (literal : IsLiteral quote body text) : TakenAs text (.string (unquoted body)) := by
  intro limit opened front s behind shifts
  obtain ⟨negated, channel, comparison, due⟩ := shifts.due_of_endsInComparison behind
  have known : operandOf ⟨.string, text⟩ = .ok (.string (unquoted body)) := by
    rw [← literal.unquoted_eq opens]
    rfl
  refine ⟨negated, channel, comparison, due, ?_⟩
  rw [lex_append_literal behind opens absent literal]
  exact shifts.append (.single (.operand due known))

/-- A channel and an operator, with a text behind them that is taken as an operand, are the
predicate of the three. -/
theorem TakenAs.ofAllTokens (taken : TakenAs text operand)
    {channel : String} {operator : Token} {comparison : Comparison}
    (tokens : lex front = [⟨.channel, channel⟩, operator]) (kind : operator.kind = .comparison)
    (known : Catalog.resolve operator = .ok comparison) :
    Condition.ofAllTokens (lex (front ++ text)) =
      .ok (.predicate { channel, comparison, operand }) := by
  have behind : EndsInComparison (lex front) := by
    rw [tokens]
    exact ⟨operator, rfl, kind⟩
  have shifts : Shifts (some maxNesting) 0 .start (lex front)
      { State.start with due := .operand false channel comparison } := by
    rw [tokens]
    exact .cons (.channel rfl rfl) (.single (.comparison rfl kind known))
  obtain ⟨negated, left, middle, due, whole⟩ := taken _ _ front _ behind shifts
  cases due
  exact ofAllTokens_of_shifts whole

/-- Behind a comparison operator a quote, a body without this quote, and the quote once more are
one token, and so are the quote and the body at the end of a text. Both are taken as the body
without the quotes of both sorts at its ends. This is the body itself exactly if it is empty or the
other quote is at neither of its ends, and to take the quotes off once more changes nothing. -/
theorem quoted_literal_read (quote : Char) (body : String) (opens : isQuote quote = true)
    (absent : quote ∉ body.toList) :
    (∀ front, EndsInComparison (lex front) →
      (∀ rest, lex (front ++ closedLiteral quote body ++ rest) =
        lex front ++ ⟨.string, closedLiteral quote body⟩ :: lex rest) ∧
      lex (front ++ openLiteral quote body) =
        lex front ++ [⟨.string, openLiteral quote body⟩]) ∧
    (∀ text, IsLiteral quote body text →
      TakenAs text (.string (unquoted body)) ∧
      ∀ front channel operator comparison, lex front = [⟨.channel, channel⟩, operator] →
        operator.kind = .comparison → Catalog.resolve operator = .ok comparison →
        Condition.ofAllTokens (lex (front ++ text)) =
          .ok (.predicate { channel, comparison, operand := .string (unquoted body) })) ∧
    Unquotes body (unquoted body) ∧
    (unquoted body = body ↔
      body = "" ∨
        otherQuote quote ∉ body.toList.head? ∧ otherQuote quote ∉ body.toList.getLast?) ∧
    ∀ text, unquoted (unquoted text) = unquoted text := by
  refine ⟨?_, ?_, unquotes_unquoted body, ?_, ?_⟩
  · intro front behind
    exact ⟨lex_append_closedLiteral behind opens absent,
      lex_append_openLiteral behind opens absent⟩
  · intro text literal
    have taken := takenAs_literal opens absent literal
    exact ⟨taken, fun _ _ _ _ tokens kind known => taken.ofAllTokens tokens kind known⟩
  · rw [unquoted_eq_iff, bare_iff_otherQuote opens absent]
    constructor
    · exact .inr
    · rintro (rfl | ends)
      · exact ⟨nofun, nofun⟩
      · exact ends
  · intro text
    exact unquoted_of_bare (bare_unquoted text)

/-- The body has quotes of the other sort at its ends and inside, and only the former are taken
off. -/
theorem quoted_literal_read_sample :
    isQuote '\'' = true ∧ '\'' ∉ "\"a\" or \"b\"".toList ∧
      ∀ text ∈ ["'\"a\" or \"b\"'", "'\"a\" or \"b\""],
        Condition.ofAllTokens (lex ("x =" ++ text)) =
          .ok (.predicate
            { channel := "x", comparison := .eq, operand := .string "a\" or \"b" }) := by
  have opens : isQuote '\'' = true := by decide
  have absent : '\'' ∉ "\"a\" or \"b\"".toList := by decide
  have front : lex "x =" = [⟨.channel, "x"⟩, ⟨.comparison, "="⟩] := by decide +kernel
  have known : Catalog.resolve ⟨.comparison, "="⟩ = .ok .eq := by rfl
  have body : unquoted "\"a\" or \"b\"" = "a\" or \"b" := by decide +kernel
  refine ⟨opens, absent, ?_⟩
  intro text member
  have literal : IsLiteral '\'' "\"a\" or \"b\"" text := by
    simpa [IsLiteral, closedLiteral, openLiteral] using member
  have read := (quoted_literal_read '\'' "\"a\" or \"b\"" opens absent).2.1 text literal
  rw [read.2 _ _ _ _ front rfl known, body]

end ChannelFilter.Parser
