import ChannelFilter.Proofs.TokenReading

/-!
# The spans of tokens

The lexer cuts a text into the spellings of its tokens, with nothing but blanks in front of,
between and behind them. No other way of cutting the text follows the rules for tokens. Asked for
one token after the other, the lexer gives those of the text in their order, and from then on
none.
-/
namespace ChannelFilter.Token

open Text (isBlank)

variable {cs : List Char} {lexed : Lexed} {pieces : List Lexed} {n m : Nat}

/-- The text is the spellings of the pieces in their order, each read by the rules for tokens in
front of what follows it. All else is blanks. -/
inductive Cuts : List Char → List Lexed → Prop
  | none {cs : List Char} (blank : ∀ c ∈ cs, isBlank c = true) : Cuts cs []
  | piece {blanks : List Char} {lexed : Lexed} {others : List Lexed}
      (blank : ∀ c ∈ blanks, isBlank c = true) (nonempty : lexed.spelling ≠ [])
      (reading : Reading lexed) (rest : Cuts lexed.rest others) :
      Cuts (blanks ++ (lexed.spelling ++ lexed.rest)) (lexed :: others)

theorem lexAll_of_none (h : next? cs = none) : lexAll cs = [] := by
  rw [lexAll]
  split
  · rfl
  · next found =>
    rw [h] at found
    cases found

theorem lexAll_of_some (h : next? cs = some lexed) : lexAll cs = lexed :: lexAll lexed.rest := by
  rw [lexAll]
  split
  · next missing =>
    rw [h] at missing
    cases missing
  · next found =>
    rw [h] at found
    cases found
    rfl

theorem Reading.spelling_ne_nil (h : Reading lexed) : lexed.spelling ≠ [] := by
  intro empty
  have shorter := next?_length h.next?_eq
  rw [empty] at shorter
  exact Nat.lt_irrefl _ shorter

theorem cuts_lexAll (cs : List Char) : Cuts cs (lexAll cs) := by
  -- The rest of the first token is shorter than the text.
  induction hn : cs.length using Nat.strongRecOn generalizing cs with
  | _ n ih =>
      cases h : next? cs with
      | none =>
          rw [lexAll_of_none h]
          exact .none (next?_eq_none_iff.1 h)
      | some lexed =>
          have shorter := next?_length h
          have rest := ih lexed.rest.length (hn ▸ shorter) lexed.rest rfl
          obtain ⟨blanks, blank, reading, whole⟩ := next?_eq_some_iff.1 h
          rw [lexAll_of_some h, whole]
          exact .piece blank reading.spelling_ne_nil reading rest

/-- The rules leave one way of cutting a text. -/
theorem cuts_iff : Cuts cs pieces ↔ lexAll cs = pieces := by
  constructor
  · intro h
    induction h with
    | none blank => exact lexAll_of_none (next?_eq_none_iff.2 blank)
    | piece blank _ reading _ ih =>
        have first := next?_eq_some_iff.2 ⟨_, blank, reading, rfl⟩
        rw [lexAll_of_some first, ih]
  · intro h
    rw [← h]
    exact cuts_lexAll cs

def ask (cs : List Char) : Option Token × List Char :=
  match next? cs with
  | some lexed => (some lexed.token, lexed.rest)
  | none => (none, cs.dropWhile isBlank)

/-- What the lexer answers after it has been asked `n` times before. -/
def answer : Nat → List Char → Option Token
  | 0, cs => (ask cs).1
  | n + 1, cs => answer n (ask cs).2

theorem answer_eq (n : Nat) (cs : List Char) :
    answer n cs = ((lexAll cs).map (·.token))[n]? := by
  induction n generalizing cs with
  | zero =>
      cases h : next? cs with
      | none => simp [answer, ask, h, lexAll_of_none h]
      | some lexed => simp [answer, ask, h, lexAll_of_some h]
  | succ n ih =>
      rw [answer, ih]
      cases h : next? cs with
      | none =>
          have left : next? (cs.dropWhile isBlank) = none := by
            rw [next?_eq_none_iff] at h ⊢
            intro c member
            exact h c ((List.dropWhile_suffix isBlank).subset member)
          simp [ask, h, lexAll_of_none h, lexAll_of_none left]
      | some lexed => simp [ask, h, lexAll_of_some h]

theorem answer_eq_none_of_le (h : answer n cs = none) (le : n ≤ m) : answer m cs = none := by
  rw [answer_eq, List.getElem?_eq_none_iff] at h ⊢
  omega

/-- There is exactly one way of cutting a text by the rules for tokens, and the tokens of the text
are those of its pieces. Asking for the tokens one after the other gives these and then none for
ever. -/
theorem lex_cuts_text (text : String) :
    (∃ pieces, (∀ others, Cuts text.toList others ↔ others = pieces) ∧
        pieces.map (·.token) = lex text) ∧
      (∀ n, answer n text.toList = (lex text)[n]?) ∧
      ∀ n m, n ≤ m → answer n text.toList = none → answer m text.toList = none := by
  refine ⟨⟨lexAll text.toList, fun others => cuts_iff.trans eq_comm, rfl⟩, ?_, ?_⟩
  · intro n
    exact answer_eq n text.toList
  · intro n m le none
    exact answer_eq_none_of_le none le

theorem lex_cuts_text_sample :
    2 ≤ 7 ∧ answer 2 "a IS\t not  null ".toList = none ∧
      answer 7 "a IS\t not  null ".toList = none := by
  have none : answer 2 "a IS\t not  null ".toList = none := by decide +kernel
  exact ⟨by decide, none, (lex_cuts_text "a IS\t not  null ").2.2 2 7 (by decide) none⟩

end ChannelFilter.Token
