import ContractLexer.Proofs.Spelling
import ContractLexer.Stream

/-!
# Longest match

A text is cut into lexemes: stretches that spell a kind of token each, none of
which is prolonged by what stands behind it.  There is one such cut at most, and
reading finds it.

**Contents.**  Lexemes, the text they make up, the longest-match condition, the
tokens of lexemes at their locations, and the cut that reading makes of a text.

**Results.**
* `Lexeme.cut_append`: lexemes that meet the longest-match condition are the ones
  that reading cuts off.
* `ofTextAt_append`: they appear in the stream as the tokens of the lexemes,
  followed by the stream of the text behind them.
* `tokenize_eq_ok_iff`, `tokenize_eq_error_iff`: the tokens of a text and the
  error of a text, in terms of lexemes.
* `tokenize_kinds_iff`: the lexer accepts exactly the longest-match grammar.
-/

namespace ContractLexer

/-- A text that spells a kind of token. -/
@[ext] structure Lexeme where
  kind : TokenKind
  text : Text
  spelled : kind.SpelledBy text

namespace Lexeme

/-- The text that lexemes make up. -/
def joined (ls : List Lexeme) : Text :=
  ls.flatMap Lexeme.text

@[simp] theorem joined_nil :
    joined [] = [] := by
  rfl

@[simp] theorem joined_cons
    (l : Lexeme)
    (ls : List Lexeme) :
    joined (l :: ls) = l.text ++ joined ls := by
  rfl

/-- No lexeme is prolonged by the text behind it, where `r` stands behind all of
them. -/
def LongestMatch : List Lexeme → Text → Prop
  | [], _ => True
  | l :: ls, r => l.kind.StopsAt (joined ls ++ r) ∧ LongestMatch ls r

/-- The tokens of lexemes, when the first one stands at `start`. -/
def located : Location → List Lexeme → List Token
  | _, [] => []
  | start, l :: ls =>
      { kind := l.kind, location := start } :: located (start.after l.text) ls

@[simp] theorem map_kind_located
    (start : Location)
    (ls : List Lexeme) :
    (located start ls).map Token.kind = ls.map Lexeme.kind := by
  induction ls generalizing start with
  | nil =>
      rfl
  | cons l ls ih =>
      simp [located, ih]

/-- Cut a text into lexemes as far as it can be read.  The result is the lexemes
and the text left. -/
def cut (text : Text) : List Lexeme × Text :=
  match text with
  | [] => ([], [])
  | c :: rest =>
      match h : readToken c rest with
      | .ok r =>
          let behind := cut r.rest
          ({ kind := r.kind
             text := r.spelling
             spelled := (spelledBy_and_stopsAt_of_readToken h).1 } :: behind.1, behind.2)
      | .error _ => ([], c :: rest)
  termination_by text.length
  decreasing_by exact readToken_length_rest_lt h

/-- The lexemes that reading cuts off a text, one for each token. -/
def ofText (text : Text) : List Lexeme :=
  (cut text).1

/-- The text is empty, or no token can be read from it. -/
def Unreadable (text : Text) : Prop :=
  ∀ c rest, text = c :: rest → ∃ f, readToken c rest = .error f

theorem unreadable_nil :
    Unreadable [] := by
  intro c rest h
  cases h

theorem unreadable_cons
    {c : Char}
    {rest : Text}
    {f : Failure}
    (h : readToken c rest = .error f) :
    Unreadable (c :: rest) := by
  intro c' rest' heq
  cases heq
  exact ⟨f, h⟩

theorem text_ne_nil
    (l : Lexeme) :
    l.text ≠ [] := by
  exact l.kind.ne_nil_of_spelledBy l.spelled

/-- A lexeme that is not prolonged is read as one token. -/
theorem exists_readToken
    (l : Lexeme)
    {r : Text}
    (h : l.kind.StopsAt r) :
    ∃ c rest,
      l.text ++ r = c :: rest ∧
        readToken c rest = .ok { kind := l.kind, spelling := l.text, rest := r } := by
  obtain ⟨c, tail, htext⟩ := List.exists_cons_of_ne_nil l.text_ne_nil
  refine ⟨c, tail ++ r, by simp [htext], ?_⟩
  rw [readToken_eq_ok_iff]
  exact ⟨by simp [htext], l.spelled, h⟩

/-- What reading cuts off makes up the text with what it leaves, meets the
longest-match condition, and is followed by nothing that can be read. -/
theorem cut_spec
    (text : Text) :
    joined (cut text).1 ++ (cut text).2 = text ∧
      LongestMatch (cut text).1 (cut text).2 ∧
      Unreadable (cut text).2 := by
  fun_induction cut text with
  | case1 =>
      exact ⟨rfl, trivial, unreadable_nil⟩
  | case2 c rest r h behind ih =>
      obtain ⟨hjoined, hlongest, hunread⟩ := ih
      have hcovers := (readToken_covers h).1
      have hstops := (spelledBy_and_stopsAt_of_readToken h).2
      refine ⟨?_, ⟨?_, hlongest⟩, hunread⟩
      · rw [joined_cons, List.append_assoc, hjoined, hcovers]
      · rw [hjoined]
        exact hstops
  | case3 c rest f h =>
      exact ⟨rfl, trivial, unreadable_cons h⟩

theorem cut_of_readToken
    {c : Char}
    {rest : Text}
    {l : Lexeme}
    {r : Text}
    (h : readToken c rest = .ok { kind := l.kind, spelling := l.text, rest := r }) :
    cut (c :: rest) = (l :: (cut r).1, (cut r).2) := by
  rw [cut]
  split
  · next r' h' =>
      rw [h] at h'
      cases h'
      rfl
  · next f h' =>
      rw [h] at h'
      cases h'

/-- Lexemes that meet the longest-match condition are the ones that reading cuts
off. -/
theorem cut_append
    {ls : List Lexeme}
    {r : Text}
    (h : LongestMatch ls r) :
    cut (joined ls ++ r) = (ls ++ (cut r).1, (cut r).2) := by
  induction ls with
  | nil =>
      rfl
  | cons l ls ih =>
      obtain ⟨hstops, hlongest⟩ := h
      obtain ⟨c, rest, htext, hread⟩ := l.exists_readToken hstops
      rw [joined_cons, List.append_assoc, htext, cut_of_readToken hread, ih hlongest]
      rfl

end Lexeme

/-! ## The stream of lexemes -/

namespace Stream

theorem ofTextAt_of_readToken
    {c : Char}
    {rest : Text}
    {r : Reading}
    (start : Location)
    (h : readToken c rest = .ok r) :
    ofTextAt start (c :: rest) =
      .ok { kind := r.kind, location := start } ::
        ofTextAt (start.after r.spelling) r.rest := by
  rw [ofTextAt]
  split
  · next r' h' =>
      rw [h] at h'
      cases h'
      rfl
  · next f h' =>
      rw [h] at h'
      cases h'

theorem ofTextAt_of_failure
    {c : Char}
    {rest : Text}
    {f : Failure}
    (start : Location)
    (h : readToken c rest = .error f) :
    ofTextAt start (c :: rest) = [.error (f.toError start)] := by
  rw [ofTextAt]
  split
  · next r h' =>
      rw [h] at h'
      cases h'
  · next f' h' =>
      rw [h] at h'
      cases h'
      rfl

/-- Lexemes that meet the longest-match condition appear in the stream as their
tokens, and the stream of the text behind them follows. -/
theorem ofTextAt_append
    {ls : List Lexeme}
    {r : Text}
    (start : Location)
    (h : Lexeme.LongestMatch ls r) :
    ofTextAt start (Lexeme.joined ls ++ r) =
      (Lexeme.located start ls).map .ok ++
        ofTextAt (start.after (Lexeme.joined ls)) r := by
  induction ls generalizing start with
  | nil =>
      rfl
  | cons l ls ih =>
      obtain ⟨hstops, hlongest⟩ := h
      obtain ⟨c, rest, htext, hread⟩ := l.exists_readToken hstops
      rw [Lexeme.joined_cons, List.append_assoc, htext, ofTextAt_of_readToken start hread,
        ih (start.after l.text) hlongest, Location.after_append]
      rfl

theorem collect_append
    (tokens : List Token)
    (items : List Item) :
    collect (tokens.map .ok ++ items) =
      (collect items).map fun more => tokens ++ more := by
  induction tokens with
  | nil =>
      cases h : collect items <;> simp [h, Except.map]
  | cons t tokens ih =>
      rw [List.map_cons, List.cons_append, collect, ih]
      cases collect items <;> rfl

end Stream

/-! ## Acceptance -/

theorem tokenize_of_longestMatch
    {ls : List Lexeme}
    (h : Lexeme.LongestMatch ls []) :
    tokenize (Lexeme.joined ls) = .ok (Lexeme.located .start ls) := by
  have hstream := Stream.ofTextAt_append .start h
  rw [List.append_nil] at hstream
  rw [tokenize, Stream.ofText, hstream, Stream.collect_append, Stream.ofTextAt]
  simp [Stream.collect, Except.map]

theorem tokenize_of_failure
    {ls : List Lexeme}
    {c : Char}
    {rest : Text}
    {f : Failure}
    (h : Lexeme.LongestMatch ls (c :: rest))
    (hread : readToken c rest = .error f) :
    tokenize (Lexeme.joined ls ++ c :: rest) =
      .error (f.toError (Location.start.after (Lexeme.joined ls))) := by
  rw [tokenize, Stream.ofText, Stream.ofTextAt_append .start h, Stream.collect_append,
    Stream.ofTextAt_of_failure _ hread]
  rfl

/-- Every text is either made up of lexemes, or of lexemes and a rest from which
no token can be read. -/
theorem tokenize_cases
    (text : Text) :
    (∃ ls : List Lexeme,
        text = Lexeme.joined ls ∧
          Lexeme.LongestMatch ls [] ∧
          tokenize text = .ok (Lexeme.located .start ls)) ∨
      ∃ (ls : List Lexeme) (c : Char) (rest : Text) (f : Failure),
        text = Lexeme.joined ls ++ c :: rest ∧
          Lexeme.LongestMatch ls (c :: rest) ∧
          readToken c rest = .error f ∧
          tokenize text = .error (f.toError (Location.start.after (Lexeme.joined ls))) := by
  obtain ⟨hjoined, hlongest, hunread⟩ := Lexeme.cut_spec text
  generalize (Lexeme.cut text).1 = ls at hjoined hlongest
  generalize (Lexeme.cut text).2 = left at hjoined hlongest hunread
  subst hjoined
  cases left with
  | nil =>
      left
      rw [List.append_nil]
      exact ⟨ls, rfl, hlongest, tokenize_of_longestMatch hlongest⟩
  | cons c rest =>
      right
      obtain ⟨f, hf⟩ := hunread c rest rfl
      exact ⟨ls, c, rest, f, rfl, hlongest, hf, tokenize_of_failure hlongest hf⟩

/-- A text is read to its end exactly when it is made up of lexemes that meet the
longest-match condition, and its tokens are theirs. -/
theorem tokenize_eq_ok_iff
    {text : Text}
    {tokens : List Token} :
    tokenize text = .ok tokens ↔
      ∃ ls : List Lexeme,
        text = Lexeme.joined ls ∧
          Lexeme.LongestMatch ls [] ∧
          tokens = Lexeme.located .start ls := by
  constructor
  · intro h
    rcases tokenize_cases text with ⟨ls, htext, hlongest, hok⟩ | ⟨ls, c, rest, f, -, -, -, herror⟩
    · rw [hok] at h
      cases h
      exact ⟨ls, htext, hlongest, rfl⟩
    · rw [herror] at h
      cases h
  · rintro ⟨ls, rfl, hlongest, rfl⟩
    exact tokenize_of_longestMatch hlongest

/-- The tokens of a text that is read to its end are those of its lexemes. -/
theorem Lexeme.ofText_spec
    {text : Text}
    {tokens : List Token}
    (h : tokenize text = .ok tokens) :
    joined (ofText text) = text ∧
      LongestMatch (ofText text) [] ∧
      tokens = located .start (ofText text) := by
  obtain ⟨ls, rfl, hlongest, rfl⟩ := tokenize_eq_ok_iff.1 h
  have hcut := cut_append hlongest
  rw [List.append_nil] at hcut
  have hls : ofText (joined ls) = ls := by
    rw [ofText, hcut, cut, List.append_nil]
  rw [hls]
  exact ⟨rfl, hlongest, rfl⟩

/-- Reading a text fails exactly when it is made up of lexemes that meet the
longest-match condition and a rest from which no token can be read. -/
theorem tokenize_eq_error_iff
    {text : Text}
    {e : LexicalError} :
    tokenize text = .error e ↔
      ∃ (ls : List Lexeme) (c : Char) (rest : Text) (f : Failure),
        text = Lexeme.joined ls ++ c :: rest ∧
          Lexeme.LongestMatch ls (c :: rest) ∧
          readToken c rest = .error f ∧
          e = f.toError (Location.start.after (Lexeme.joined ls)) := by
  constructor
  · intro h
    rcases tokenize_cases text with ⟨ls, -, -, hok⟩ | ⟨ls, c, rest, f, htext, hlongest, hf, herror⟩
    · rw [hok] at h
      cases h
    · rw [herror] at h
      cases h
      exact ⟨ls, c, rest, f, htext, hlongest, hf, rfl⟩
  · rintro ⟨ls, c, rest, f, rfl, hlongest, hf, rfl⟩
    exact tokenize_of_failure hlongest hf

/-- The lexer accepts exactly the longest-match grammar: a text has tokens of
given kinds if and only if it is made up of lexemes of these kinds, none of which
is prolonged by what stands behind it. -/
theorem tokenize_kinds_iff
    (text : Text)
    (kinds : List TokenKind) :
    (∃ tokens, tokenize text = .ok tokens ∧ tokens.map Token.kind = kinds) ↔
      ∃ ls : List Lexeme,
        ls.map Lexeme.kind = kinds ∧
          text = Lexeme.joined ls ∧
          Lexeme.LongestMatch ls [] := by
  constructor
  · rintro ⟨tokens, htokens, hkinds⟩
    obtain ⟨ls, htext, hlongest, rfl⟩ := tokenize_eq_ok_iff.1 htokens
    rw [Lexeme.map_kind_located] at hkinds
    exact ⟨ls, hkinds, htext, hlongest⟩
  · rintro ⟨ls, hkinds, htext, hlongest⟩
    refine ⟨Lexeme.located .start ls, ?_, ?_⟩
    · exact tokenize_eq_ok_iff.2 ⟨ls, htext, hlongest, rfl⟩
    · rw [Lexeme.map_kind_located, hkinds]

end ContractLexer
