import ContractLexer.Proofs.Concatenation

/-!
# Printing tokens with trivia between them

Significant tokens are written down in their canonical spelling, with white space and
comments between each two of them.  Reading finds these tokens again, whatever they
hold and whatever trivia keeps them apart.

A separator ends with white space, so that nothing behind it belongs to a comment.
White space behind a separator does run into it, but only to make one longer stretch
of trivia.

**Results.**
* `ReadsAs.token`, `ReadsAs.separator`: what a token or a separator in front of a text
  does to the significant kinds of the text.
* `significantTokens_spaced`: printed tokens are read back.
-/

namespace ContractLexer

/-! ## How lexemes start -/

/-- The text is empty, or starts with white space or a slash. -/
def Text.StartsAsTrivia (t : Text) : Prop :=
  ∀ c, t.head? = some c → isWhitespace c = true ∨ c = '/'

theorem isWordPart_eq_false_of_isWhitespace
    {c : Char}
    (h : isWhitespace c = true) :
    isWordPart c = false := by
  rw [Bool.eq_false_iff]
  intro hpart
  simp only [isWordPart, Bool.or_eq_true] at hpart
  rcases hpart with hstart | hdigit
  · rw [isWhitespace_eq_false_of_isWordStart hstart] at h
    cases h
  · rw [isWhitespace_eq_false_of_isDigit hdigit] at h
    cases h

/-- Trivia prolongs no significant token. -/
theorem TokenKind.stopsAt_of_startsAsTrivia
    {kind : TokenKind}
    {t : Text}
    (hkind : kind.isTrivia = false)
    (ht : t.StartsAsTrivia) :
    kind.StopsAt t := by
  have hpart : Text.EndsRun isWordPart t := by
    intro c hc
    rcases ht c hc with hspace | rfl
    · exact isWordPart_eq_false_of_isWhitespace hspace
    · decide
  cases kind with
  | whitespace | comment =>
      cases hkind
  | keyword | identifier =>
      exact hpart
  | symbol | string =>
      trivial
  | number digits =>
      refine ⟨?_, ?_⟩
      · intro c hc
        exact isDigit_eq_false_of_isWordPart_eq_false (hpart c hc)
      · rintro - d rest rfl
        rcases ht '.' rfl with hspace | hslash
        · exact absurd hspace (by decide)
        · exact absurd hslash (by decide)

namespace Lexeme

/-- A lexeme of trivia starts with white space or a slash. -/
theorem startsAsTrivia
    {l : Lexeme}
    (h : l.kind.isTrivia = true)
    (r : Text) :
    (l.text ++ r).StartsAsTrivia := by
  obtain ⟨kind, text, hspelled⟩ := l
  change (text ++ r).StartsAsTrivia
  intro c hc
  cases kind with
  | whitespace text =>
      obtain ⟨rfl, hne, hall⟩ := hspelled
      obtain ⟨d, rest, rfl⟩ := List.exists_cons_of_ne_nil hne
      cases hc
      exact Or.inl (hall c List.mem_cons_self)
  | comment text =>
      obtain ⟨rfl, ⟨rest, rfl⟩, -⟩ := hspelled
      cases hc
      exact Or.inr rfl
  | symbol | keyword | identifier | number | string =>
      cases h

/-- A lexeme that starts with white space is white space. -/
theorem endsRun_of_not_whitespace
    {l : Lexeme}
    (h : ∀ space, l.kind ≠ .whitespace space) :
    Text.EndsRun isWhitespace l.text := by
  obtain ⟨kind, text, hspelled⟩ := l
  change Text.EndsRun isWhitespace text
  intro c hc
  cases kind with
  | whitespace space =>
      exact absurd rfl (h space)
  | comment text =>
      obtain ⟨rfl, ⟨rest, rfl⟩, -⟩ := hspelled
      cases hc
      decide
  | symbol sign =>
      cases hspelled
      cases sign <;> cases hc <;> decide
  | keyword word =>
      obtain ⟨d, rest, rfl, hd, -⟩ := isWord_of_sameUpToCase hspelled
      cases hc
      exact isWhitespace_eq_false_of_isWordStart hd
  | identifier name =>
      obtain ⟨rfl, ⟨d, rest, rfl, hd, -⟩, -⟩ := hspelled
      cases hc
      exact isWhitespace_eq_false_of_isWordStart hd
  | number digits =>
      obtain ⟨rfl, hnumeral⟩ := hspelled
      obtain ⟨d, rest, rfl, hd⟩ := exists_digit_of_isNumeral hnumeral
      cases hc
      exact isWhitespace_eq_false_of_isDigit hd
  | string value =>
      obtain ⟨body, -, rfl⟩ := hspelled
      cases hc
      decide

theorem exists_whitespace_of_not_endsRun
    {ls : List Lexeme}
    (h : ¬ Text.EndsRun isWhitespace (joined ls)) :
    ∃ l ms, ls = l :: ms ∧ ∃ space, l.kind = .whitespace space := by
  cases ls with
  | nil =>
      exact absurd (fun c hc => by cases hc) h
  | cons l ms =>
      refine ⟨l, ms, rfl, ?_⟩
      by_contra hno
      have hl := endsRun_of_not_whitespace (not_exists.1 hno)
      exact h (Text.endsRun_append_of_ne_nil hl l.text_ne_nil _)

/-- Two stretches of white space, as one. -/
def whitespaceAppend
    (l m : Lexeme)
    {s t : Text}
    (hl : l.kind = .whitespace s)
    (hm : m.kind = .whitespace t) :
    Lexeme where
  kind := .whitespace (s ++ t)
  text := l.text ++ m.text
  spelled := by
    have hls := l.spelled
    have hms := m.spelled
    rw [hl] at hls
    rw [hm] at hms
    obtain ⟨htext, hne, hall⟩ := hls
    obtain ⟨htext', -, hall'⟩ := hms
    refine ⟨by rw [htext, htext'], by simp [hne], ?_⟩
    intro c hc
    rcases List.mem_append.1 hc with hc | hc
    · exact hall c hc
    · exact hall' c hc

/-- White space that ends a list of lexemes and white space that starts another one
run into each other, and nothing else changes. -/
theorem longestMatch_whitespaceAppend
    {ls ms : List Lexeme}
    {l m : Lexeme}
    {s t : Text}
    (hl : l.kind = .whitespace s)
    (hm : m.kind = .whitespace t)
    (hfront : LongestMatch (ls ++ [l]) [])
    (hback : LongestMatch (m :: ms) []) :
    LongestMatch (ls ++ whitespaceAppend l m hl hm :: ms) [] := by
  have hls := (longestMatch_append_iff.1 hfront).1
  rw [List.append_nil, joined_cons, joined_nil, List.append_nil] at hls
  obtain ⟨hstops, hms⟩ := hback
  rw [hm] at hstops
  refine longestMatch_append_iff.2 ⟨?_, hstops, hms⟩
  have hpoint : l.text ≠ ['.'] := by
    intro heq
    have hdot := kind_eq_dot heq
    rw [hl] at hdot
    cases hdot
  rw [List.append_nil, joined_cons]
  change LongestMatch ls (l.text ++ m.text ++ joined ms)
  rw [List.append_assoc]
  exact longestMatch_append hls l.text_ne_nil hpoint _

/-- The kinds of the lexemes that are no trivia. -/
def significantKinds (ls : List Lexeme) : List TokenKind :=
  (ls.map Lexeme.kind).filter fun kind => !kind.isTrivia

theorem significantKinds_append
    (ls ms : List Lexeme) :
    significantKinds (ls ++ ms) = significantKinds ls ++ significantKinds ms := by
  simp [significantKinds]

theorem significantKinds_eq_nil_iff
    {ls : List Lexeme} :
    significantKinds ls = [] ↔ ∀ l ∈ ls, l.kind.isTrivia = true := by
  simp [significantKinds]

end Lexeme

/-! ## The significant kinds of a text -/

/-- The text is read to its end, and `kinds` are the kinds of its significant
lexemes. -/
def ReadsAs (t : Text) (kinds : List TokenKind) : Prop :=
  ∃ ls : List Lexeme,
    t = Lexeme.joined ls ∧
      Lexeme.LongestMatch ls [] ∧
      Lexeme.significantKinds ls = kinds

theorem significantTokens_of_readsAs
    {t : Text}
    {kinds : List TokenKind}
    (h : ReadsAs t kinds) :
    ∃ tokens,
      significantTokens t = .ok tokens ∧ tokens.map Token.kind = kinds := by
  obtain ⟨ls, rfl, hlongest, rfl⟩ := h
  have hstream :
      Stream.ofText (Lexeme.joined ls) = (Lexeme.located .start ls).map .ok := by
    have happend := Stream.ofTextAt_append .start hlongest
    rw [List.append_nil, Stream.ofTextAt, List.append_nil] at happend
    exact happend
  refine ⟨(Lexeme.located .start ls).filter fun t => !t.isTrivia, ?_, ?_⟩
  · have hcollect := Stream.collect_append
      ((Lexeme.located .start ls).filter fun t => !t.isTrivia) []
    rw [List.append_nil] at hcollect
    rw [significantTokens, hstream, List.filter_map]
    exact hcollect.trans (by simp [Stream.collect, Except.map])
  · rw [Lexeme.significantKinds, ← Lexeme.map_kind_located .start ls, List.filter_map]
    rfl

/-- The text is read to its end, and all its tokens are trivia. -/
def IsTriviaText (t : Text) : Prop :=
  ∃ tokens, tokenize t = .ok tokens ∧ ∀ token ∈ tokens, token.isTrivia = true

/-- The text is not empty, and it is trivia of which white space is the last. -/
def IsSeparator (t : Text) : Prop :=
  t ≠ [] ∧
    ∃ tokens,
      tokenize t = .ok tokens ∧
        (∀ token ∈ tokens, token.isTrivia = true) ∧
        ∃ last space, tokens.getLast? = some last ∧ last.kind = .whitespace space

theorem isTriviaText_of_isSeparator
    {t : Text}
    (h : IsSeparator t) :
    IsTriviaText t := by
  obtain ⟨-, tokens, htokens, htrivia, -⟩ := h
  exact ⟨tokens, htokens, htrivia⟩

theorem Lexeme.significantKinds_eq_nil_of_located
    {ls : List Lexeme}
    {start : Location}
    (h : ∀ token ∈ located start ls, token.isTrivia = true) :
    significantKinds ls = [] := by
  rw [significantKinds, ← map_kind_located start, List.filter_map, List.map_eq_nil_iff,
    List.filter_eq_nil_iff]
  intro token htoken
  simpa [Token.isTrivia] using h token htoken

theorem IsTriviaText.readsAs
    {t : Text}
    (h : IsTriviaText t) :
    ReadsAs t [] := by
  obtain ⟨tokens, htokens, htrivia⟩ := h
  obtain ⟨ls, rfl, hlongest, rfl⟩ := tokenize_eq_ok_iff.1 htokens
  exact ⟨ls, rfl, hlongest, Lexeme.significantKinds_eq_nil_of_located htrivia⟩

theorem IsTriviaText.startsAsTrivia
    {t : Text}
    (h : IsTriviaText t) :
    t.StartsAsTrivia := by
  obtain ⟨ls, rfl, -, hkinds⟩ := h.readsAs
  cases ls with
  | nil =>
      intro c hc
      cases hc
  | cons l ls =>
      rw [Lexeme.significantKinds_eq_nil_iff, List.forall_mem_cons] at hkinds
      exact l.startsAsTrivia hkinds.1 _

theorem IsSeparator.startsAsTrivia
    {w : Text}
    (h : IsSeparator w)
    (t : Text) :
    (w ++ t).StartsAsTrivia := by
  have hw := (isTriviaText_of_isSeparator h).startsAsTrivia
  obtain ⟨c, rest, rfl⟩ := List.exists_cons_of_ne_nil h.1
  exact hw

/-! ## One more token, one more separator -/

/-- The kind is significant, and what it holds can be spelled. -/
def TokenKind.Printable : TokenKind → Prop
  | keyword _ => True
  | symbol _ => True
  | string _ => True
  | identifier name =>
      Text.IsWord name ∧ ∀ word : Keyword, ¬ Text.SameUpToCase name word.spelling
  | number digits => Text.IsNumeral digits
  | whitespace _ => False
  | comment _ => False

theorem TokenKind.Printable.spelledBy_canonical
    {kind : TokenKind}
    (h : kind.Printable) :
    kind.isTrivia = false ∧ kind.SpelledBy kind.canonical := by
  cases kind with
  | keyword | symbol =>
      exact ⟨rfl, rfl⟩
  | string value =>
      exact ⟨rfl, _, StringLiteral.denotes_canonical value, rfl⟩
  | identifier | number =>
      exact ⟨rfl, rfl, h⟩
  | whitespace | comment =>
      cases h

namespace ReadsAs

/-- A token in front of a text that does not prolong it. -/
theorem token
    {t : Text}
    {kind : TokenKind}
    {kinds : List TokenKind}
    (h : ReadsAs t kinds)
    (hkind : kind.Printable)
    (ht : t.StartsAsTrivia) :
    ReadsAs (kind.canonical ++ t) (kind :: kinds) := by
  obtain ⟨htrivia, hspelled⟩ := hkind.spelledBy_canonical
  obtain ⟨ls, rfl, hlongest, rfl⟩ := h
  refine ⟨{ kind := kind, text := kind.canonical, spelled := hspelled } :: ls, rfl, ?_, ?_⟩
  · refine ⟨?_, hlongest⟩
    rw [List.append_nil]
    exact TokenKind.stopsAt_of_startsAsTrivia htrivia ht
  · simp [Lexeme.significantKinds, htrivia]

/-- A separator in front of a text.  White space at the start of the text runs into
the white space that ends the separator. -/
theorem separator
    {w t : Text}
    {kinds : List TokenKind}
    (h : ReadsAs t kinds)
    (hw : IsSeparator w) :
    ReadsAs (w ++ t) kinds := by
  obtain ⟨-, tokens, htokens, htrivia, last, s, hlast, hspace⟩ := hw
  obtain ⟨ms, rfl, hmatch, rfl⟩ := tokenize_eq_ok_iff.1 htokens
  have hnone := Lexeme.significantKinds_eq_nil_of_located htrivia
  obtain ⟨ms, m, rfl, hkind⟩ := Lexeme.exists_last_of_located hlast
  rw [hspace] at hkind
  have hpoint : m.kind ≠ .symbol .dot := by
    simp [hkind]
  obtain ⟨ls, rfl, hlongest, rfl⟩ := h
  -- Either the lexemes of both stand side by side, or the last of the separator and the
  -- first behind it become one.
  by_cases hfirst : Text.EndsRun isWhitespace (Lexeme.joined ls)
  · have hstops : m.kind.StopsAt (Lexeme.joined ls) := by
      rw [hkind]
      exact hfirst
    refine ⟨(ms ++ [m]) ++ ls, ?_, ?_, ?_⟩
    · rw [Lexeme.joined_append (ms ++ [m]) ls]
    · rw [Lexeme.longestMatch_append_iff, List.append_nil]
      exact ⟨Lexeme.longestMatch_of_last hmatch hpoint hstops, hlongest⟩
    · rw [Lexeme.significantKinds_append, hnone, List.nil_append]
  · obtain ⟨l, ls, rfl, space, hspace'⟩ := Lexeme.exists_whitespace_of_not_endsRun hfirst
    have hmerged := Lexeme.longestMatch_whitespaceAppend hkind hspace' hmatch hlongest
    refine ⟨ms ++ Lexeme.whitespaceAppend m l hkind hspace' :: ls, ?_, hmerged, ?_⟩
    · simp [Lexeme.whitespaceAppend]
    · rw [Lexeme.significantKinds_append, List.append_eq_nil_iff] at hnone
      rw [Lexeme.significantKinds_append, hnone.1]
      simp [Lexeme.significantKinds, Lexeme.whitespaceAppend, hspace', TokenKind.isTrivia]

end ReadsAs

/-! ## Printed tokens -/

/-- Kinds in their canonical spelling, with a separator between each two of them. -/
def spaced : List TokenKind → List Text → Text
  | [], _ => []
  | kind :: _, [] => kind.canonical
  | kind :: kinds, w :: separators => kind.canonical ++ (w ++ spaced kinds separators)

theorem readsAs_spaced
    {kinds : List TokenKind}
    {separators : List Text}
    {behind : Text}
    (hkinds : ∀ kind ∈ kinds, kind.Printable)
    (hlength : separators.length = kinds.length - 1)
    (hseparators : ∀ w ∈ separators, IsSeparator w)
    (hbehind : IsTriviaText behind) :
    ReadsAs (spaced kinds separators ++ behind) kinds := by
  induction kinds generalizing separators with
  | nil =>
      exact hbehind.readsAs
  | cons kind kinds ih =>
      rw [List.forall_mem_cons] at hkinds
      rw [List.length_cons, Nat.add_sub_cancel] at hlength
      cases separators with
      | nil =>
          have hlast : kinds = [] := List.length_eq_zero_iff.1 hlength.symm
          subst hlast
          exact hbehind.readsAs.token hkinds.1 hbehind.startsAsTrivia
      | cons w separators =>
          rw [List.forall_mem_cons] at hseparators
          rw [List.length_cons] at hlength
          have hrest := ih hkinds.2 (by omega) hseparators.2
          rw [spaced, List.append_assoc, List.append_assoc]
          exact (hrest.separator hseparators.1).token hkinds.1 (hseparators.1.startsAsTrivia _)

/-- Significant tokens are printed in their canonical spelling, with any separators
between them, behind nothing or a separator, and in front of any trivia.  Then their
kinds are read back, and no others. -/
theorem significantTokens_spaced
    {kinds : List TokenKind}
    {separators : List Text}
    {front behind : Text}
    (hkinds : ∀ kind ∈ kinds, kind.Printable)
    (hlength : separators.length = kinds.length - 1)
    (hseparators : ∀ w ∈ separators, IsSeparator w)
    (hfront : front = [] ∨ IsSeparator front)
    (hbehind : IsTriviaText behind) :
    ∃ tokens,
      significantTokens (front ++ spaced kinds separators ++ behind) = .ok tokens ∧
        tokens.map Token.kind = kinds := by
  have hprinted := readsAs_spaced hkinds hlength hseparators hbehind
  apply significantTokens_of_readsAs
  rw [List.append_assoc]
  rcases hfront with rfl | hfront
  · exact hprinted
  · exact hprinted.separator hfront

theorem significantTokens_spaced_comment :
    ∃ tokens,
      significantTokens "\"\\\"//\" //\"\n1.5//".toList = .ok tokens ∧
        tokens.map Token.kind = [.string ['"', '/', '/'], .number "1.5".toList] := by
  have hstring : (TokenKind.string ['"', '/', '/']).Printable := trivial
  have hnumber : (TokenKind.number "1.5".toList).Printable :=
    Or.inr ⟨['1'], ['5'], ⟨by simp, by simp⟩, ⟨by simp, by simp⟩, rfl⟩
  have hseparator : IsSeparator " //\"\n".toList := by
    refine ⟨by decide, ?_⟩
    refine ⟨[{ kind := .whitespace [' '], location := { line := 1, column := 1 } },
      { kind := .comment ['/', '/', '"'], location := { line := 1, column := 2 } },
      { kind := .whitespace ['\n'], location := { line := 1, column := 5 } }], ?_, ?_, ?_⟩
    · decide +kernel
    · simp [Token.isTrivia, TokenKind.isTrivia]
    · exact ⟨_, _, rfl, rfl⟩
  have hbehind : IsTriviaText "//".toList := by
    refine ⟨[{ kind := .comment ['/', '/'], location := { line := 1, column := 1 } }], ?_, ?_⟩
    · decide +kernel
    · simp [Token.isTrivia, TokenKind.isTrivia]
  have hkinds :
      ∀ kind ∈ [TokenKind.string ['"', '/', '/'], .number "1.5".toList], kind.Printable :=
    List.forall_mem_cons.2 ⟨hstring, List.forall_mem_singleton.2 hnumber⟩
  exact significantTokens_spaced hkinds rfl (List.forall_mem_singleton.2 hseparator)
    (Or.inl rfl) hbehind

end ContractLexer
