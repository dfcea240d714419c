import ContractLexer.Proofs.LongestMatch
import ContractLexer.Proofs.Positions
import Mathlib.Control.Monad.Basic

/-!
# Rebuilding a text from its tokens

The tokens of a text are written down again, each in its canonical spelling and
with nothing between them.  Only reserved words and string literals may change:
the first in the case of their letters, the second in how control characters are
written.

Nothing separates two tokens, so it has to be shown that no new spelling runs
into its neighbour.  A token looks at most two characters beyond its end, and
these two change only from one letter to another.

**Results.**
* `Lexeme.longestMatch_canonical`: canonical spellings do not run into each other.
* `tokenize_rebuilt`: the text rebuilt from tokens has the same kinds of tokens,
  is rebuilt to itself, and has the same tokens if no string literal holds a raw
  control character.
* `rebuilt_eq_iff`: a text is rebuilt to itself exactly when its reserved words
  are in small letters and its string literals hold no raw control character; it
  never gets shorter.
-/

namespace ContractLexer

theorem TokenKind.spelledBy_canonical
    {kind : TokenKind}
    {text : Text}
    (h : kind.SpelledBy text) :
    kind.SpelledBy kind.canonical := by
  cases kind with
  | whitespace | comment | identifier | number =>
      exact ⟨rfl, h.2⟩
  | symbol | keyword =>
      rfl
  | string value =>
      exact ⟨_, StringLiteral.denotes_canonical value, rfl⟩

namespace Lexeme

/-- The lexeme of the same kind in its canonical spelling. -/
def canonical (l : Lexeme) : Lexeme where
  kind := l.kind
  text := l.kind.canonical
  spelled := TokenKind.spelledBy_canonical l.spelled

theorem joined_map_canonical
    (start : Location)
    (ls : List Lexeme) :
    joined (ls.map canonical) = rebuilt (located start ls) := by
  induction ls generalizing start with
  | nil =>
      rfl
  | cons l ls ih =>
      rw [List.map_cons, joined_cons, ih (start.after l.text)]
      rfl

theorem map_kind_canonical
    (ls : List Lexeme) :
    (ls.map canonical).map Lexeme.kind = ls.map Lexeme.kind := by
  rw [List.map_map]
  rfl

end Lexeme

/-! ## What a token sees of its neighbour -/

namespace Text

/-- The first characters are the same, or both are letters or `_`. -/
def HeadsAlike (s t : Text) : Prop :=
  s.head? = t.head? ∨
    ∃ c d,
      s.head? = some c ∧
        t.head? = some d ∧
        isWordStart c = true ∧
        isWordStart d = true

theorem endsRun_of_headsAlike
    {p : Char → Bool}
    (hp : ∀ c d, isWordStart c = true → isWordStart d = true → p c = p d)
    {s t : Text}
    (halike : HeadsAlike s t)
    (h : EndsRun p s) :
    EndsRun p t := by
  intro d hd
  rcases halike with heq | ⟨c, d', hc, hd', hcstart, hdstart⟩
  · exact h d (heq.trans hd)
  · rw [hd] at hd'
    cases hd'
    rw [← hp c d hcstart hdstart]
    exact h c hc

theorem headsAlike_append
    {s t : Text}
    (hs : s ≠ [])
    (ht : t ≠ [])
    (halike : HeadsAlike s t)
    (s' t' : Text) :
    HeadsAlike (s ++ s') (t ++ t') := by
  obtain ⟨c, s, rfl⟩ := List.exists_cons_of_ne_nil hs
  obtain ⟨d, t, rfl⟩ := List.exists_cons_of_ne_nil ht
  exact halike

end Text

namespace TokenKind

/-- Whether a text prolongs a token is decided by its first character, and by its
second if the first is a point. -/
theorem stopsAt_of_headsAlike
    {kind : TokenKind}
    {s t : Text}
    (halike : Text.HeadsAlike s t)
    (hpoint : ∀ t', t = '.' :: t' → ∃ s', s = '.' :: s' ∧ Text.HeadsAlike s' t')
    (h : kind.StopsAt s) :
    kind.StopsAt t := by
  have hdigit : ∀ c, isWordStart c = true → c.isDigit = false := by
    intro c hc
    rw [Bool.eq_false_iff]
    intro hd
    rw [isWordStart_eq_false_of_isDigit hd] at hc
    cases hc
  cases kind with
  | whitespace =>
      refine Text.endsRun_of_headsAlike ?_ halike h
      intro c d hc hd
      rw [isWhitespace_eq_false_of_isWordStart hc, isWhitespace_eq_false_of_isWordStart hd]
  | keyword | identifier =>
      refine Text.endsRun_of_headsAlike ?_ halike h
      intro c d hc hd
      rw [isWordPart_of_isWordStart hc, isWordPart_of_isWordStart hd]
  | comment text =>
      rw [stopsAt_comment_iff] at h ⊢
      have hline : ∀ c, isWordStart c = true → (c != '\n') = true := by
        intro c hc
        rw [bne_iff_ne]
        rintro rfl
        exact absurd hc (by decide)
      refine Text.endsRun_of_headsAlike ?_ halike h
      intro c d hc hd
      rw [hline c hc, hline d hd]
  | symbol | string =>
      trivial
  | number digits =>
      refine ⟨Text.endsRun_of_headsAlike ?_ halike h.1, ?_⟩
      · intro c d hc hd
        rw [hdigit c hc, hdigit d hd]
      · rintro hwhole d rest rfl
        obtain ⟨s', rfl, heq | ⟨-, d', -, hd', -, hstart⟩⟩ := hpoint _ rfl
        · obtain ⟨rest', rfl⟩ := List.head?_eq_some_iff.1 heq
          exact h.2 hwhole d rest' rfl
        · cases hd'
          exact hdigit d hstart

end TokenKind

namespace Lexeme

/-- A lexeme and its canonical form start alike. -/
theorem headsAlike_canonical
    (l : Lexeme) :
    Text.HeadsAlike l.text l.canonical.text := by
  obtain ⟨kind, text, hspelled⟩ := l
  cases kind with
  | whitespace | comment | identifier | number =>
      obtain ⟨rfl, -⟩ := hspelled
      exact Or.inl rfl
  | symbol =>
      cases hspelled
      exact Or.inl rfl
  | keyword word =>
      right
      obtain ⟨c, rest, rfl, hc, -⟩ := isWord_of_sameUpToCase hspelled
      have hself : Text.SameUpToCase word.spelling word.spelling := rfl
      obtain ⟨d, rest', hspelling, hd, -⟩ := isWord_of_sameUpToCase hself
      refine ⟨c, d, rfl, ?_, hc, hd⟩
      simp [canonical, TokenKind.canonical, TokenKind.value, hspelling]
  | string value =>
      obtain ⟨body, -, rfl⟩ := hspelled
      exact Or.inl rfl

/-- A lexeme that starts with a point is the symbol. -/
theorem kind_eq_dot
    {l : Lexeme}
    {t : Text}
    (h : l.text = '.' :: t) :
    l.kind = .symbol .dot := by
  obtain ⟨kind, text, hspelled⟩ := l
  cases h
  cases kind with
  | whitespace text =>
      obtain ⟨rfl, -, hall⟩ := hspelled
      exact absurd (hall '.' List.mem_cons_self) (by decide)
  | comment text =>
      obtain ⟨rfl, ⟨rest, heq⟩, -⟩ := hspelled
      cases heq
  | symbol sign =>
      cases sign <;> cases hspelled
      rfl
  | keyword word =>
      exact absurd (isAlphabetic_of_sameUpToCase hspelled '.' List.mem_cons_self) (by decide)
  | identifier name =>
      obtain ⟨rfl, hword, -⟩ := hspelled
      exact absurd (isWordPart_of_isWord hword '.' List.mem_cons_self) (by decide)
  | number digits =>
      obtain ⟨rfl, hnumeral⟩ := hspelled
      obtain ⟨c, rest, heq, hc⟩ := exists_digit_of_isNumeral hnumeral
      cases heq
      cases hc
  | string value =>
      obtain ⟨body, -, heq⟩ := hspelled
      cases heq

theorem text_of_dot
    {l : Lexeme}
    (h : l.kind = .symbol .dot) :
    l.text = ['.'] := by
  have hspelled := l.spelled
  rw [h] at hspelled
  exact hspelled

theorem headsAlike_joined
    (ls : List Lexeme)
    (r : Text) :
    Text.HeadsAlike (joined ls ++ r) (joined (ls.map canonical) ++ r) := by
  cases ls with
  | nil =>
      exact Or.inl rfl
  | cons l ls =>
      rw [List.map_cons, joined_cons, joined_cons, List.append_assoc, List.append_assoc]
      exact Text.headsAlike_append l.text_ne_nil l.canonical.text_ne_nil
        l.headsAlike_canonical _ _

theorem point_joined
    (ls : List Lexeme)
    (r : Text)
    {t : Text}
    (h : joined (ls.map canonical) ++ r = '.' :: t) :
    ∃ s, joined ls ++ r = '.' :: s ∧ Text.HeadsAlike s t := by
  cases ls with
  | nil =>
      exact ⟨t, h, Or.inl rfl⟩
  | cons l ls =>
      rw [List.map_cons, joined_cons, List.append_assoc] at h
      obtain ⟨c, rest, htext⟩ := List.exists_cons_of_ne_nil l.canonical.text_ne_nil
      rw [htext] at h
      obtain ⟨rfl, -⟩ := List.cons.inj h
      -- The point is spelled in one way, so the texts agree up to what is behind it.
      have hkind : l.canonical.kind = .symbol .dot := kind_eq_dot htext
      rw [← htext, text_of_dot hkind] at h
      obtain ⟨-, rfl⟩ := List.cons.inj h
      refine ⟨joined ls ++ r, ?_, headsAlike_joined ls r⟩
      have hpoint : l.text = ['.'] := text_of_dot hkind
      rw [joined_cons, hpoint]
      rfl

/-- Canonical spellings do not run into each other. -/
theorem longestMatch_canonical
    {ls : List Lexeme}
    {r : Text}
    (h : LongestMatch ls r) :
    LongestMatch (ls.map canonical) r := by
  induction ls with
  | nil =>
      trivial
  | cons l ls ih =>
      obtain ⟨hstops, hlongest⟩ := h
      refine ⟨?_, ih hlongest⟩
      apply TokenKind.stopsAt_of_headsAlike (headsAlike_joined ls r) _ hstops
      intro t ht
      exact point_joined ls r ht

end Lexeme

/-! ## What a canonical spelling changes -/

theorem toLower_of_isLower
    {c : Char}
    (h : c.isLower = true) :
    c.toLower = c := by
  have hrange : 97 ≤ c.toNat := by
    obtain ⟨hlow, -⟩ := Bool.and_eq_true_iff.1 h
    simpa [UInt32.le_iff_toNat_le] using hlow
  unfold Char.toLower
  split
  · next hcapital =>
      have hupper : c.toNat ≤ 90 := by
        simpa [UInt32.le_iff_toNat_le] using hcapital.2
      omega
  · rfl

namespace Keyword

theorem eq_spelling_iff
    {text : Text}
    {word : Keyword}
    (h : Text.SameUpToCase text word.spelling) :
    word.spelling = text ↔ ∀ c ∈ text, c.isLower = true := by
  constructor
  · rintro rfl
    cases word <;> exact forall_mem_of_all (by decide)
  · intro hsmall
    have hlower : Text.lower text = text := by
      have hmap : text.map Char.toLower = text.map id :=
        List.map_congr_left fun c hc => toLower_of_isLower (hsmall c hc)
      rw [Text.lower, hmap, List.map_id]
    rw [← hlower, h, word.lower_spelling]

theorem length_of_sameUpToCase
    {text : Text}
    {word : Keyword}
    (h : Text.SameUpToCase text word.spelling) :
    text.length = word.spelling.length := by
  have hlength := congrArg List.length h
  simpa [Text.lower] using hlength

theorem lineFeed_not_mem
    {text : Text}
    {word : Keyword}
    (h : Text.SameUpToCase text word.spelling) :
    '\n' ∉ text := by
  intro hmem
  exact absurd (isAlphabetic_of_sameUpToCase h '\n' hmem) (by decide)

end Keyword

namespace TokenKind

/-- The kind is a reserved word. -/
def isKeyword : TokenKind → Bool
  | keyword _ => true
  | _ => false

/-- The kind is a string literal. -/
def isString : TokenKind → Bool
  | string _ => true
  | _ => false

end TokenKind

namespace Lexeme

/-- If the lexeme is a reserved word, it is spelled in small letters. -/
def InSmallLetters (l : Lexeme) : Prop :=
  l.kind.isKeyword = true → ∀ c ∈ l.text, c.isLower = true

instance (l : Lexeme) : Decidable l.InSmallLetters :=
  decidable_of_iff (l.kind.isKeyword = true → l.text.all Char.isLower = true)
    (by simp only [InSmallLetters, List.all_eq_true])

/-- If the lexeme is a string literal, it holds no raw line feed, tabulator or
carriage return. -/
def WithoutRawControls (l : Lexeme) : Prop :=
  l.kind.isString = true → StringLiteral.ControlFree l.text

instance (l : Lexeme) : Decidable l.WithoutRawControls :=
  inferInstanceAs (Decidable (l.kind.isString = true → StringLiteral.ControlFree l.text))

theorem string_text_eq_iff
    {body value : Text}
    (h : StringLiteral.Denotes body value) :
    StringLiteral.spelled value = '"' :: (body ++ ['"']) ↔
      StringLiteral.ControlFree ('"' :: (body ++ ['"'])) := by
  have hquote : StringLiteral.ControlFree ['"'] := by
    decide
  have hsplit : '"' :: (body ++ ['"']) = ['"'] ++ (body ++ ['"']) := rfl
  rw [hsplit, StringLiteral.controlFree_append_iff, StringLiteral.controlFree_append_iff,
    ← StringLiteral.canonical_eq_iff h]
  simp [StringLiteral.spelled, hquote]

/-- A lexeme is in its canonical spelling exactly when it is in small letters, if a
reserved word, and without raw control characters, if a string literal. -/
theorem canonical_text_eq_iff
    (l : Lexeme) :
    l.canonical.text = l.text ↔ l.InSmallLetters ∧ l.WithoutRawControls := by
  obtain ⟨kind, text, hspelled⟩ := l
  simp only [InSmallLetters, WithoutRawControls]
  cases kind with
  | whitespace | comment | identifier | number =>
      obtain ⟨rfl, -⟩ := hspelled
      simp [canonical, TokenKind.canonical, TokenKind.value, TokenKind.isKeyword,
        TokenKind.isString]
  | symbol =>
      cases hspelled
      simp [canonical, TokenKind.canonical, TokenKind.value, TokenKind.isKeyword,
        TokenKind.isString]
  | keyword word =>
      have heq := Keyword.eq_spelling_iff hspelled
      simpa [canonical, TokenKind.canonical, TokenKind.value, TokenKind.isKeyword,
        TokenKind.isString] using heq
  | string value =>
      obtain ⟨body, hdenotes, rfl⟩ := hspelled
      have heq := string_text_eq_iff hdenotes
      simpa [canonical, TokenKind.canonical, TokenKind.isKeyword, TokenKind.isString] using heq

theorem length_le_canonical
    (l : Lexeme) :
    l.text.length ≤ l.canonical.text.length := by
  obtain ⟨kind, text, hspelled⟩ := l
  cases kind with
  | whitespace | comment | identifier | number =>
      obtain ⟨rfl, -⟩ := hspelled
      exact Nat.le_refl _
  | symbol =>
      cases hspelled
      exact Nat.le_refl _
  | keyword word =>
      exact Nat.le_of_eq (Keyword.length_of_sameUpToCase hspelled)
  | string value =>
      obtain ⟨body, hdenotes, rfl⟩ := hspelled
      have hlength := StringLiteral.length_le_canonical hdenotes
      simp only [canonical, TokenKind.canonical, StringLiteral.spelled, List.length_cons,
        List.length_append]
      omega

/-- A reserved word keeps its length, so only raw control characters move what
stands behind a lexeme. -/
theorem after_canonical
    {l : Lexeme}
    (h : l.WithoutRawControls)
    (start : Location) :
    start.after l.canonical.text = start.after l.text := by
  by_cases hkeyword : l.kind.isKeyword = true
  · obtain ⟨kind, text, hspelled⟩ := l
    cases kind with
    | keyword word =>
        have hcanonical : Text.SameUpToCase word.spelling word.spelling := rfl
        change start.after word.spelling = start.after text
        rw [start.after_of_no_lineFeed (Keyword.lineFeed_not_mem hspelled),
          start.after_of_no_lineFeed (Keyword.lineFeed_not_mem hcanonical),
          Keyword.length_of_sameUpToCase hspelled]
    | _ =>
        cases hkeyword
  · have hsmall : l.InSmallLetters := by
      intro hkind
      exact absurd hkind hkeyword
    rw [l.canonical_text_eq_iff.2 ⟨hsmall, h⟩]

theorem located_canonical
    {ls : List Lexeme}
    (h : ∀ l ∈ ls, l.WithoutRawControls)
    (start : Location) :
    located start (ls.map canonical) = located start ls := by
  induction ls generalizing start with
  | nil =>
      rfl
  | cons l ls ih =>
      rw [List.forall_mem_cons] at h
      rw [List.map_cons, located, located, ih h.2, after_canonical h.1]
      rfl

theorem length_joined_le
    (ls : List Lexeme) :
    (joined ls).length ≤ (joined (ls.map canonical)).length := by
  induction ls with
  | nil =>
      exact Nat.le_refl _
  | cons l ls ih =>
      have hl := l.length_le_canonical
      rw [List.map_cons, joined_cons, joined_cons, List.length_append, List.length_append]
      omega

/-- Because no spelling gets shorter, changes of two lexemes cannot make up for
each other. -/
theorem joined_canonical_eq_iff
    {ls : List Lexeme} :
    joined (ls.map canonical) = joined ls ↔
      ∀ l ∈ ls, l.canonical.text = l.text := by
  induction ls with
  | nil =>
      simp
  | cons l ls ih =>
      rw [List.map_cons, joined_cons, joined_cons, List.forall_mem_cons, ← ih]
      constructor
      · intro heq
        have hlength := congrArg List.length heq
        rw [List.length_append, List.length_append] at hlength
        have hl := l.length_le_canonical
        have hls := length_joined_le ls
        exact List.append_inj heq (by omega)
      · rintro ⟨hl, hls⟩
        rw [hl, hls]

end Lexeme

/-! ## Rebuilt texts -/

/-- The text rebuilt from the tokens of a text has tokens of the same kinds, is
rebuilt to itself, and has the very same tokens if no string literal of the text
holds a raw line feed, tabulator or carriage return. -/
theorem tokenize_rebuilt
    {text : Text}
    {tokens : List Token}
    (h : tokenize text = .ok tokens) :
    ∃ tokens',
      tokenize (rebuilt tokens) = .ok tokens' ∧
        tokens'.map Token.kind = tokens.map Token.kind ∧
        rebuilt tokens' = rebuilt tokens ∧
        ((∀ l ∈ Lexeme.ofText text, l.WithoutRawControls) → tokens' = tokens) := by
  obtain ⟨-, hlongest, htokens⟩ := Lexeme.ofText_spec h
  generalize Lexeme.ofText text = ls at hlongest htokens ⊢
  subst htokens
  have hcanonical := Lexeme.longestMatch_canonical hlongest
  refine ⟨Lexeme.located .start (ls.map Lexeme.canonical), ?_, ?_, ?_, ?_⟩
  · rw [← Lexeme.joined_map_canonical]
    exact tokenize_of_longestMatch hcanonical
  · rw [Lexeme.map_kind_located, Lexeme.map_kind_located, Lexeme.map_kind_canonical]
  · rw [← Lexeme.joined_map_canonical, ← Lexeme.joined_map_canonical, List.map_map]
    rfl
  · intro hfree
    exact Lexeme.located_canonical hfree .start

theorem tokenize_rebuilt_capital :
    ∃ tokens,
      tokenize "Def \"\\n\"".toList = .ok tokens ∧
        rebuilt tokens = "def \"\\n\"".toList ∧
        tokenize (rebuilt tokens) = .ok tokens := by
  have h :
      tokenize "Def \"\\n\"".toList =
        .ok
          [{ kind := .keyword .defWord, location := { line := 1, column := 1 } },
           { kind := .whitespace [' '], location := { line := 1, column := 4 } },
           { kind := .string ['\n'], location := { line := 1, column := 5 } }] := by
    decide +kernel
  have hfree : ∀ l ∈ Lexeme.ofText "Def \"\\n\"".toList, l.WithoutRawControls := by
    decide +kernel
  obtain ⟨tokens, hread, -, -, hsame⟩ := tokenize_rebuilt h
  rw [hsame hfree] at hread
  exact ⟨_, h, by decide, hread⟩

/-- A text is cut into its lexemes, one for each token.  It is rebuilt to itself
exactly when each reserved word among them is spelled in small letters and no
string literal among them holds a raw line feed, tabulator or carriage return.
The rebuilt text is never shorter. -/
theorem rebuilt_eq_iff
    {text : Text}
    {tokens : List Token}
    (h : tokenize text = .ok tokens) :
    (text = Lexeme.joined (Lexeme.ofText text) ∧
        tokens = Lexeme.located .start (Lexeme.ofText text)) ∧
      (rebuilt tokens = text ↔
        ∀ l ∈ Lexeme.ofText text, l.InSmallLetters ∧ l.WithoutRawControls) ∧
      text.length ≤ (rebuilt tokens).length := by
  obtain ⟨hjoined, -, htokens⟩ := Lexeme.ofText_spec h
  refine ⟨⟨hjoined.symm, htokens⟩, ?_⟩
  generalize Lexeme.ofText text = ls at hjoined htokens ⊢
  subst hjoined
  subst htokens
  rw [← Lexeme.joined_map_canonical]
  refine ⟨?_, Lexeme.length_joined_le ls⟩
  rw [Lexeme.joined_canonical_eq_iff]
  simp only [Lexeme.canonical_text_eq_iff]

theorem rebuilt_ne_tabulator :
    ∃ tokens,
      tokenize "in\"\t\"".toList = .ok tokens ∧
        rebuilt tokens ≠ "in\"\t\"".toList ∧
        5 ≤ (rebuilt tokens).length := by
  have h :
      tokenize "in\"\t\"".toList =
        .ok
          [{ kind := .keyword .inWord, location := { line := 1, column := 1 } },
           { kind := .string ['\t'], location := { line := 1, column := 3 } }] := by
    decide +kernel
  have hraw :
      ¬ ∀ l ∈ Lexeme.ofText "in\"\t\"".toList, l.InSmallLetters ∧ l.WithoutRawControls := by
    decide +kernel
  obtain ⟨-, heq, hlength⟩ := rebuilt_eq_iff h
  exact ⟨_, h, fun hrebuilt => hraw (heq.1 hrebuilt), hlength⟩

end ContractLexer
