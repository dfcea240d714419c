import ContractLexer.Proofs.LongestMatch
import ContractLexer.Proofs.SessionStream
import Mathlib.Control.Monad.Basic

/-!
# Rejection

A text is rejected with a diagnosis: the part in front of the error can be read
on its own, and the rest has one of five shapes, each of which has its error.

A comment must not end the part in front, because everything up to the next line
feed would belong to it.

**Results.**
* `exists_failure_iff_diagnosis`: no token can be read from a text exactly when
  the text has one of the five shapes.
* `Lexeme.longestMatch_failure_iff`: lexemes in front of such a text meet the
  longest-match condition exactly when they do so on their own and no comment
  ends them.
* `tokenize_eq_error_iff_diagnosis`: the characterisation of rejection, with the
  tokens that a session yields before the error.
-/

namespace ContractLexer

/-- The shapes of a text that stands at `start` and from which no token can be
read, each with its error. -/
inductive Diagnosis (start : Location) : Text → LexicalError → Prop
  | unexpectedCharacter
      {c : Char}
      (hspace : isWhitespace c = false)
      (hstart : c ∉ Symbol.starts)
      (halphabetic : isAlphabetic c = false)
      (hline : c ≠ '_')
      (hdigit : c.isDigit = false)
      (hquote : c ≠ '"')
      (rest : Text) :
      Diagnosis start (c :: rest) { cause := .unexpectedCharacter c, location := start }
  | unexpectedSymbol
      {c : Char}
      {rest : Text}
      (h : c ∈ ['+', '*', '<', '>'] ∨
        (c = '-' ∧ rest.head? ≠ some '>') ∨
        (c = '/' ∧ rest.head? ≠ some '/')) :
      Diagnosis start (c :: rest) { cause := .unexpectedSymbol c, location := start }
  | invalidEscape
      {x : Char}
      {body value : Text}
      (hbody : StringLiteral.Denotes body value)
      (hx : x ∉ ['n', 't', 'r', '"', '\\'])
      (rest : Text) :
      Diagnosis start ('"' :: (body ++ '\\' :: x :: rest))
        { cause := .invalidEscape x
          location := start.after ('"' :: (body ++ ['\\'])) }
  | unterminated
      {body value : Text}
      (hbody : StringLiteral.Denotes body value) :
      Diagnosis start ('"' :: body) { cause := .unterminatedString, location := start }
  | unterminatedEscape
      {body value : Text}
      (hbody : StringLiteral.Denotes body value) :
      Diagnosis start ('"' :: (body ++ ['\\']))
        { cause := .unterminatedString, location := start }

namespace Reading

theorem ofSymbol_eq_error_iff
    {c : Char}
    {rest : Text}
    {f : Failure} :
    ofSymbol c rest = .error f ↔
      Symbol.ofChar? c = none ∧
        ¬ (c = '-' ∧ rest.head? = some '>') ∧
        f = .here (.unexpectedSymbol c) := by
  unfold ofSymbol
  split
  · simp
  · next hno =>
      have hcond : ¬ (c = '-' ∧ rest.head? = some '>') := by
        rintro ⟨hc, hhead⟩
        obtain ⟨behind, hrest⟩ := List.head?_eq_some_iff.1 hhead
        exact hno behind hc hrest
      cases hsym : Symbol.ofChar? c <;> simp [hcond, eq_comm]

theorem ofString_of_badEscape
    {x : Char}
    {body value : Text}
    (hbody : StringLiteral.Denotes body value)
    (hx : x ∉ ['n', 't', 'r', '"', '\\'])
    (rest : Text) :
    ofString (body ++ '\\' :: x :: rest) =
      .error
        { cause := .invalidEscape x
          lead := '"' :: (body ++ ['\\'])
          passed := '"' :: (body ++ ['\\'] ++ [x]) } := by
  have hread :
      StringLiteral.readBody (body ++ '\\' :: x :: rest) =
        .badEscape x (body ++ ['\\']) :=
    StringLiteral.readBody_eq_badEscape_iff.2 ⟨body, value, rest, hbody, hx, rfl, rfl⟩
  rw [ofString, hread]

theorem ofString_of_unclosed
    {text body value : Text}
    (hbody : StringLiteral.Denotes body value)
    (htext : text = body ∨ text = body ++ ['\\']) :
    ofString text =
      .error { cause := .unterminatedString, lead := [], passed := '"' :: text } := by
  have hread : StringLiteral.readBody text = .unclosed :=
    StringLiteral.readBody_eq_unclosed_iff.2 ⟨body, value, hbody, htext⟩
  rw [ofString, hread]

end Reading

/-- The signs that are no symbol where they stand. -/
theorem unexpectedSymbol_iff
    {c : Char}
    {rest : Text} :
    c ∈ Symbol.reserved ∧
        ¬ (c = '-' ∧ rest.head? = some '>') ∧
        ¬ (c = '/' ∧ rest.head? = some '/') ↔
      c ∈ ['+', '*', '<', '>'] ∨
        (c = '-' ∧ rest.head? ≠ some '>') ∨
        (c = '/' ∧ rest.head? ≠ some '/') := by
  simp only [Symbol.reserved, List.mem_cons, List.not_mem_nil, or_false]
  constructor
  · rintro ⟨rfl | rfl | rfl | rfl | rfl | rfl, hminus, hslash⟩ <;> simp_all
  · rintro ((rfl | rfl | rfl | rfl) | ⟨rfl, h⟩ | ⟨rfl, h⟩) <;> simp_all

/-- No token can be read from a text exactly when it has one of the shapes of a
diagnosis. -/
theorem exists_failure_iff_diagnosis
    {start : Location}
    {text : Text}
    {e : LexicalError} :
    (∃ c rest f,
        text = c :: rest ∧ readToken c rest = .error f ∧ e = f.toError start) ↔
      Diagnosis start text e := by
  constructor
  · rintro ⟨c, rest, f, rfl, hread, rfl⟩
    have hrule := rule_readToken c rest
    generalize readToken c rest = result at hrule hread
    cases hrule with
    | whitespace | comment | word | number =>
        cases hread
    | symbol hc hcomment =>
        obtain ⟨hnone, harrow, rfl⟩ := Reading.ofSymbol_eq_error_iff.1 hread
        have hreserved := Symbol.mem_reserved_of_ofChar?_eq_none c hc hnone
        exact .unexpectedSymbol (unexpectedSymbol_iff.1 ⟨hreserved, harrow, hcomment⟩)
    | string =>
        unfold Reading.ofString at hread
        split at hread
        · cases hread
        · next x before hbody =>
            cases hread
            obtain ⟨body, value, behind, hdenotes, hx, rfl, rfl⟩ :=
              StringLiteral.readBody_eq_badEscape_iff.1 hbody
            exact .invalidEscape hdenotes hx behind
        · next hbody =>
            cases hread
            obtain ⟨body, value, hdenotes, rfl | rfl⟩ :=
              StringLiteral.readBody_eq_unclosed_iff.1 hbody
            · exact .unterminated hdenotes
            · exact .unterminatedEscape hdenotes
    | unexpected hspace hstart hword hdigit hquote =>
        cases hread
        simp only [isWordStart, Bool.or_eq_false_iff, beq_eq_false_iff_ne] at hword
        exact .unexpectedCharacter hspace hstart hword.2 hword.1 hdigit hquote rest
  · intro h
    cases h with
    | @unexpectedCharacter c hspace hstart halphabetic hline hdigit hquote rest =>
        have hword : isWordStart c = false := by
          simp [isWordStart, halphabetic, hline]
        have hrule : Rule c rest _ := .unexpected hspace hstart hword hdigit hquote rest
        exact ⟨c, rest, _, rfl, readToken_eq_of_rule hrule, rfl⟩
    | @unexpectedSymbol c rest hsign =>
        obtain ⟨hreserved, harrow, hcomment⟩ := unexpectedSymbol_iff.2 hsign
        have hrule : Rule c rest _ :=
          .symbol (Symbol.mem_starts_of_mem_reserved c hreserved) hcomment
        have hnone := Symbol.ofChar?_eq_none_of_mem_reserved c hreserved
        have hread := (readToken_eq_of_rule hrule).trans
          (Reading.ofSymbol_eq_error_iff.2 ⟨hnone, harrow, rfl⟩)
        exact ⟨c, rest, _, rfl, hread, rfl⟩
    | invalidEscape hbody hx rest =>
        have hread := (readToken_eq_of_rule (.string _)).trans
          (Reading.ofString_of_badEscape hbody hx rest)
        exact ⟨'"', _, _, rfl, hread, rfl⟩
    | unterminated hbody =>
        have hread := (readToken_eq_of_rule (.string _)).trans
          (Reading.ofString_of_unclosed hbody (Or.inl rfl))
        exact ⟨'"', _, _, rfl, hread, rfl⟩
    | unterminatedEscape hbody =>
        have hread := (readToken_eq_of_rule (.string _)).trans
          (Reading.ofString_of_unclosed hbody (Or.inr rfl))
        exact ⟨'"', _, _, rfl, hread, rfl⟩

/-! ## Lexemes in front of an error -/

namespace Text

theorem endsRun_of_append
    {p : Char → Bool}
    {s t : Text}
    (h : EndsRun p (s ++ t)) :
    EndsRun p s := by
  intro c hc
  exact h c (by simp [hc])

theorem endsRun_append
    {p : Char → Bool}
    {s t : Text}
    (hs : EndsRun p s)
    (ht : EndsRun p t) :
    EndsRun p (s ++ t) := by
  cases s with
  | nil =>
      exact ht
  | cons c s =>
      exact hs

theorem endsRun_cons
    {p : Char → Bool}
    {c : Char}
    (h : p c = false)
    (t : Text) :
    EndsRun p (c :: t) := by
  intro c' hc
  cases hc
  exact h

end Text

/-- A character at which reading fails belongs to no run, and is no point. -/
theorem classes_of_failure
    {c : Char}
    {rest : Text}
    {f : Failure}
    (h : readToken c rest = .error f) :
    isWhitespace c = false ∧ isWordPart c = false ∧ c ≠ '.' := by
  have hrule := rule_readToken c rest
  generalize readToken c rest = result at hrule h
  cases hrule with
  | whitespace | comment | word | number =>
      cases h
  | symbol hc =>
      obtain ⟨hnone, -, -⟩ := Reading.ofSymbol_eq_error_iff.1 h
      refine ⟨isWhitespace_eq_false_of_mem_starts c hc,
        isWordPart_eq_false_of_mem_starts c hc, ?_⟩
      rintro rfl
      cases hnone
  | string =>
      decide
  | unexpected hspace hstart hword hdigit hquote =>
      refine ⟨hspace, by simp [isWordPart, hword, hdigit], ?_⟩
      rintro rfl
      exact hstart (by decide)

namespace TokenKind

/-- A text that does not prolong a token does not do so after losing its end. -/
theorem stopsAt_of_append
    {kind : TokenKind}
    {s t : Text}
    (h : kind.StopsAt (s ++ t)) :
    kind.StopsAt s := by
  cases kind with
  | whitespace | keyword | identifier =>
      exact Text.endsRun_of_append h
  | comment text =>
      rw [stopsAt_comment_iff] at h ⊢
      exact Text.endsRun_of_append h
  | symbol | string =>
      trivial
  | number digits =>
      refine ⟨Text.endsRun_of_append h.1, ?_⟩
      rintro hpoint d rest rfl
      exact h.2 hpoint d (rest ++ t) rfl

/-- A text that does not prolong a token does not do so with an error behind it,
unless the token is a comment and the error stands next to it. -/
theorem stopsAt_append_failure
    {kind : TokenKind}
    {s rest : Text}
    {c : Char}
    {f : Failure}
    (h : kind.StopsAt s)
    (hread : readToken c rest = .error f)
    (hcomment : s = [] → ∀ text, kind ≠ .comment text) :
    kind.StopsAt (s ++ c :: rest) := by
  obtain ⟨hspace, hpart, hpoint⟩ := classes_of_failure hread
  have hdigit := isDigit_eq_false_of_isWordPart_eq_false hpart
  cases kind with
  | whitespace =>
      exact Text.endsRun_append h (Text.endsRun_cons hspace rest)
  | keyword | identifier =>
      exact Text.endsRun_append h (Text.endsRun_cons hpart rest)
  | comment text =>
      cases s with
      | nil =>
          exact absurd rfl (hcomment rfl text)
      | cons d s =>
          rcases h with h | h
          · cases h
          · exact Or.inr h
  | symbol | string =>
      trivial
  | number digits =>
      refine ⟨Text.endsRun_append h.1 (Text.endsRun_cons hdigit rest), ?_⟩
      intro hwhole d behind heq
      -- The point and the digit may stand in `s`, across its end, or behind it.
      match s with
      | [] =>
          exact absurd (List.cons.inj heq).1 hpoint
      | [d'] =>
          cases heq
          exact hdigit
      | d' :: d'' :: s =>
          cases heq
          exact h.2 hwhole d s rfl

theorem stopsAt_append_failure_iff
    {kind : TokenKind}
    {s rest : Text}
    {c : Char}
    {f : Failure}
    (hread : readToken c rest = .error f) :
    kind.StopsAt (s ++ c :: rest) ↔
      kind.StopsAt s ∧ (s = [] → ∀ text, kind ≠ .comment text) := by
  constructor
  · intro h
    refine ⟨stopsAt_of_append h, ?_⟩
    rintro rfl text rfl
    -- Behind a comment comes a line feed, which is white space.
    have hline : c = '\n' := by
      rcases h with h | h
      · cases h
      · simpa using h
    have hspace := (classes_of_failure hread).1
    rw [hline] at hspace
    exact absurd hspace (by decide)
  · rintro ⟨h, hcomment⟩
    exact stopsAt_append_failure h hread hcomment

end TokenKind

/-- The last kind of the list is a comment. -/
def EndsInComment (kinds : List TokenKind) : Prop :=
  ∃ text, kinds.getLast? = some (.comment text)

namespace Lexeme

theorem joined_eq_nil_iff
    {ls : List Lexeme} :
    joined ls = [] ↔ ls = [] := by
  cases ls with
  | nil =>
      simp
  | cons l ls =>
      simp [l.text_ne_nil]

/-- Lexemes in front of an error meet the longest-match condition exactly when
they do so on their own and no comment ends them. -/
theorem longestMatch_failure_iff
    {ls : List Lexeme}
    {c : Char}
    {rest : Text}
    {f : Failure}
    (hread : readToken c rest = .error f) :
    LongestMatch ls (c :: rest) ↔
      LongestMatch ls [] ∧ ¬ EndsInComment (ls.map Lexeme.kind) := by
  induction ls with
  | nil =>
      simp [LongestMatch, EndsInComment]
  | cons l ls ih =>
      rw [LongestMatch, LongestMatch, TokenKind.stopsAt_append_failure_iff hread, ih,
        joined_eq_nil_iff, List.append_nil]
      cases ls with
      | nil =>
          simp [LongestMatch, EndsInComment]
      | cons l' ls =>
          simp [LongestMatch, EndsInComment, and_assoc]

end Lexeme

/-! ## The diagnosis of a text -/

/-- The text is rejected with the error `e`: its part `front` has the tokens
`tokens`, which no comment ends, and the part behind it calls for the error. -/
structure RejectedAt
    (text front : Text)
    (tokens : List Token)
    (e : LexicalError) : Prop where
  accepted : tokenize front = .ok tokens
  no_comment : ¬ EndsInComment (tokens.map Token.kind)
  diagnosed :
    ∃ rest, text = front ++ rest ∧ Diagnosis (Location.start.after front) rest e

/-- A rejection, in terms of the lexemes in front of the error. -/
theorem rejectedAt_iff
    {text front : Text}
    {tokens : List Token}
    {e : LexicalError} :
    RejectedAt text front tokens e ↔
      ∃ (ls : List Lexeme) (c : Char) (rest : Text) (f : Failure),
        front = Lexeme.joined ls ∧
          tokens = Lexeme.located .start ls ∧
          text = Lexeme.joined ls ++ c :: rest ∧
          Lexeme.LongestMatch ls (c :: rest) ∧
          readToken c rest = .error f ∧
          e = f.toError (Location.start.after (Lexeme.joined ls)) := by
  constructor
  · rintro ⟨haccepted, hcomment, behind, rfl, hdiagnosis⟩
    obtain ⟨ls, rfl, hlongest, rfl⟩ := tokenize_eq_ok_iff.1 haccepted
    obtain ⟨c, rest, f, rfl, hread, rfl⟩ := exists_failure_iff_diagnosis.2 hdiagnosis
    rw [Lexeme.map_kind_located] at hcomment
    have hmatch := (Lexeme.longestMatch_failure_iff hread).2 ⟨hlongest, hcomment⟩
    exact ⟨ls, c, rest, f, rfl, rfl, rfl, hmatch, hread, rfl⟩
  · rintro ⟨ls, c, rest, f, rfl, rfl, rfl, hmatch, hread, rfl⟩
    obtain ⟨hlongest, hcomment⟩ := (Lexeme.longestMatch_failure_iff hread).1 hmatch
    refine ⟨tokenize_of_longestMatch hlongest, ?_, c :: rest, rfl, ?_⟩
    · rw [Lexeme.map_kind_located]
      exact hcomment
    · exact exists_failure_iff_diagnosis.1 ⟨c, rest, f, rfl, hread, rfl⟩

/-- A text is rejected exactly when a part of it is accepted that no comment ends
and the rest has one of the shapes of a diagnosis.  The session over the text then
yields the tokens of that part and the error of the diagnosis. -/
theorem tokenize_eq_error_iff_diagnosis
    (text : Text)
    (e : LexicalError) :
    (tokenize text = .error e ↔
        ∃ front tokens, RejectedAt text front tokens e) ∧
      ∀ front tokens,
        RejectedAt text front tokens e →
          (Session.ofText text).drain.1 = tokens.map .ok ++ [.error e] := by
  refine ⟨?_, ?_⟩
  · rw [tokenize_eq_error_iff]
    constructor
    · rintro ⟨ls, c, rest, f, htext, hmatch, hread, he⟩
      exact ⟨_, _, rejectedAt_iff.2 ⟨ls, c, rest, f, rfl, rfl, htext, hmatch, hread, he⟩⟩
    · rintro ⟨front, tokens, h⟩
      obtain ⟨ls, c, rest, f, -, -, htext, hmatch, hread, he⟩ := rejectedAt_iff.1 h
      exact ⟨ls, c, rest, f, htext, hmatch, hread, he⟩
  · intro front tokens h
    obtain ⟨ls, c, rest, f, -, rfl, rfl, hmatch, hread, rfl⟩ := rejectedAt_iff.1 h
    rw [Session.drain_ofText, Stream.ofText, Stream.ofTextAt_append .start hmatch,
      Stream.ofTextAt_of_failure _ hread]

theorem tokenize_eq_error_of_badEscape :
    tokenize "x \"b\\q".toList =
        .error { cause := .invalidEscape 'q', location := { line := 1, column := 6 } } ∧
      (Session.ofText "x \"b\\q".toList).drain.1 =
        [.ok { kind := .identifier ['x'], location := { line := 1, column := 1 } },
         .ok { kind := .whitespace [' '], location := { line := 1, column := 2 } },
         .error { cause := .invalidEscape 'q', location := { line := 1, column := 6 } }] := by
  have hbody : StringLiteral.Denotes ['b'] ['b'] :=
    .plain (by decide) (by decide) .nil
  have hrejected :
      RejectedAt "x \"b\\q".toList ['x', ' ']
        [{ kind := .identifier ['x'], location := { line := 1, column := 1 } },
         { kind := .whitespace [' '], location := { line := 1, column := 2 } }]
        { cause := .invalidEscape 'q', location := { line := 1, column := 6 } } := by
    refine ⟨by decide +kernel, ?_, _, rfl, .invalidEscape hbody (by decide) []⟩
    rintro ⟨text, h⟩
    cases h
  obtain ⟨hiff, hdrain⟩ :=
    tokenize_eq_error_iff_diagnosis "x \"b\\q".toList
      { cause := .invalidEscape 'q', location := { line := 1, column := 6 } }
  exact ⟨hiff.2 ⟨_, _, hrejected⟩, hdrain _ _ hrejected⟩

end ContractLexer
