import ContractLexer.LexicalError
import ContractLexer.Text.Alphabetic
import ContractLexer.Text.Whitespace
import ContractLexer.Token.Basic

/-!
# Reading one token

The rules that cut one token off the front of a text.  They look at the text
alone; where it stands in a source is of no concern to them.

**Rules.**  The first one that applies to the first character is taken.

1. White space: the longest run of white space.
2. Two slashes: a comment, up to the next line feed and without it.
3. The start of a symbol: the symbol, `->` before any other.
4. A letter or `_`: the longest run of letters, `_` and digits, which is a
   reserved word or an identifier.
5. A digit: the longest run of digits, and a fraction if a point and a digit
   follow.
6. A double quote: a string literal.

A character to which no rule applies is an error.

**Results.**
* `readToken_covers`: what is read and what is left make up the text, and
  something is read.
* `readToken_length_rest_lt`: what is left is shorter than the text.
-/

namespace ContractLexer

/-- A token cut off the front of a text. -/
structure Reading where
  kind : TokenKind
  /-- The part of the text that was read. -/
  spelling : Text
  /-- The part of the text behind it. -/
  rest : Text
  deriving DecidableEq

/-- A token that cannot be read. -/
structure Failure where
  cause : Cause
  /-- The text in front of the place where the error is reported. -/
  lead : Text
  /-- The text passed when reading stopped. -/
  passed : Text
  deriving DecidableEq

namespace Failure

/-- A failure at the first character, which is not passed. -/
def here (cause : Cause) : Failure :=
  { cause := cause, lead := [], passed := [] }

/-- The error reported for a failure of a text that stands at `start`. -/
def toError (f : Failure) (start : Location) : LexicalError :=
  { cause := f.cause, location := start.after f.lead }

end Failure

/-- A letter or `_`, which may start a word. -/
def isWordStart (c : Char) : Bool :=
  c == '_' || isAlphabetic c

/-- A letter, `_` or a digit, which may continue a word. -/
def isWordPart (c : Char) : Bool :=
  isWordStart c || c.isDigit

/-- What a whole word is: a reserved word, or else an identifier. -/
def wordKind (word : Text) : TokenKind :=
  match Keyword.ofText? word with
  | some keyword => .keyword keyword
  | none => .identifier word

/-- The number at the front of a text: digits, and a fraction if a point and a
digit follow them.  The result is the number and the text behind it. -/
def splitNumber (text : Text) : Text × Text :=
  let whole := text.takeWhile Char.isDigit
  match text.dropWhile Char.isDigit with
  | '.' :: d :: rest =>
      if d.isDigit then
        (whole ++ '.' :: (d :: rest).takeWhile Char.isDigit, (d :: rest).dropWhile Char.isDigit)
      else (whole, '.' :: d :: rest)
  | rest => (whole, rest)

namespace Reading

/-- The longest run that satisfies `p`, read as one token. -/
def ofRun (p : Char → Bool) (kind : Text → TokenKind) (text : Text) : Reading :=
  { kind := kind (text.takeWhile p)
    spelling := text.takeWhile p
    rest := text.dropWhile p }

/-- The number at the front of a text. -/
def ofNumber (text : Text) : Reading :=
  let parts := splitNumber text
  { kind := .number parts.1, spelling := parts.1, rest := parts.2 }

/-- The symbol that starts with `c`. -/
def ofSymbol (c : Char) (rest : Text) : Except Failure Reading :=
  match c, rest with
  | '-', '>' :: behind =>
      .ok { kind := .symbol .arrow, spelling := ['-', '>'], rest := behind }
  | c, rest =>
      match Symbol.ofChar? c with
      | some symbol => .ok { kind := .symbol symbol, spelling := [c], rest := rest }
      | none => .error (.here (.unexpectedSymbol c))

/-- The string literal whose opening quote stands in front of `text`. -/
def ofString (text : Text) : Except Failure Reading :=
  match StringLiteral.readBody text with
  | .closed value spelling rest =>
      .ok { kind := .string value, spelling := '"' :: spelling, rest := rest }
  | .badEscape found before =>
      .error
        { cause := .invalidEscape found
          lead := '"' :: before
          passed := '"' :: (before ++ [found]) }
  | .unclosed =>
      .error { cause := .unterminatedString, lead := [], passed := '"' :: text }

end Reading

/-- Cut one token off the front of the text `c :: rest`. -/
def readToken (c : Char) (rest : Text) : Except Failure Reading :=
  if isWhitespace c then .ok (.ofRun isWhitespace .whitespace (c :: rest))
  else if c = '/' ∧ rest.head? = some '/' then
    .ok (.ofRun (fun d => d != '\n') .comment (c :: rest))
  else if Symbol.isStart c then Reading.ofSymbol c rest
  else if isWordStart c then .ok (.ofRun isWordPart wordKind (c :: rest))
  else if c.isDigit then .ok (.ofNumber (c :: rest))
  else if c = '"' then Reading.ofString rest
  else .error (.here (.unexpectedCharacter c))

theorem isWordPart_of_isWordStart
    {c : Char}
    (h : isWordStart c = true) :
    isWordPart c = true := by
  simp [isWordPart, h]

/-- A number and what is behind it make up the text. -/
theorem splitNumber_append
    (text : Text) :
    (splitNumber text).1 ++ (splitNumber text).2 = text := by
  have hsplit : text.takeWhile Char.isDigit ++ text.dropWhile Char.isDigit = text :=
    List.takeWhile_append_dropWhile
  unfold splitNumber
  split
  · next d rest hrest =>
      split
      · have hfraction : (d :: rest).takeWhile Char.isDigit ++ (d :: rest).dropWhile Char.isDigit =
            d :: rest :=
          List.takeWhile_append_dropWhile
        rw [hrest] at hsplit
        simpa [hfraction] using hsplit
      · rw [hrest] at hsplit
        exact hsplit
  · exact hsplit

/-- A text that starts with a digit starts with a number. -/
theorem splitNumber_ne_nil
    {c : Char}
    (rest : Text)
    (h : c.isDigit = true) :
    (splitNumber (c :: rest)).1 ≠ [] := by
  unfold splitNumber
  split
  · split <;> simp [h]
  · simp [h]

namespace Reading

/-- A run that starts with `c` covers the front of the text. -/
theorem ofRun_covers
    {p : Char → Bool}
    {c : Char}
    (kind : Text → TokenKind)
    (rest : Text)
    (h : p c = true) :
    (ofRun p kind (c :: rest)).spelling ++ (ofRun p kind (c :: rest)).rest = c :: rest ∧
      (ofRun p kind (c :: rest)).spelling ≠ [] := by
  constructor
  · exact List.takeWhile_append_dropWhile
  · simp [ofRun, h]

/-- A symbol covers the front of the text. -/
theorem ofSymbol_covers
    {c : Char}
    {rest : Text}
    {r : Reading}
    (h : ofSymbol c rest = .ok r) :
    r.spelling ++ r.rest = c :: rest ∧ r.spelling ≠ [] := by
  unfold ofSymbol at h
  split at h
  · cases h
    simp
  · split at h <;> cases h
    simp

/-- A string literal covers the front of the text. -/
theorem ofString_covers
    {rest : Text}
    {r : Reading}
    (h : ofString rest = .ok r) :
    r.spelling ++ r.rest = '"' :: rest ∧ r.spelling ≠ [] := by
  unfold ofString at h
  split at h <;> cases h
  next hbody =>
    simpa using StringLiteral.append_of_readBody_closed hbody

end Reading

/-- What is read and what is left make up the text, and something is read. -/
theorem readToken_covers
    {c : Char}
    {rest : Text}
    {r : Reading}
    (h : readToken c rest = .ok r) :
    r.spelling ++ r.rest = c :: rest ∧ r.spelling ≠ [] := by
  unfold readToken at h
  split at h
  · next hc =>
      cases h
      exact Reading.ofRun_covers _ _ hc
  split at h
  · next hc =>
      cases h
      exact Reading.ofRun_covers _ _ (by simp [hc.1])
  split at h
  · exact Reading.ofSymbol_covers h
  split at h
  · next hc =>
      cases h
      exact Reading.ofRun_covers _ _ (isWordPart_of_isWordStart hc)
  split at h
  · next hc =>
      cases h
      exact ⟨splitNumber_append _, splitNumber_ne_nil _ hc⟩
  split at h
  · next hc =>
      subst hc
      exact Reading.ofString_covers h
  · cases h

/-- What is left is shorter than the text. -/
theorem readToken_length_rest_lt
    {c : Char}
    {rest : Text}
    {r : Reading}
    (h : readToken c rest = .ok r) :
    r.rest.length < (c :: rest).length := by
  obtain ⟨hcover, hne⟩ := readToken_covers h
  rw [← hcover, List.length_append]
  have := List.length_pos_iff.2 hne
  omega

end ContractLexer
