import ContractLexer.Guarded.Cursor
import ContractLexer.Reading

/-!
# Guarded reading of one token

The rules of reading, taken by a guarded cursor character by character.  Each rule names
the location before it passes anything, and leaves the cursor behind what it has passed.

**Contents.**  The search for a reserved word by its bytes, one function for each rule, and
the choice between the rules.
-/

namespace ContractLexer
namespace Guarded

/-- What reading gives: a token or the error, and the cursor behind it. -/
abbrev Outcome := Except LexicalError Token × Cursor

/-- The byte at a position. -/
def byteAt (bytes : List UInt8) (i : Nat) : Except Fault UInt8 :=
  match bytes[i]? with
  | some b => .ok b
  | none => .error .badIndex

/-- The reserved word that `word` spells, up to the case of ASCII letters.  The first byte
is looked at only in a word of two to eight bytes. -/
def keyword? (word : Text) : Except Fault (Option Keyword) := do
  let size := word.bytes.length
  if 2 ≤ size ∧ size ≤ 8 then
    let first ← byteAt word.bytes 0
    if isLetterByte first then
      return (Keyword.candidate? size first).filter fun k =>
        word.bytes.map lowerByte == k.spelling.bytes.map lowerByte
    else return none
  else return none

namespace Cursor

/-- A run of characters that satisfy `p`. -/
def readRun (p : Char → Bool) (kind : Text → TokenKind) (k : Cursor) : Except Fault Outcome := do
  let (text, behind) ← k.passWhile p
  return (.ok { kind := kind text, location := k.location }, behind)

/-- A word, which is a reserved word or an identifier. -/
def readWord (k : Cursor) : Except Fault Outcome := do
  let (word, behind) ← k.passWhile isWordPart
  match ← keyword? word with
  | some keyword => return (.ok { kind := .keyword keyword, location := k.location }, behind)
  | none => return (.ok { kind := .identifier word, location := k.location }, behind)

/-- The next character `c` is `first`, and `second` follows it.  The second character is
looked at only if the first one fits. -/
def startsPair (k : Cursor) (c first second : Char) : Except Fault Bool := do
  if c = first then
    let found ← k.second?
    return found == some second
  else return false

/-- The symbol that starts with `c`. -/
def readSymbol (c : Char) (k : Cursor) : Except Fault Outcome := do
  if ← k.startsPair c '-' '>' then
    let (_, dash) ← k.advance
    let (_, behind) ← dash.advance
    return (.ok { kind := .symbol .arrow, location := k.location }, behind)
  else
    match Symbol.ofChar? c with
    | some symbol =>
        let (_, behind) ← k.advance
        return (.ok { kind := .symbol symbol, location := k.location }, behind)
    | none => return (.error { cause := .unexpectedSymbol c, location := k.location }, k)

/-- The cursor behind a point and the digits that follow it.  If there is no point, or no
digit behind it, the cursor stays. -/
def skipFraction (k : Cursor) : Except Fault Cursor := do
  match ← k.next? with
  | some '.' =>
      match ← k.second? with
      | some d =>
          if d.isDigit then
            let (_, point) ← k.advance
            let (_, behind) ← point.passWhile Char.isDigit
            return behind
          else return k
      | none => return k
  | _ => return k

/-- A number, cut out of the text from its first digit to its last. -/
def readNumber (k : Cursor) : Except Fault Outcome := do
  let (_, whole) ← k.passWhile Char.isDigit
  let behind ← whole.skipFraction
  let digits ← behind.cut k.position behind.position
  return (.ok { kind := .number digits, location := k.location }, behind)

/-- The rest of a string literal that opened at `start`, when `value` has been read of its
content. -/
def readBody (start : Location) (value : Text) (k : Cursor) : Except Fault Outcome := do
  match ← k.next? with
  | none => return (.error { cause := .unterminatedString, location := start }, k)
  | some '"' =>
      let (_, behind) ← k.advance
      return (.ok { kind := .string value, location := start }, behind)
  | some '\\' =>
      let (_, escape) ← k.advance
      match ← escape.advance with
      | (none, behind) =>
          return (.error { cause := .unterminatedString, location := start }, behind)
      | (some e, behind) =>
          match StringLiteral.unescape e with
          | some c =>
              if _h : behind.left < k.left then readBody start (value ++ [c]) behind
              else throw .stall
          | none =>
              return (.error { cause := .invalidEscape e, location := escape.location }, behind)
  | some c =>
      let (_, behind) ← k.advance
      if _h : behind.left < k.left then readBody start (value ++ [c]) behind
      else throw .stall
  termination_by k.left

/-- A string literal. -/
def readString (k : Cursor) : Except Fault Outcome := do
  let (_, body) ← k.advance
  body.readBody k.location []

/-- The token that starts with the next character `c`. -/
def readToken (c : Char) (k : Cursor) : Except Fault Outcome := do
  if isWhitespace c then k.readRun isWhitespace .whitespace
  else if ← k.startsPair c '/' '/' then k.readRun (fun d => d != '\n') .comment
  else if Symbol.isStart c then k.readSymbol c
  else if isWordStart c then k.readWord
  else if c.isDigit then k.readNumber
  else if c = '"' then k.readString
  else return (.error { cause := .unexpectedCharacter c, location := k.location }, k)

end Cursor
end Guarded
end ContractLexer
