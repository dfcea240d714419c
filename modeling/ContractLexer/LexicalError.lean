import ContractLexer.Location
import ContractLexer.Text.Quoted

/-!
# Lexical errors

A lexical error has a cause and a location.  The cause decides the name, the
message and the advice shown to the user; the location is added by whoever
reports the error.
-/

namespace ContractLexer

/-- Why a text cannot be read further. -/
inductive Cause where
  /-- No token starts with the character. -/
  | unexpectedCharacter (found : Char)
  /-- The character starts a symbol, and no symbol is there. -/
  | unexpectedSymbol (found : Char)
  /-- In a string literal a backslash is followed by a character that names no
  escape. -/
  | invalidEscape (found : Char)
  /-- A string literal is not closed. -/
  | unterminatedString
  deriving DecidableEq

namespace Cause

/-- The name of a cause. -/
def label : Cause → Text
  | unexpectedCharacter _ => "UnexpectedCharacter".toList
  | unexpectedSymbol _ => "UnexpectedSymbol".toList
  | invalidEscape _ => "InvalidEscapeSequence".toList
  | unterminatedString => "UnterminatedStringLiteral".toList

/-- The character a cause speaks of. -/
def found? : Cause → Option Char
  | unexpectedCharacter found => some found
  | unexpectedSymbol found => some found
  | invalidEscape found => some found
  | unterminatedString => none

/-- The message shown to the user.  The character of a bad escape is shown as it
is, any other character between apostrophes. -/
def message : Cause → Text
  | unexpectedCharacter found => "unexpected character ".toList ++ Quoted.char found
  | unexpectedSymbol found => "unexpected symbol ".toList ++ Quoted.char found
  | invalidEscape found =>
      "invalid escape sequence `\\".toList ++ [found] ++ "` in string literal".toList
  | unterminatedString => "unterminated string literal".toList

/-- What the user may do about it, where that is plain. -/
def help? : Cause → Option Text
  | unexpectedCharacter _ => none
  | unexpectedSymbol '-' => some "`-` is only valid as part of `->`".toList
  | unexpectedSymbol '/' => some "`/` is only valid as part of `//` comments".toList
  | unexpectedSymbol _ => none
  | invalidEscape _ => some "valid escapes are: \\n, \\t, \\r, \\\", \\\\".toList
  | unterminatedString => some "add closing `\"`".toList

end Cause

/-- A cause and the place it is reported at. -/
structure LexicalError where
  cause : Cause
  location : Location
  deriving DecidableEq

end ContractLexer
