import ContractLexer.Text.Unprintable

/-!
# Quoted texts

A quoted text stands between two equal marks and fits on one line.  Inside it a
few control characters have short escapes, the mark and the backslash are
preceded by a backslash, and every other unprintable character is shown by its
code point, as in `\u{301}`.  The mark is `"` for a text and the apostrophe for
a single character.
-/

namespace ContractLexer
namespace Quoted

/-- The mark around a quoted character. -/
def apostrophe : Char := '\x27'

/-- An unprintable character shown by its code point. -/
def codePoint (c : Char) : Text :=
  ['\\', 'u', '\x7b'] ++ Text.hexadecimal c.toNat ++ ['\x7d']

/-- How one character is written between two marks. -/
def written (mark c : Char) : Text :=
  if c = '\x00' then ['\\', '0']
  else if c = '\t' then ['\\', 't']
  else if c = '\n' then ['\\', 'n']
  else if c = '\r' then ['\\', 'r']
  else if c = '\\' ∨ c = mark then ['\\', c]
  else if isUnprintable c then codePoint c
  else [c]

/-- A text between two marks. -/
def between (mark : Char) (t : Text) : Text :=
  mark :: (t.flatMap (written mark) ++ [mark])

/-- A text in double quotes. -/
def text (t : Text) : Text :=
  between '"' t

/-- A character between apostrophes. -/
def char (c : Char) : Text :=
  between apostrophe [c]

end Quoted
end ContractLexer
