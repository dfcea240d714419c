import ContractLexer.Text.Basic

/-!
# Symbols

The punctuation of the language.  A symbol has one glyph, a text of one
character except for the arrow `->`.

Six further characters are set aside: they may start a symbol, and none of them
alone is one.
-/

namespace ContractLexer

/-- The punctuation symbols. -/
inductive Symbol where
  | atSign
  | colon
  | arrow
  | equal
  | comma
  | dot
  | leftParen
  | rightParen
  | leftBrace
  | rightBrace
  | leftBracket
  | rightBracket
  deriving DecidableEq

namespace Symbol

/-- All symbols. -/
def all : List Symbol :=
  [atSign, colon, arrow, equal, comma, dot, leftParen, rightParen, leftBrace, rightBrace,
   leftBracket, rightBracket]

/-- The text of a symbol. -/
def glyph : Symbol → Text
  | atSign => ['@']
  | colon => [':']
  | arrow => ['-', '>']
  | equal => ['=']
  | comma => [',']
  | dot => ['.']
  | leftParen => ['(']
  | rightParen => [')']
  | leftBrace => ['\x7b']
  | rightBrace => ['\x7d']
  | leftBracket => ['[']
  | rightBracket => [']']

/-- The symbol whose glyph is the single character `c`. -/
def ofChar? (c : Char) : Option Symbol :=
  all.find? fun s => s.glyph == [c]

/-- The characters set aside: each may start a symbol, none alone is one. -/
def reserved : List Char :=
  ['<', '>', '+', '-', '*', '/']

/-- The character starts a symbol or is set aside. -/
def isStart (c : Char) : Bool :=
  (ofChar? c).isSome || reserved.contains c

end Symbol
end ContractLexer
