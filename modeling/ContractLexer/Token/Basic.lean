import ContractLexer.Location
import ContractLexer.Text.Quoted
import ContractLexer.Token.Keyword
import ContractLexer.Token.StringLiteral
import ContractLexer.Token.Symbol

/-!
# Tokens

A token is a kind with its payload, and the location of its first character.
White space and comments are tokens too; they are called trivia.

**Contents.**  The kinds, the value of a token, its spelling in a source text,
and the form in which a listing shows it.
-/

namespace ContractLexer

/-- What a token is.  Reserved words and symbols are known by their names alone. -/
inductive TokenKind where
  | keyword (word : Keyword)
  | identifier (name : Text)
  | symbol (sign : Symbol)
  /-- The value is the decoded content, without the quotes. -/
  | string (value : Text)
  | number (digits : Text)
  | whitespace (text : Text)
  /-- The text includes the two slashes and no line feed. -/
  | comment (text : Text)
  deriving DecidableEq

namespace TokenKind

/-- The name of the class a kind belongs to. -/
def label : TokenKind → Text
  | keyword _ => "Keyword".toList
  | identifier _ => "Identifier".toList
  | symbol _ => "Symbol".toList
  | string _ => "String".toList
  | number _ => "Number".toList
  | whitespace _ => "Whitespace".toList
  | comment _ => "Comment".toList

/-- The text a kind stands for: the canonical spelling of a reserved word or a
symbol, the content of a string literal, and the text itself otherwise. -/
def value : TokenKind → Text
  | keyword word => word.spelling
  | identifier name => name
  | symbol sign => sign.glyph
  | string value => value
  | number digits => digits
  | whitespace text => text
  | comment text => text

/-- White space and comments are trivia. -/
def isTrivia : TokenKind → Bool
  | whitespace _ => true
  | comment _ => true
  | _ => false

/-- The canonical spelling of a kind in a source text. -/
def canonical : TokenKind → Text
  | string value => StringLiteral.spelled value
  | kind => kind.value

/-- The form shown in a listing: the class, and the value in double quotes. -/
def shown (kind : TokenKind) : Text :=
  kind.label ++ ['('] ++ Quoted.text kind.value ++ [')']

end TokenKind

/-- A kind of token at the location of its first character. -/
structure Token where
  kind : TokenKind
  location : Location
  deriving DecidableEq

namespace Token

/-- The token is white space or a comment. -/
def isTrivia (t : Token) : Bool :=
  t.kind.isTrivia

/-- The token is the symbol `s`. -/
def isSymbol (t : Token) (s : Symbol) : Bool :=
  decide (t.kind = .symbol s)

end Token
end ContractLexer
