import ContractLexer.LexicalError
import ContractLexer.Token.Basic

/-!
# Log records

A log record says what happened where: a level, the part of the program it comes
from, a message and named values.  It is written on one line.

**Contents.**  The records of the program: a file was opened, a token was read,
reading stopped.
-/

namespace ContractLexer
namespace Log

/-- How much detail a record gives, from the least to the most. -/
inductive Level where
  | error
  | warn
  | info
  | debug
  | trace
  deriving DecidableEq

namespace Level

/-- All levels, from the least detail to the most. -/
def all : List Level :=
  [error, warn, info, debug, trace]

/-- The place of a level in the order of detail. -/
def rank : Level → Nat
  | error => 1
  | warn => 2
  | info => 3
  | debug => 4
  | trace => 5

/-- The name of a level. -/
def label : Level → Text
  | error => "ERROR".toList
  | warn => "WARN".toList
  | info => "INFO".toList
  | debug => "DEBUG".toList
  | trace => "TRACE".toList

/-- The width of the column of levels. -/
def labelWidth : Nat := 5

end Level

/-- A named value of a record. -/
inductive Value where
  | text (t : Text)
  | number (n : Nat)
  deriving DecidableEq

namespace Value

/-- A text is written in double quotes, a number as a decimal numeral. -/
def written : Value → Text
  | text t => Quoted.text t
  | number n => Text.decimal n

end Value

/-- A log record. -/
structure Record where
  level : Level
  /-- The part of the program the record comes from. -/
  target : Text
  message : Text
  values : List (Text × Value)
  deriving DecidableEq

/-- A character of a message as it is written.  Characters that steer a terminal
are shown by their codes. -/
def messageChar (c : Char) : Text :=
  if c ∈ ['\x07', '\x08', '\x0c', '\x1b', '\x7f'] then
    ['\\', 'x'] ++ (if c.toNat < 16 then ['0'] else []) ++ Text.hexadecimal c.toNat
  else if 0x80 ≤ c.toNat ∧ c.toNat ≤ 0x9f then Quoted.codePoint c
  else [c]

namespace Record

/-- The line of a record. -/
def written (r : Record) : Text :=
  List.leftpad Level.labelWidth ' ' r.level.label ++ [' '] ++ r.target ++ ": ".toList ++
    r.message.flatMap messageChar ++
    (r.values.flatMap fun v => [' '] ++ v.1 ++ ['='] ++ v.2.written) ++ ['\n']

/-- A file was read, and its text is about to be listed. -/
def opened (path text : Text) : Record :=
  { level := .debug
    target := "pactc::commands::lex".toList
    message := "lexing file".toList
    values :=
      [("path".toList, .text path),
       ("bytes".toList, .number (Text.byteSize text))] }

/-- The values that tell what was met and where. -/
def placed (label : Text) (location : Location) : List (Text × Value) :=
  [("kind".toList, .text label),
   ("line".toList, .number location.line),
   ("column".toList, .number location.column)]

/-- A token was read. -/
def token (t : Token) : Record :=
  { level := .trace
    target := "pact_lexer::scanner".toList
    message := "token".toList
    values := placed t.kind.label t.location }

/-- No token could be read. -/
def stopped (e : LexicalError) : Record :=
  { level := .debug
    target := "pact_lexer::scanner".toList
    message := "lexing stopped: ".toList ++ e.cause.message
    values := placed e.cause.label e.location }

end Record
end Log
end ContractLexer
