import ContractLexer.Text.Basic

/-!
# Reserved words

The language reserves five words.  A word of a source text is reserved when it
agrees with one of them up to the case of ASCII letters.

Whether it does is settled by one comparison.  The number of bytes and the first
byte of the word leave one reserved word at most that it can be.
-/

namespace ContractLexer

/-- The byte is the code of an ASCII letter. -/
def isLetterByte (b : UInt8) : Bool :=
  (decide (0x41 ≤ b) && decide (b ≤ 0x5a)) || (decide (0x61 ≤ b) && decide (b ≤ 0x7a))

/-- The code of the small letter for the code of an ASCII capital letter, and any
other byte as it is. -/
def lowerByte (b : UInt8) : UInt8 :=
  if 0x41 ≤ b ∧ b ≤ 0x5a then b + 0x20 else b

/-- The reserved words. -/
inductive Keyword where
  | defWord
  | contractWord
  | selfWord
  | forWord
  | inWord
  deriving DecidableEq

namespace Keyword

/-- All reserved words. -/
def all : List Keyword :=
  [defWord, contractWord, selfWord, forWord, inWord]

/-- The spelling of a reserved word, in small letters. -/
def spelling : Keyword → Text
  | defWord => "def".toList
  | contractWord => "contract".toList
  | selfWord => "self".toList
  | forWord => "for".toList
  | inWord => "in".toList

/-- The reserved word that a word of `size` bytes with the first byte `first` can
be.  Two reserved words have three bytes; the first one tells them apart. -/
def candidate? (size : Nat) (first : UInt8) : Option Keyword :=
  match size with
  | 2 => some inWord
  | 3 =>
      if lowerByte first = 0x64 then some defWord
      else if lowerByte first = 0x66 then some forWord
      else none
  | 4 => some selfWord
  | 8 => some contractWord
  | _ => none

/-- The reserved word that `word` spells, up to the case of ASCII letters. -/
def ofText? (word : Text) : Option Keyword :=
  match word.bytes with
  | [] => none
  | first :: rest =>
      if isLetterByte first then
        (candidate? (first :: rest).length first).filter fun k =>
          (first :: rest).map lowerByte == k.spelling.bytes.map lowerByte
      else none

end Keyword
end ContractLexer
