/-!
# Texts

A text is a finite sequence of Unicode scalar values.  Everything the lexer
reads, stores and prints is such a sequence, so that the rules can be stated by
recursion on it.

**Contents.**  The UTF-8 form of a text and its size in bytes, cutting a text at a
byte position, decimal and hexadecimal numerals, and the small form of a text with
respect to the ASCII capital letters.
-/

namespace ContractLexer

/-- A text: a sequence of Unicode scalar values. -/
abbrev Text := List Char

namespace Text

/-- Number of bytes in the UTF-8 form of a text. -/
def byteSize : Text → Nat
  | [] => 0
  | c :: t => c.utf8Size + byteSize t

@[simp] theorem byteSize_nil :
    byteSize [] = 0 := by
  rfl

@[simp] theorem byteSize_cons
    (c : Char)
    (t : Text) :
    byteSize (c :: t) = c.utf8Size + byteSize t := by
  rfl

@[simp] theorem byteSize_append
    (s t : Text) :
    byteSize (s ++ t) = byteSize s + byteSize t := by
  induction s with
  | nil =>
      simp
  | cons c s ih =>
      simp [ih, Nat.add_assoc]

/-- The UTF-8 form of a text. -/
def bytes (t : Text) : List UInt8 :=
  t.flatMap String.utf8EncodeChar

@[simp] theorem bytes_cons
    (c : Char)
    (t : Text) :
    bytes (c :: t) = String.utf8EncodeChar c ++ bytes t := by
  rfl

/-- Cut a text at byte position `n` of its UTF-8 form.

There is no result when `n` lies beyond the end or inside a character. -/
def splitAtByte : Nat → Text → Option (Text × Text)
  | 0, t => some ([], t)
  | _ + 1, [] => none
  | n + 1, c :: t =>
      if c.utf8Size ≤ n + 1 then
        (splitAtByte (n + 1 - c.utf8Size) t).map fun parts =>
          (c :: parts.1, parts.2)
      else none

/-- The decimal numeral of a number, without leading zeros. -/
def decimal (n : Nat) : Text :=
  Nat.toDigits 10 n

/-- The hexadecimal numeral of a number in small letters, without leading zeros. -/
def hexadecimal (n : Nat) : Text :=
  Nat.toDigits 16 n

/-- The text with every ASCII capital letter made small.  No other character
changes. -/
def lower (t : Text) : Text :=
  t.map Char.toLower

end Text
end ContractLexer
