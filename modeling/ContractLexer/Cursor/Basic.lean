import ContractLexer.Location

/-!
# Cursors

A cursor stands in front of a character of a text, or at its end.  It carries
four measures of where it stands: the text still to come, the UTF-8 byte
position, the number of characters passed, and the location.

**Contents.**  Looking at the next two characters, passing one character,
passing a longest run, and cutting a part out of the text by byte positions.
-/

namespace ContractLexer

/-- A place in a text. -/
structure Cursor where
  /-- The whole text. -/
  source : Text
  /-- The text that is still to come. -/
  rest : Text
  /-- Number of bytes passed. -/
  byteOffset : Nat
  /-- Number of characters passed. -/
  charOffset : Nat
  /-- Location of the next character. -/
  location : Location
  deriving DecidableEq

namespace Cursor

/-- The cursor in front of the first character of a text. -/
def ofText (source : Text) : Cursor :=
  { source := source, rest := source, byteOffset := 0, charOffset := 0, location := .start }

/-- The next character. -/
def next? (k : Cursor) : Option Char :=
  k.rest.head?

/-- The character after the next one. -/
def second? (k : Cursor) : Option Char :=
  k.rest.tail.head?

/-- No character is left. -/
def atEnd (k : Cursor) : Bool :=
  k.rest.isEmpty

/-- Pass the next character.  At the end the cursor stays. -/
def advance (k : Cursor) : Cursor :=
  match k.rest with
  | [] => k
  | c :: rest =>
      { k with
        rest := rest
        byteOffset := k.byteOffset + c.utf8Size
        charOffset := k.charOffset + 1
        location := k.location.step c }

@[simp] theorem rest_advance
    (k : Cursor) :
    k.advance.rest = k.rest.tail := by
  unfold advance
  split <;> simp_all

/-- Pass `n` characters, or as many as there are. -/
def forward : Nat → Cursor → Cursor
  | 0, k => k
  | n + 1, k => forward n k.advance

@[simp] theorem rest_forward
    (n : Nat)
    (k : Cursor) :
    (forward n k).rest = k.rest.drop n := by
  induction n generalizing k with
  | zero =>
      rfl
  | succ n ih =>
      simp [forward, ih]

/-- Pass the longest run of characters that satisfy `p`.  The result is the run
and the cursor behind it. -/
def passWhile (p : Char → Bool) (k : Cursor) : Text × Cursor :=
  match _ : k.rest with
  | [] => ([], k)
  | c :: _ =>
      if p c then
        let tail := passWhile p k.advance
        (c :: tail.1, tail.2)
      else ([], k)
  termination_by k.rest.length
  decreasing_by simp_all

/-- Pass the rest of the line, without the line feed that ends it. -/
def passLine (k : Cursor) : Text × Cursor :=
  k.passWhile fun c => c != '\n'

/-- The part of the text between two byte positions.

There is none when the positions are in the wrong order, when the second lies
beyond the end, or when one of them lies inside a character. -/
def cut (k : Cursor) (first last : Nat) : Option Text :=
  if first ≤ last then do
    let (_, behind) ← Text.splitAtByte first k.source
    let (part, _) ← Text.splitAtByte (last - first) behind
    return part
  else none

end Cursor
end ContractLexer
