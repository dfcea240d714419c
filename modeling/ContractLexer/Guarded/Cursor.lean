import ContractLexer.Cursor.Basic

/-!
# Guarded cursors

A cursor as a machine keeps it.  It does not carry the text that is still to come, but
cuts it out of the whole text by byte positions whenever it looks at it; and its counters
have a limited width, thirty-two bits for lines and columns and sixty-four bits for
positions and numbers of characters.

So a step may fail.  Here every step that may fail says so, instead of being taken to
succeed.  Storage alone is taken to suffice.

**Contents.**  What a step may fail at, sums that are checked, and the steps of a cursor:
looking at the next two characters, passing one character, and passing a longest run.
-/

namespace ContractLexer
namespace Guarded

/-- What a step may fail at. -/
inductive Fault where
  /-- A number does not fit the width of its counter. -/
  | overflow
  /-- The ends of a part stand in the wrong order, beyond the text or inside a character. -/
  | badCut
  /-- There is no byte at a position. -/
  | badIndex
  /-- A round of a loop does not bring the end nearer. -/
  | stall
  deriving DecidableEq

/-- The first number that is too large for a line or a column. -/
def lineLimit : Nat :=
  UInt32.size

/-- The first number that is too large for a position or a number of characters. -/
def sizeLimit : Nat :=
  UInt64.size

/-- The sum of two numbers, if it is not too large. -/
def add (limit a b : Nat) : Except Fault Nat :=
  if a + b < limit then .ok (a + b) else .error .overflow

/-- A place in a text, by the counters alone. -/
structure Cursor where
  /-- The whole text. -/
  source : Text
  /-- Number of bytes passed. -/
  position : Nat
  /-- Number of characters passed. -/
  offset : Nat
  line : Nat
  column : Nat
  deriving DecidableEq

namespace Cursor

/-- The cursor in front of the first character of a text. -/
def ofText (source : Text) : Cursor :=
  { source := source, position := 0, offset := 0, line := 1, column := 1 }

/-- The location of the next character. -/
def location (k : Cursor) : Location :=
  { line := k.line, column := k.column }

/-- The part of the text between two byte positions. -/
def cut (k : Cursor) (first last : Nat) : Except Fault Text :=
  match (ContractLexer.Cursor.ofText k.source).cut first last with
  | some part => .ok part
  | none => .error .badCut

/-- The text that is still to come. -/
def rest (k : Cursor) : Except Fault Text :=
  k.cut k.position k.source.byteSize

/-- The next character. -/
def next? (k : Cursor) : Except Fault (Option Char) := do
  let text ← k.rest
  return text.head?

/-- The character after the next one. -/
def second? (k : Cursor) : Except Fault (Option Char) := do
  let text ← k.rest
  return text.tail.head?

/-- Pass the next character, which is the result beside the cursor behind it.  At the end
the cursor stays. -/
def advance (k : Cursor) : Except Fault (Option Char × Cursor) := do
  match ← k.next? with
  | none => return (none, k)
  | some c =>
      let position ← add sizeLimit k.position c.utf8Size
      let offset ← add sizeLimit k.offset 1
      if c = '\n' then
        let line ← add lineLimit k.line 1
        return (some c,
          { k with position := position, offset := offset, line := line, column := 1 })
      else
        let column ← add lineLimit k.column 1
        return (some c, { k with position := position, offset := offset, column := column })

/-- Number of bytes that are left. -/
def left (k : Cursor) : Nat :=
  k.source.byteSize - k.position

/-- The cursor behind the longest run of characters that satisfy `p`. -/
def skipWhile (p : Char → Bool) (k : Cursor) : Except Fault Cursor := do
  match ← k.next? with
  | none => return k
  | some c =>
      if p c then
        let (_, behind) ← k.advance
        if _h : behind.left < k.left then skipWhile p behind
        else throw .stall
      else return k
  termination_by k.left

/-- Pass the longest run of characters that satisfy `p`.  The result is the run, cut out
of the text, and the cursor behind it. -/
def passWhile (p : Char → Bool) (k : Cursor) : Except Fault (Text × Cursor) := do
  let behind ← k.skipWhile p
  let run ← behind.cut k.position behind.position
  return (run, behind)

end Cursor
end Guarded
end ContractLexer
