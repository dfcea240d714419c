import ContractLexer.Guarded.Reading
import ContractLexer.Listing.Basic
import ContractLexer.Session

/-!
# Guarded sessions and listings

A session that is driven by a guarded cursor, and the listing that is written while such
a session is asked for one token after the other.  The loops count down a number of
bytes; a round that does not is a fault.

**Contents.**  The calls on a session, and the listing of a text.
-/

namespace ContractLexer
namespace Guarded

/-- A place in a text, and the error that ended the reading. -/
structure Session where
  cursor : Cursor
  failed : Option LexicalError
  deriving DecidableEq

namespace Session

/-- The session in front of a text. -/
def ofText (source : Text) : Session :=
  { cursor := .ofText source, failed := none }

/-- Read the next token. -/
def read (s : Session) : Except Fault (Except LexicalError (Option Token) × Session) := do
  match s.failed with
  | some e => return (.error e, s)
  | none =>
      match ← s.cursor.next? with
      | none => return (.ok none, s)
      | some c =>
          match ← s.cursor.readToken c with
          | (.ok t, behind) => return (.ok (some t), { s with cursor := behind })
          | (.error e, behind) => return (.error e, { cursor := behind, failed := some e })

/-- Yield the next item of the stream. -/
def pull (s : Session) : Except Fault (Option Item × Session) := do
  match s.failed with
  | some _ => return (none, s)
  | none =>
      match ← s.read with
      | (.ok (some t), behind) => return (some (.ok t), behind)
      | (.ok none, behind) => return (none, behind)
      | (.error e, behind) => return (some (.error e), behind)

/-- A bound on the number of items that are still to come. -/
def remaining (s : Session) : Nat :=
  match s.failed with
  | some _ => 0
  | none => s.cursor.left + 1

/-- Yield all items that are still to come. -/
def drain (s : Session) : Except Fault (List Item × Session) := do
  match ← s.pull with
  | (none, behind) => return ([], behind)
  | (some item, behind) =>
      if _h : behind.remaining < s.remaining then
        let (items, last) ← behind.drain
        return (item :: items, last)
      else throw .stall
  termination_by s.remaining

/-- The reply to a call, and the session after it. -/
def perform (s : Session) : Call → Except Fault (Reply × Session)
  | .read => do
      let (result, behind) ← s.read
      return (.token result, behind)
  | .pull => do
      let (item, behind) ← s.pull
      return (.item item, behind)
  | .count => do
      let (items, behind) ← s.drain
      return (.number items.length, behind)
  | .look => return (.nothing, s)

/-- The replies to a list of calls, each with the session after it. -/
def run (s : Session) : List Call → Except Fault (List (Reply × Session))
  | [] => return []
  | call :: calls => do
      let step ← s.perform call
      let steps ← step.2.run calls
      return step :: steps

end Session

namespace Listing

/-- The first number of bytes that is too large for one text in storage. -/
def storageLimit : Nat :=
  sizeLimit / 2

/-- As many spaces as `n` says. -/
def spaces (n : Nat) : Except Fault Text :=
  if n < storageLimit then .ok (List.replicate n ' ') else .error .overflow

/-- The product of two numbers, or the largest number if that is too large. -/
def boundedProduct (a b : Nat) : Nat :=
  min (a * b) (sizeLimit - 1)

/-- The depth after a token that is shown at `depth`. -/
def openAfter (depth : Nat) (t : Token) : Except Fault Nat :=
  if t.isSymbol .leftBrace then add sizeLimit depth 1 else .ok depth

/-- The listing of what a session has still to give, when `depth` braces are open. -/
def ofSession
    (o : ContractLexer.Listing.Options)
    (depth : Nat)
    (s : Session) :
    Except Fault (Except LexicalError Text) := do
  match ← s.pull with
  | (none, _) => return .ok []
  | (some (.error e), _) => return .error e
  | (some (.ok t), behind) =>
      if _h : behind.remaining < s.remaining then
        if t.isTrivia && !o.trivia then ofSession o depth behind
        else
          let shown := ContractLexer.Listing.shownAt depth t
          let margin ← spaces (boundedProduct shown o.indentWidth)
          let opened ← openAfter shown t
          let below ← ofSession o opened behind
          return below.map fun lines =>
            margin ++ t.kind.shown ++
              (if o.locations then " @ ".toList ++ t.location.written else []) ++ ['\n'] ++ lines
      else throw .stall
  termination_by s.remaining

/-- The listing of a text. -/
def ofText
    (o : ContractLexer.Listing.Options)
    (text : Text) :
    Except Fault (Except LexicalError Text) :=
  ofSession o 0 (.ofText text)

end Listing
end Guarded
end ContractLexer
