import ContractLexer.Cursor.Basic

/-!
# Walks

A walk moves one cursor through a text, one action after the other.  It may set
a copy of the cursor aside and go back to the copy later.

**Contents.**  The actions, their answers, and the effect of one action on a
walk.
-/

namespace ContractLexer

/-- What can be asked of a walk. -/
inductive Action where
  /-- Name the next character. -/
  | next
  /-- Name the character after the next one. -/
  | second
  /-- Pass the next character. -/
  | pass
  /-- Pass the longest run of characters that satisfy `p`. -/
  | passWhile (p : Char → Bool)
  /-- Pass the rest of the line. -/
  | passLine
  /-- Cut out the text between two byte positions. -/
  | cut (first last : Nat)
  /-- Set a copy of the cursor aside. -/
  | save
  /-- Go back to the copy. -/
  | restore
  /-- Cut out the text between the copy and the cursor. -/
  | cutSaved

/-- What an action answers. -/
inductive Answer where
  | char (c : Option Char)
  | text (t : Text)
  /-- A part that was cut out, if there is one. -/
  | part (t : Option Text)
  | nothing
  deriving DecidableEq

/-- A cursor and the copy of it that was set aside last. -/
structure Walk where
  cursor : Cursor
  saved : Cursor
  deriving DecidableEq

namespace Walk

/-- The walk that starts in front of a text, where its first copy stands too. -/
def ofText (source : Text) : Walk :=
  { cursor := .ofText source, saved := .ofText source }

/-- The answer to an action, and the walk after it. -/
def perform (w : Walk) : Action → Answer × Walk
  | .next => (.char w.cursor.next?, w)
  | .second => (.char w.cursor.second?, w)
  | .pass => (.char w.cursor.next?, { w with cursor := w.cursor.advance })
  | .passWhile p =>
      let passed := w.cursor.passWhile p
      (.text passed.1, { w with cursor := passed.2 })
  | .passLine =>
      let passed := w.cursor.passLine
      (.text passed.1, { w with cursor := passed.2 })
  | .cut first last => (.part (w.cursor.cut first last), w)
  | .save => (.nothing, { w with saved := w.cursor })
  | .restore => (.nothing, { w with cursor := w.saved })
  | .cutSaved => (.part (w.cursor.cut w.saved.byteOffset w.cursor.byteOffset), w)

/-- The answers to a list of actions, each with the walk after it. -/
def run (w : Walk) : List Action → List (Answer × Walk)
  | [] => []
  | action :: rest =>
      let step := w.perform action
      step :: step.2.run rest

end Walk
end ContractLexer
