import ContractLexer.Cursor.Basic
import ContractLexer.Program
import ContractLexer.Stream

/-!
# Sessions

A session reads one text token by token.  It stands behind the last token, and
once a token could not be read it keeps the error and moves no more.

There are two ways to ask for the next token.  They share the place in the text
and differ at the end: asking by `read` repeats the error for ever, asking
by `pull` yields it once and then nothing.  Either way a token that is read is
logged, and so is the error, when it is met and not when it is repeated.

**Contents.**  The session, the calls on it and their replies, and the items
that `pull` still yields.
-/

namespace ContractLexer

/-- A place in a text, and the error that ended the reading. -/
structure Session where
  cursor : Cursor
  failed : Option LexicalError
  deriving DecidableEq

namespace Session

/-- The session in front of a text. -/
def ofText (source : Text) : Session :=
  { cursor := .ofText source, failed := none }

/-- The location of the next character. -/
def location (s : Session) : Location :=
  s.cursor.location

/-- The whole text has been passed. -/
def atEnd (s : Session) : Bool :=
  s.cursor.atEnd

/-- Read the next token, and log what was read.  At the end of the text there is
none; after an error the same error is reported again, and nothing is logged. -/
def readLogged (s : Session) : Program (Except LexicalError (Option Token) × Session) :=
  match s.failed with
  | some e => return (.error e, s)
  | none =>
      match s.cursor.rest with
      | [] => return (.ok none, s)
      | c :: rest =>
          match readToken c rest with
          | .ok r => do
              let t : Token := { kind := r.kind, location := s.location }
              Program.log (.token t)
              return (.ok (some t), { s with cursor := s.cursor.forward r.spelling.length })
          | .error f => do
              let e := f.toError s.location
              Program.log (.stopped e)
              return (.error e,
                { cursor := s.cursor.forward f.passed.length, failed := some e })

/-- Yield the next item of the stream, and log it.  After an error there is none. -/
def pullLogged (s : Session) : Program (Option Item × Session) :=
  match s.failed with
  | some _ => return (none, s)
  | none => do
      match ← s.readLogged with
      | (.ok (some t), behind) => return (some (.ok t), behind)
      | (.ok none, behind) => return (none, behind)
      | (.error e, behind) => return (some (.error e), behind)

/-- Read the next token in silence. -/
def read (s : Session) : Except LexicalError (Option Token) × Session :=
  (s.readLogged none).1

/-- Yield the next item of the stream in silence. -/
def pull (s : Session) : Option Item × Session :=
  (s.pullLogged none).1

/-- A bound on the number of items that are still to come. -/
def remaining (s : Session) : Nat :=
  match s.failed with
  | some _ => 0
  | none => s.cursor.rest.length + 1

/-- Yielding an item brings the end nearer. -/
theorem remaining_pullLogged_lt
    {s behind : Session}
    {item : Item}
    {filter : Option Log.Filter}
    (h : (s.pullLogged filter).1 = (some item, behind)) :
    behind.remaining < s.remaining := by
  obtain ⟨cursor, failed⟩ := s
  cases failed with
  | some e =>
      cases h
  | none =>
      cases hrest : cursor.rest with
      | nil =>
          simp [pullLogged, readLogged, hrest] at h
      | cons c rest =>
          cases hread : readToken c rest with
          | ok r =>
              simp only [pullLogged, readLogged, hrest, hread, Program.bind_apply,
                Program.pure_apply, Prod.mk.injEq] at h
              obtain ⟨-, rfl⟩ := h
              have hne := List.length_pos_iff.2 (readToken_covers hread).2
              simp [remaining, hrest]
              omega
          | error f =>
              simp only [pullLogged, readLogged, hrest, hread, Program.bind_apply,
                Program.pure_apply, Prod.mk.injEq] at h
              obtain ⟨-, rfl⟩ := h
              simp [remaining]

theorem remaining_pull_lt
    {s behind : Session}
    {item : Item}
    (h : s.pull = (some item, behind)) :
    behind.remaining < s.remaining := by
  exact remaining_pullLogged_lt h

/-- Yield all items that are still to come. -/
def drain (s : Session) : List Item × Session :=
  match _ : s.pull with
  | (none, behind) => ([], behind)
  | (some item, behind) =>
      let tail := behind.drain
      (item :: tail.1, tail.2)
  termination_by s.remaining
  decreasing_by exact remaining_pull_lt ‹_›

end Session

/-- What can be asked of a session. -/
inductive Call where
  /-- Read the next token. -/
  | read
  /-- Yield the next item. -/
  | pull
  /-- Yield all items and count them. -/
  | count
  /-- Nothing. -/
  | look
  deriving DecidableEq

/-- What a call replies. -/
inductive Reply where
  | token (result : Except LexicalError (Option Token))
  | item (result : Option Item)
  | number (n : Nat)
  | nothing

namespace Session

/-- The reply to a call, and the session after it. -/
def perform (s : Session) : Call → Reply × Session
  | .read =>
      let step := s.read
      (.token step.1, step.2)
  | .pull =>
      let step := s.pull
      (.item step.1, step.2)
  | .count =>
      let drained := s.drain
      (.number drained.1.length, drained.2)
  | .look => (.nothing, s)

/-- The replies to a list of calls, each with the session after it. -/
def run (s : Session) : List Call → List (Reply × Session)
  | [] => []
  | call :: rest =>
      let step := s.perform call
      step :: step.2.run rest

end Session
end ContractLexer
