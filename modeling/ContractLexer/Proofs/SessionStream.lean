import ContractLexer.Session

/-!
# The items of a session

A session yields the stream of the text in front of it.  What one call does is
said once, for each of the things it can meet: an error that is kept, the end, a token,
and a text from which no token can be read.

**Contents.**  What one advancing call can do.

**Results.**
* `Session.step`: an advancing call takes one of four steps.
* `Session.drain_eq_ofTextAt`: a session that has not failed yields the stream of
  the text still to come.
* `Session.drain_ofText`: a session in front of a text yields its whole stream.
-/

namespace ContractLexer

@[simp] theorem Cursor.location_forward
    (n : Nat)
    (k : Cursor) :
    (forward n k).location = k.location.after (k.rest.take n) := by
  induction n generalizing k with
  | zero =>
      rfl
  | succ n ih =>
      rw [forward, ih, rest_advance]
      cases hrest : k.rest with
      | nil =>
          simp [advance, hrest]
      | cons c rest =>
          simp [advance, hrest]

namespace Session

/-! ## One advancing call -/

theorem pull_at_end
    {s : Session}
    (hfailed : s.failed = none)
    (hrest : s.cursor.rest = []) :
    s.pull = (none, s) := by
  simp [pull, pullLogged, readLogged, hfailed, hrest]

theorem pull_of_readToken
    {s : Session}
    {c : Char}
    {rest : Text}
    {r : Reading}
    (hfailed : s.failed = none)
    (hrest : s.cursor.rest = c :: rest)
    (h : readToken c rest = .ok r) :
    s.pull =
      (some (.ok { kind := r.kind, location := s.location }),
        { s with cursor := s.cursor.forward r.spelling.length }) := by
  simp [pull, pullLogged, readLogged, hfailed, hrest, h]

theorem pull_of_failure
    {s : Session}
    {c : Char}
    {rest : Text}
    {f : Failure}
    (hfailed : s.failed = none)
    (hrest : s.cursor.rest = c :: rest)
    (h : readToken c rest = .error f) :
    s.pull =
      (some (.error (f.toError s.location)),
        { cursor := s.cursor.forward f.passed.length
          failed := some (f.toError s.location) }) := by
  simp [pull, pullLogged, readLogged, hfailed, hrest, h]

/-- What an advancing call meets, and what it does: how `read` replies, what `pull`
yields, and the session behind either. -/
inductive Step (s : Session) : Prop
  | failed
      {e : LexicalError}
      (hfailed : s.failed = some e)
      (hread : s.read = (.error e, s))
      (hpull : s.pull = (none, s))
  | atEnd
      (hfailed : s.failed = none)
      (hrest : s.cursor.rest = [])
      (hread : s.read = (.ok none, s))
      (hpull : s.pull = (none, s))
  | token
      {c : Char}
      {rest : Text}
      {r : Reading}
      {t : Token}
      {behind : Session}
      (hfailed : s.failed = none)
      (hrest : s.cursor.rest = c :: rest)
      (h : readToken c rest = .ok r)
      (ht : t = { kind := r.kind, location := s.location })
      (hbehind : behind = { s with cursor := s.cursor.forward r.spelling.length })
      (hread : s.read = (.ok (some t), behind))
      (hpull : s.pull = (some (.ok t), behind))
  | failure
      {c : Char}
      {rest : Text}
      {f : Failure}
      {e : LexicalError}
      {behind : Session}
      (hfailed : s.failed = none)
      (hrest : s.cursor.rest = c :: rest)
      (h : readToken c rest = .error f)
      (he : e = f.toError s.location)
      (hbehind : behind =
        { cursor := s.cursor.forward f.passed.length, failed := some e })
      (hread : s.read = (.error e, behind))
      (hpull : s.pull = (some (.error e), behind))

theorem step
    (s : Session) :
    s.Step := by
  cases hfailed : s.failed with
  | some e =>
      exact .failed hfailed (by simp [read, readLogged, hfailed])
        (by simp [pull, pullLogged, hfailed])
  | none =>
      cases hrest : s.cursor.rest with
      | nil =>
          exact .atEnd hfailed hrest (by simp [read, readLogged, hfailed, hrest])
            (pull_at_end hfailed hrest)
      | cons c rest =>
          cases h : readToken c rest with
          | ok r =>
              exact .token hfailed hrest h rfl rfl (by simp [read, readLogged, hfailed, hrest, h])
                (pull_of_readToken hfailed hrest h)
          | error f =>
              exact .failure hfailed hrest h rfl rfl (by simp [read, readLogged, hfailed, hrest, h])
                (pull_of_failure hfailed hrest h)

/-- A session that yields an error keeps it. -/
theorem failed_of_pull_error
    {s behind : Session}
    {e : LexicalError}
    (h : s.pull = (some (.error e), behind)) :
    behind.failed = some e := by
  cases s.step with
  | failed _ _ hpull | atEnd _ _ _ hpull | token _ _ _ _ _ _ hpull =>
      rw [hpull] at h
      cases h
  | failure _ _ _ _ hbehind _ hpull =>
      rw [hpull] at h
      cases h
      rw [hbehind]

/-! ## All items -/

theorem drain_of_pull_none
    {s behind : Session}
    (h : s.pull = (none, behind)) :
    s.drain = ([], behind) := by
  rw [drain]
  split
  · next behind' h' =>
      rw [h] at h'
      cases h'
      rfl
  · next item behind' h' =>
      rw [h] at h'
      cases h'

theorem drain_of_pull_some
    {s behind : Session}
    {item : Item}
    (h : s.pull = (some item, behind)) :
    s.drain = (item :: behind.drain.1, behind.drain.2) := by
  rw [drain]
  split
  · next behind' h' =>
      rw [h] at h'
      cases h'
  · next item' behind' h' =>
      rw [h] at h'
      cases h'
      rfl

theorem drain_of_failed
    {s : Session}
    {e : LexicalError}
    (hfailed : s.failed = some e) :
    s.drain = ([], s) := by
  apply drain_of_pull_none
  simp [pull, pullLogged, hfailed]

/-- A session that has not failed yields the stream of the text still to come. -/
theorem drain_eq_ofTextAt
    {s : Session}
    (hfailed : s.failed = none) :
    s.drain.1 = Stream.ofTextAt s.location s.cursor.rest := by
  generalize hlocation : s.location = start
  generalize hrest : s.cursor.rest = text
  -- The induction follows the stream; the session behind a token stands in front
  -- of the rest of that step.
  fun_induction Stream.ofTextAt start text generalizing s with
  | case1 start =>
      rw [drain_of_pull_none (pull_at_end hfailed hrest)]
  | case2 start c rest r h ih =>
      have hcovers := (readToken_covers h).1
      have htail :
          ({ s with cursor := s.cursor.forward r.spelling.length } : Session).drain.1 =
            Stream.ofTextAt (start.after r.spelling) r.rest := by
        apply ih
        · exact hfailed
        · simp only [location, Cursor.location_forward, hrest, ← hcovers, List.take_left]
          exact congrArg (fun l => Location.after l r.spelling) hlocation
        · rw [Cursor.rest_forward, hrest, ← hcovers, List.drop_left]
      rw [drain_of_pull_some (pull_of_readToken hfailed hrest h), htail, hlocation]
  | case3 start c rest f h =>
      rw [drain_of_pull_some (pull_of_failure hfailed hrest h), drain_of_failed rfl, hlocation]

/-- A session in front of a text yields its whole stream. -/
theorem drain_ofText
    (text : Text) :
    (ofText text).drain.1 = Stream.ofText text := by
  exact drain_eq_ofTextAt rfl

end Session
end ContractLexer
