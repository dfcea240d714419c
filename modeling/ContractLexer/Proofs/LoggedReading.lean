import ContractLexer.Listing.Basic
import ContractLexer.Proofs.SessionStream

/-!
# Reading that is logged

A session logs what it reads while it is asked for it, and a listing asks it for all that
it has to give.  Here it is shown what is logged on the way, and that nothing else depends
on the filter for log records.

A record is logged where an item is yielded: once for every token, whether it is listed or
left out, and once for the error, which is kept and not met again.

**Contents.**  Programs that do the same under every filter but for their error output, the
record of an item, and the listing of a stream.

**Results.**
* `Program.Steady.bind`: steady programs follow one another steadily.
* `Session.readLogged_apply`, `Session.pullLogged_apply`: what one call does under a filter.
* `Listing.ofSession_apply`: what is listed and what is logged of all that a session gives.
* `Listing.ofTextLogged_apply`, `Listing.ofText_eq_ofStream`: the same for a whole text.
-/

namespace ContractLexer

/-! ## Programs under different filters -/

namespace Output

/-- What is written of records that are logged one after the other. -/
def ofRecords (filter : Option Log.Filter) (records : List Log.Record) : List Output :=
  records.flatMap (ofRecord filter)

theorem ofRecords_append
    (filter : Option Log.Filter)
    (records more : List Log.Record) :
    ofRecords filter (records ++ more) = ofRecords filter records ++ ofRecords filter more := by
  exact List.flatMap_append

theorem onOut_ofRecord
    (filter : Option Log.Filter)
    (record : Log.Record) :
    (ofRecord filter record).flatMap onOut = [] := by
  unfold ofRecord
  split
  · split <;> rfl
  · rfl

/-- Records are not written on the standard output. -/
theorem onOut_ofRecords
    (filter : Option Log.Filter)
    (records : List Log.Record) :
    (ofRecords filter records).flatMap onOut = [] := by
  rw [ofRecords, List.flatMap_assoc]
  simp only [onOut_ofRecord, List.flatMap_eq_nil_iff, implies_true]

end Output

namespace Program

variable {α β : Type}

/-- Nothing but the error output of the program depends on the filter. -/
def Steady (p : Program α) : Prop :=
  ∀ filter, (p filter).1 = (p none).1 ∧ p.stdout filter = p.stdout

theorem steady_pure
    (a : α) :
    (pure a : Program α).Steady := by
  intro filter
  exact ⟨rfl, rfl⟩

theorem steady_print
    (text : Text) :
    (print text).Steady := by
  intro filter
  exact ⟨rfl, rfl⟩

theorem steady_complain
    (text : Text) :
    (complain text).Steady := by
  intro filter
  exact ⟨rfl, rfl⟩

theorem steady_log
    (record : Log.Record) :
    (log record).Steady := by
  intro filter
  exact ⟨rfl, Output.onOut_ofRecord filter record⟩

theorem stdout_bind
    (p : Program α)
    (next : α → Program β)
    (filter : Option Log.Filter) :
    (p >>= next).stdout filter =
      p.stdout filter ++ (next (p filter).1).stdout filter := by
  exact List.flatMap_append

/-- A steady program, and steady ones behind it, make up a steady program. -/
theorem Steady.bind
    {p : Program α}
    {next : α → Program β}
    (hp : p.Steady)
    (hnext : ∀ a, (next a).Steady) :
    (p >>= next).Steady := by
  intro filter
  obtain ⟨hresult, hout⟩ := hp filter
  obtain ⟨hresult', hout'⟩ := hnext (p none).1 filter
  constructor
  · rw [bind_apply, bind_apply, hresult]
    exact hresult'
  · rw [stdout_bind, stdout_bind, hresult, hout, hout']

end Program

/-! ## One call on a session -/

/-- The record of an item of a stream. -/
def Log.Record.ofItem : Item → Record
  | .ok t => .token t
  | .error e => .stopped e

namespace Session

/-- A call that reads gives the same under every filter.  It logs the item that it comes
to, if there is one: nothing at the end, and nothing once the session has failed. -/
theorem readLogged_apply
    (s : Session)
    (filter : Option Log.Filter) :
    s.readLogged filter =
      (s.read, Output.ofRecords filter (s.pull.1.toList.map .ofItem)) := by
  cases s.step with
  | failed hfailed hread hpull =>
      simp [readLogged, hfailed, hread, hpull, Output.ofRecords]
  | atEnd hfailed hrest hread hpull =>
      simp [readLogged, hfailed, hrest, hread, hpull, Output.ofRecords]
  | token hfailed hrest h ht hbehind hread hpull =>
      simp [readLogged, hfailed, hrest, h, hread, hpull, ht, hbehind, Output.ofRecords,
        Log.Record.ofItem]
  | failure hfailed hrest h he hbehind hread hpull =>
      simp [readLogged, hfailed, hrest, h, hread, hpull, he, hbehind, Output.ofRecords,
        Log.Record.ofItem]

/-- A call that pulls gives the same under every filter, and logs the item that it
yields. -/
theorem pullLogged_apply
    (s : Session)
    (filter : Option Log.Filter) :
    s.pullLogged filter =
      (s.pull, Output.ofRecords filter (s.pull.1.toList.map .ofItem)) := by
  cases hfailed : s.failed with
  | some e =>
      simp [pull, pullLogged, hfailed, Output.ofRecords]
  | none =>
      -- Pulling logs what reading logs, and gives the same in another form.
      have hread := s.readLogged_apply filter
      have hsilent : (s.readLogged none).1 = s.read := rfl
      generalize Output.ofRecords filter (s.pull.1.toList.map .ofItem) = written at hread ⊢
      simp only [pull, pullLogged, hfailed, Program.bind_apply, hread, hsilent]
      rcases s.read with ⟨_ | _ | _, behind⟩ <;> simp

end Session

namespace Listing

/-! ## All that a session gives -/

/-- The listing of a stream, when `depth` braces are open before it. -/
def ofStream (o : Options) (depth : Nat) : List Item → Except LexicalError Text
  | [] => .ok []
  | .error e :: _ => .error e
  | .ok t :: rest =>
      if t.isTrivia && !o.trivia then ofStream o depth rest
      else
        (ofStream o (openAfter (shownAt depth t) t) rest).map fun lines =>
          line o (shownAt depth t) t ++ lines

/-- Whatever is listed of what a session has still to give, every item is logged, one
after the other, and the listing is that of all items. -/
theorem ofSession_apply
    (o : Options)
    (depth : Nat)
    (s : Session)
    (filter : Option Log.Filter) :
    ofSession o depth s filter =
      (ofStream o depth s.drain.1, Output.ofRecords filter (s.drain.1.map .ofItem)) := by
  induction s using Session.drain.induct generalizing depth with
  | case1 s behind hpull =>
      have hcall := s.pullLogged_apply filter
      rw [hpull] at hcall
      rw [ofSession, Program.pbind_apply hcall, Session.drain_of_pull_none hpull]
      rfl
  | case2 s item behind hpull ih =>
      have hcall := s.pullLogged_apply filter
      rw [hpull] at hcall
      rw [ofSession, Program.pbind_apply hcall, Session.drain_of_pull_some hpull]
      cases item with
      | error e =>
          -- The error is kept, so that there is nothing more to log.
          rw [Session.drain_of_failed (Session.failed_of_pull_error hpull)]
          simp [ofStream, Output.ofRecords]
      | ok t =>
          -- Whether the token is listed or left out, it has been logged already.
          by_cases hskipped : (t.isTrivia && !o.trivia) = true
          · simp only [ofStream, if_pos hskipped, ih, ← Output.ofRecords_append]
            rfl
          · simp only [ofStream, if_neg hskipped, Program.bind_apply, Program.pure_apply, ih,
              List.append_nil, ← Output.ofRecords_append]
            rfl

/-- Under every filter a text has the same listing, and its whole stream is logged. -/
theorem ofTextLogged_apply
    (o : Options)
    (text : Text)
    (filter : Option Log.Filter) :
    ofTextLogged o text filter =
      (ofText o text, Output.ofRecords filter ((Stream.ofText text).map .ofItem)) := by
  rw [ofText, ofTextLogged, ofSession_apply, ofSession_apply, Session.drain_ofText]

theorem steady_ofTextLogged
    (o : Options)
    (text : Text) :
    (ofTextLogged o text).Steady := by
  intro filter
  simp only [Program.stdout, ofTextLogged_apply, Output.onOut_ofRecords, and_self]

/-- The listing of a text is that of its stream. -/
theorem ofText_eq_ofStream
    (o : Options)
    (text : Text) :
    ofText o text = ofStream o 0 (Stream.ofText text) := by
  rw [ofText, ofTextLogged, ofSession_apply, Session.drain_ofText]

end Listing
end ContractLexer
