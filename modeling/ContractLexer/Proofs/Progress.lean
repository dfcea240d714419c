import ContractLexer.Proofs.TokenLocations
import Mathlib.Algebra.GroupWithZero.Nat

/-!
# Progress of a session

Every token costs at least one character of the text, and an error costs what is left of
it, since a session goes no further.  So a text pays for as many items as it has
characters, whatever is asked of the session and in whatever order.

**Contents.**  The characters that a session has ahead of it, and the items that a reply
gives.

**Results.**
* `Session.given_add_ahead_perform_le`: what a reply gives is taken from what is ahead.
* `Session.given_add_ahead_run_le`: the same for all replies of a run together.
* `Session.exists_behind_after`: no run of calls leaves the text.
* `Session.calls_make_progress`: every call that gives a token passes the text that the
  token spells, and the calls come to an end.
-/

namespace ContractLexer

/-- The number of items that a reply gives. -/
def Reply.given : Reply → Nat
  | .token (.ok (some _)) => 1
  | .item (some _) => 1
  | .number n => n
  | _ => 0

namespace Session

/-- The characters that may still be passed.  A session that has failed passes none. -/
def ahead (s : Session) : Nat :=
  match s.failed with
  | some _ => 0
  | none => s.cursor.rest.length

theorem ahead_le_length_rest
    (s : Session) :
    s.ahead ≤ s.cursor.rest.length := by
  unfold ahead
  split
  · exact Nat.zero_le _
  · exact Nat.le_refl _

/-! ## What is paid for an item -/

/-- An item is paid for with at least one character. -/
theorem ahead_pull_lt
    {s behind : Session}
    {item : Item}
    (h : s.pull = (some item, behind)) :
    behind.ahead < s.ahead := by
  cases s.step with
  | failed _ _ hpull | atEnd _ _ _ hpull =>
      rw [hpull] at h
      cases h
  | @token c rest r _ _ hfailed hrest hread _ hbehind _ hpull =>
      rw [hpull] at h
      cases h
      have hne := List.length_pos_iff.2 (readToken_covers hread).2
      subst hbehind
      simp only [ahead, hfailed, Cursor.rest_forward, List.length_drop, hrest, List.length_cons]
      omega
  | failure hfailed hrest _ _ hbehind _ hpull =>
      rw [hpull] at h
      cases h
      subst hbehind
      simp [ahead, hfailed, hrest]

/-- All items that are still to come are paid for with what is ahead. -/
theorem length_drain_add_ahead_le
    (s : Session) :
    s.drain.1.length + s.drain.2.ahead ≤ s.ahead := by
  fun_induction drain s with
  | case1 s behind hpull =>
      have hsame := pull_eq_of_none (congrArg Prod.fst hpull)
      rw [hpull, Prod.mk.injEq] at hsame
      simp [hsame.2]
  | case2 s item behind hpull tail ih =>
      have hlt := ahead_pull_lt hpull
      change (item :: behind.drain.1).length + behind.drain.2.ahead ≤ s.ahead
      rw [List.length_cons]
      omega

/-- What a reply gives is taken from what is ahead. -/
theorem given_add_ahead_perform_le
    (s : Session)
    (call : Call) :
    (s.perform call).1.given + (s.perform call).2.ahead ≤ s.ahead := by
  cases call with
  | read =>
      change (Reply.token s.read.1).given + s.read.2.ahead ≤ s.ahead
      cases s.step with
      | failed _ hread | atEnd _ _ hread =>
          simp [hread, Reply.given]
      | token _ _ _ _ _ hread hpull | failure _ _ _ _ _ hread hpull =>
          have hlt := ahead_pull_lt hpull
          simp only [hread, Reply.given]
          omega
  | pull =>
      change (Reply.item s.pull.1).given + s.pull.2.ahead ≤ s.ahead
      cases hpull : s.pull with
      | mk item behind =>
          cases item with
          | none =>
              have hsame := pull_eq_of_none (congrArg Prod.fst hpull)
              rw [hpull, Prod.mk.injEq] at hsame
              simp [Reply.given, hsame.2]
          | some item =>
              have hlt := ahead_pull_lt hpull
              simp only [Reply.given]
              omega
  | count =>
      exact s.length_drain_add_ahead_le
  | look =>
      simp [perform, Reply.given]

/-- What the replies of a run give together is taken from what is ahead. -/
theorem given_add_ahead_run_le
    (s : Session)
    (calls : List Call) :
    ((s.run calls).map fun step => step.1.given).sum + (s.after calls).ahead ≤ s.ahead := by
  induction calls generalizing s with
  | nil =>
      simp [run]
  | cons call calls ih =>
      have hcall := s.given_add_ahead_perform_le call
      have htail := ih (s.perform call).2
      rw [after_cons, run, List.map_cons, List.sum_cons]
      omega

/-- As long as no call to `read` finds the end or an error, each gives a token. -/
theorem count_read_le_given
    {s : Session}
    {calls : List Call}
    (h : ∀ step ∈ s.run calls,
      ¬ (step.1 = .token (.ok none) ∨ ∃ e, step.1 = .token (.error e))) :
    calls.count .read ≤ ((s.run calls).map fun step => step.1.given).sum := by
  induction calls generalizing s with
  | nil =>
      exact Nat.zero_le _
  | cons call calls ih =>
      rw [run, List.forall_mem_cons] at h
      have htail := ih h.2
      rw [run, List.map_cons, List.sum_cons, List.count_cons]
      have hcall : (if call == .read then 1 else 0) ≤ (s.perform call).1.given := by
        cases call with
        | read =>
            have hreply : ¬ (Reply.token s.read.1 = .token (.ok none) ∨
                ∃ e, Reply.token s.read.1 = .token (.error e)) := h.1
            change 1 ≤ (Reply.token s.read.1).given
            cases hread : s.read.1 with
            | error e =>
                exact absurd (Or.inr ⟨e, congrArg Reply.token hread⟩) hreply
            | ok found =>
                cases found with
                | none =>
                    exact absurd (Or.inl (congrArg Reply.token hread)) hreply
                | some t =>
                    exact Nat.le_refl 1
        | pull | count | look =>
            exact Nat.zero_le _
      omega

/-! ## The place in the text -/

theorem exists_behind_pull
    {text : Text}
    {s : Session}
    (h : ∃ passed, s.cursor.Behind text passed) :
    ∃ passed, s.pull.2.cursor.Behind text passed := by
  obtain ⟨passed, hbehind⟩ := h
  cases s.step with
  | failed _ _ hpull | atEnd _ _ _ hpull =>
      rw [hpull]
      exact ⟨passed, hbehind⟩
  | token _ _ _ _ hnext _ hpull | failure _ _ _ _ hnext _ hpull =>
      rw [hpull, hnext]
      exact ⟨_, hbehind.forward _⟩

/-- No call leaves the text. -/
theorem exists_behind_perform
    {text : Text}
    {s : Session}
    (h : ∃ passed, s.cursor.Behind text passed)
    (call : Call) :
    ∃ passed, (s.perform call).2.cursor.Behind text passed := by
  cases call with
  | read | pull =>
      rw [perform_snd_of_advances rfl]
      exact exists_behind_pull h
  | count =>
      change ∃ passed, s.drain.2.cursor.Behind text passed
      fun_induction drain s with
      | case1 s behind hpull =>
          have hlast := exists_behind_pull h
          rw [hpull] at hlast
          exact hlast
      | case2 s item behind hpull tail ih =>
          have hnext := exists_behind_pull h
          rw [hpull] at hnext
          exact ih hnext
  | look =>
      exact h

/-- No run of calls leaves the text. -/
theorem exists_behind_after
    (text : Text)
    (calls : List Call) :
    ∃ passed, ((ofText text).after calls).cursor.Behind text passed := by
  have hrun : ∀ s : Session, (∃ passed, s.cursor.Behind text passed) →
      ∃ passed, (s.after calls).cursor.Behind text passed := by
    induction calls with
    | nil =>
        intro s h
        exact h
    | cons call calls ih =>
        intro s h
        rw [after_cons]
        exact ih _ (exists_behind_perform h call)
  exact hrun (ofText text) ⟨[], Cursor.behind_ofText text⟩

theorem charOffset_le_length
    {text passed : Text}
    {k : Cursor}
    (h : k.Behind text passed) :
    k.charOffset ≤ text.length := by
  rw [h.charOffset_eq, ← h.append_rest, List.length_append]
  omega

/-- A session over a text moves on with every token that it gives: it passes the text that
the token spells, at least one character, and never goes beyond the end.

So the replies to any list of calls give at most as many items as the text has
characters, and of more calls to `read` than that, one finds the end or an error. -/
theorem calls_make_progress
    (text : Text)
    (calls : List Call) :
    let s := (ofText text).after calls
    s.cursor.charOffset ≤ text.length ∧
      (∀ t behind, s.read = (.ok (some t), behind) →
        ∃ lexeme,
          lexeme ≠ [] ∧
            t.kind.SpelledBy lexeme ∧
            s.cursor.rest = lexeme ++ behind.cursor.rest ∧
            behind.cursor.charOffset = s.cursor.charOffset + lexeme.length ∧
            behind.cursor.charOffset ≤ text.length) ∧
      s.drain.1.length ≤ s.cursor.rest.length ∧
      (((ofText text).run calls).map fun step => step.1.given).sum ≤ text.length ∧
      (text.length < calls.count .read →
        ∃ step ∈ (ofText text).run calls,
          step.1 = .token (.ok none) ∨ ∃ e, step.1 = .token (.error e)) := by
  intro s
  obtain ⟨passed, hbehind⟩ := exists_behind_after text calls
  have hgiven : _ ≤ text.length := given_add_ahead_run_le (ofText text) calls
  refine ⟨charOffset_le_length hbehind, ?_, ?_, ?_, ?_⟩
  · intro t behind hread
    have htoken : (s.perform .read).1.token? = some t := by
      change (Reply.token s.read.1).token? = some t
      rw [hread]
      rfl
    have hnext : (s.perform .read).2 = behind := congrArg Prod.snd hread
    have hat := at_of_token? hbehind htoken
    rw [hnext] at hat
    have hsplit := hbehind.append_rest.trans hat.behind_behind.append_rest.symm
    rw [List.append_assoc] at hsplit
    refine ⟨_, hat.consumed_ne_nil, hat.spelled, List.append_cancel_left hsplit, ?_,
      charOffset_le_length hat.behind_behind⟩
    rw [hat.behind_behind.charOffset_eq, hbehind.charOffset_eq, List.length_append]
  · have hdrain := s.length_drain_add_ahead_le
    have hahead := s.ahead_le_length_rest
    omega
  · omega
  · intro hmany
    by_contra hnone
    have hreads : calls.count .read ≤ _ :=
      count_read_le_given fun step hstep hfinal => hnone ⟨step, hstep, hfinal⟩
    omega

theorem calls_make_progress_badEscape :
    let text := "x\"\\é".toList
    let calls := [Call.read, .look, .read, .pull, .read, .read, .read]
    text.length < calls.count .read ∧
      (ofText text).read =
        (.ok (some { kind := .identifier ['x'], location := .start }),
          (ofText text).after [.read]) ∧
      (∃ lexeme, lexeme ≠ [] ∧ (TokenKind.identifier ['x']).SpelledBy lexeme) ∧
      ∃ step ∈ (ofText text).run calls,
        step.1 = .token (.ok none) ∨ ∃ e, step.1 = .token (.error e) := by
  intro text calls
  have hmany : text.length < calls.count .read := by
    decide
  have hread : (ofText text).read =
      (.ok (some { kind := .identifier ['x'], location := .start }),
        (ofText text).after [.read]) := by
    decide +kernel
  obtain ⟨-, htoken, -⟩ := calls_make_progress text []
  obtain ⟨-, -, -, -, hends⟩ := calls_make_progress text calls
  obtain ⟨lexeme, hne, hspelled, -⟩ := htoken _ _ hread
  exact ⟨hmany, hread, ⟨lexeme, hne, hspelled⟩, hends hmany⟩

end Session
end ContractLexer
