import ContractLexer.Proofs.SessionCalls

/-!
# Locations of tokens

Along a run of calls on a session some calls give a token.  Each of them passes the
text that its token spells, and no other call passes anything before the last token
is given.  So the location of a token is found by counting in the text that the
tokens before it have passed.

**Contents.**  The calls of a run that give a token, and the text each of them passes.

**Results.**
* `Session.at_of_yields`: a token stands behind the text that the tokens before it
  have passed.
* `Session.location_yields`: the location of every token by counting, and the order
  of the locations along a run.
-/

namespace ContractLexer

/-- The token that a reply gives. -/
def Reply.token? : Reply → Option Token
  | .token (.ok (some t)) => some t
  | .item (some (.ok t)) => some t
  | _ => none

/-- A call that gave a token: the session before it, the token, and the session
behind it. -/
structure Yield where
  before : Session
  token : Token
  behind : Session
  deriving DecidableEq

namespace Yield

/-- The text that the call passed. -/
def consumed (y : Yield) : Text :=
  y.before.cursor.rest.take (y.behind.cursor.charOffset - y.before.cursor.charOffset)

/-- The call gave its token in `text` behind the part `passed` of it: there stands a
text that spells the token, and the call passed just that. -/
structure At (text passed : Text) (y : Yield) : Prop where
  before_behind : y.before.cursor.Behind text passed
  behind_behind : y.behind.cursor.Behind text (passed ++ y.consumed)
  spelled : y.token.kind.SpelledBy y.consumed
  location_eq : y.token.location = y.before.location

theorem At.location_eq_after
    {text passed : Text}
    {y : Yield}
    (h : y.At text passed) :
    y.token.location = Location.start.after passed := by
  rw [h.location_eq, Session.location, h.before_behind.location_eq]

theorem At.consumed_ne_nil
    {text passed : Text}
    {y : Yield}
    (h : y.At text passed) :
    y.consumed ≠ [] := by
  exact y.token.kind.ne_nil_of_spelledBy h.spelled

end Yield

namespace Session

/-- The calls of a run that give a token. -/
def yields (s : Session) (calls : List Call) : List Yield :=
  let steps := s.run calls
  ((s :: steps.map Prod.snd).zip steps).filterMap fun (before, reply, behind) =>
    reply.token?.map fun t => { before := before, token := t, behind := behind }

theorem yields_nil
    (s : Session) :
    s.yields [] = [] := by
  rfl

theorem yields_cons_of_token
    {s : Session}
    {call : Call}
    {t : Token}
    (h : (s.perform call).1.token? = some t)
    (calls : List Call) :
    s.yields (call :: calls) =
      { before := s, token := t, behind := (s.perform call).2 } ::
        (s.perform call).2.yields calls := by
  simp [yields, run, h]

theorem yields_cons_of_no_token
    {s : Session}
    {call : Call}
    (h : (s.perform call).1.token? = none)
    (calls : List Call) :
    s.yields (call :: calls) = (s.perform call).2.yields calls := by
  simp [yields, run, h]

/-! ## One call -/

/-- Both ways of asking give a token or none, as the item is. -/
theorem token?_perform
    (s : Session)
    {call : Call}
    (hcall : call.advances = true) :
    (s.perform call).1.token? = (Reply.item s.pull.1).token? := by
  cases call with
  | read =>
      change (Reply.token s.read.1).token? = _
      cases s.step <;> simp [*, Reply.token?]
  | pull =>
      rfl
  | count | look =>
      cases hcall

/-- Only an advancing call gives a token, and it is the one that is yielded. -/
theorem pull_of_token?
    {s : Session}
    {call : Call}
    {t : Token}
    (h : (s.perform call).1.token? = some t) :
    s.pull = (some (.ok t), (s.perform call).2) := by
  have hadvances : call.advances = true := by
    cases call with
    | read | pull =>
        rfl
    | count | look =>
        cases h
  rw [token?_perform s hadvances] at h
  rw [perform_snd_of_advances hadvances]
  cases s.step with
  | failed _ _ hpull | atEnd _ _ _ hpull | failure _ _ _ _ _ _ hpull =>
      rw [hpull] at h
      cases h
  | token _ _ _ _ _ _ hpull =>
      rw [hpull] at h ⊢
      cases h
      rfl

/-- Nothing is left behind a session that yields all its items. -/
theorem pull_drain_snd
    (s : Session) :
    s.drain.2.pull.1 = none := by
  fun_induction drain s with
  | case1 s behind hpull =>
      have hsame := pull_eq_of_none (congrArg Prod.fst hpull)
      rw [hpull, Prod.mk.injEq] at hsame
      rw [hsame.2, hpull]
  | case2 s item behind hpull tail ih =>
      exact ih

/-- A call that gives no token leaves the session as it is, or brings it to where
nothing is yielded any more. -/
theorem perform_without_token
    {s : Session}
    {call : Call}
    (h : (s.perform call).1.token? = none) :
    (s.perform call).2 = s ∨ (s.perform call).2.pull.1 = none := by
  cases call with
  | read | pull =>
      rw [token?_perform s rfl] at h
      rw [perform_snd_of_advances rfl]
      cases s.step with
      | failed _ _ hpull | atEnd _ _ _ hpull =>
          rw [hpull]
          exact Or.inl rfl
      | token _ _ _ _ _ _ hpull =>
          rw [hpull] at h
          cases h
      | failure _ _ _ _ hbehind _ hpull =>
          rw [hpull, hbehind]
          exact Or.inr rfl
  | count =>
      exact Or.inr s.pull_drain_snd
  | look =>
      exact Or.inl rfl

/-- A call that gives a token passes the text that the token spells. -/
theorem at_of_token?
    {text passed : Text}
    {s : Session}
    {call : Call}
    {t : Token}
    (hbehind : s.cursor.Behind text passed)
    (h : (s.perform call).1.token? = some t) :
    Yield.At text passed { before := s, token := t, behind := (s.perform call).2 } := by
  have hpulled := pull_of_token? h
  generalize (s.perform call).2 = behind at hpulled ⊢
  cases s.step with
  | failed _ _ hpull | atEnd _ _ _ hpull | failure _ _ _ _ _ _ hpull =>
      rw [hpull] at hpulled
      cases hpulled
  | @token c rest r _ _ _ hrest hread ht hnext _ hpull =>
      rw [hpull] at hpulled
      cases hpulled
      subst ht hnext
      have hcovers := (readToken_covers hread).1
      have htake : s.cursor.rest.take r.spelling.length = r.spelling := by
        rw [hrest, ← hcovers, List.take_left]
      have hforward := hbehind.forward r.spelling.length
      rw [htake] at hforward
      have hconsumed :
          Yield.consumed
              { before := s
                token := { kind := r.kind, location := s.location }
                behind := { s with cursor := s.cursor.forward r.spelling.length } } =
            r.spelling := by
        simp only [Yield.consumed, hforward.charOffset_eq, hbehind.charOffset_eq,
          List.length_append, Nat.add_sub_cancel_left, htake]
      refine ⟨hbehind, ?_, ?_, rfl⟩
      · rw [hconsumed]
        exact hforward
      · rw [hconsumed]
        exact (spelledBy_and_stopsAt_of_readToken hread).1

/-! ## Runs of calls -/

theorem yields_of_pull_none
    {s : Session}
    (h : s.pull.1 = none)
    (calls : List Call) :
    s.yields calls = [] := by
  induction calls with
  | nil =>
      rfl
  | cons call calls ih =>
      cases htoken : (s.perform call).1.token? with
      | some t =>
          rw [pull_of_token? htoken] at h
          cases h
      | none =>
          rw [yields_cons_of_no_token htoken, perform_snd_of_pull_none h, ih]

/-- A token stands behind the text that the tokens before it have passed. -/
theorem at_of_yields
    {text passed : Text}
    {s : Session}
    (hbehind : s.cursor.Behind text passed)
    {calls : List Call}
    {earlier later : List Yield}
    {y : Yield}
    (h : s.yields calls = earlier ++ y :: later) :
    y.At text (passed ++ earlier.flatMap Yield.consumed) := by
  induction calls generalizing s passed earlier with
  | nil =>
      simp [yields_nil] at h
  | cons call calls ih =>
      cases htoken : (s.perform call).1.token? with
      | some t =>
          have hfirst := at_of_token? hbehind htoken
          rw [yields_cons_of_token htoken] at h
          cases earlier with
          | nil =>
              obtain ⟨rfl, -⟩ := List.cons.inj h
              simpa using hfirst
          | cons first earlier =>
              obtain ⟨rfl, htail⟩ := List.cons.inj h
              rw [List.flatMap_cons, ← List.append_assoc]
              exact ih hfirst.behind_behind htail
      | none =>
          rw [yields_cons_of_no_token htoken] at h
          -- After an error, and after all items have been counted, no token is given.
          rcases perform_without_token htoken with hsame | hspent
          · rw [hsame] at h
            exact ih hbehind h
          · rw [yields_of_pull_none hspent] at h
            simp at h

/-- The locations of the tokens grow along a run. -/
theorem compare_yields_eq_lt
    {text passed : Text}
    {s : Session}
    (hbehind : s.cursor.Behind text passed)
    {calls : List Call}
    {earlier between later : List Yield}
    {y z : Yield}
    (h : s.yields calls = earlier ++ y :: (between ++ z :: later)) :
    compare y.token.location z.token.location = .lt := by
  have hy := at_of_yields hbehind h
  have hsplit : s.yields calls = (earlier ++ y :: between) ++ z :: later := by
    rw [h, List.append_assoc, List.cons_append]
  have hz := at_of_yields hbehind hsplit
  have hpassed :
      passed ++ (earlier ++ y :: between).flatMap Yield.consumed =
        (passed ++ earlier.flatMap Yield.consumed) ++
          (y.consumed ++ between.flatMap Yield.consumed) := by
    simp
  rw [hpassed] at hz
  rw [hz.location_eq_after, Location.after_append, ← hy.location_eq_after]
  apply Location.compare_after_eq_lt
  simp [hy.consumed_ne_nil]

/-- The location of every token that a session over a text gives is that of the
session before the call, and is found by counting in the text that the tokens before
it have passed: one line for each line feed, and one column for each character behind
the last of them.  So the locations grow along a run. -/
theorem location_yields
    (text : Text)
    (calls : List Call) :
    (∀ earlier y later,
        (ofText text).yields calls = earlier ++ y :: later →
          y.token.location = y.before.location ∧
            y.token.location = Location.counted (earlier.flatMap Yield.consumed) ∧
            y.token.kind.SpelledBy y.consumed ∧
            earlier.flatMap Yield.consumed ++ y.consumed <+: text) ∧
      ((ofText text).yields calls).Pairwise fun y z =>
        compare y.token.location z.token.location = .lt := by
  have hstart : (ofText text).cursor.Behind text [] := Cursor.behind_ofText text
  refine ⟨?_, ?_⟩
  · intro earlier y later h
    have hy : y.At text (earlier.flatMap Yield.consumed) := at_of_yields hstart h
    refine ⟨hy.location_eq, ?_, hy.spelled, ?_⟩
    · rw [hy.location_eq_after, Location.after_start_eq_counted]
    · exact ⟨_, hy.behind_behind.append_rest⟩
  · rw [List.pairwise_iff_forall_sublist]
    intro y z hsublist
    obtain ⟨front, back, hsplit, hfront, hback⟩ := List.cons_sublist_iff.1 hsublist
    obtain ⟨earlier, between, rfl⟩ := List.append_of_mem hfront
    obtain ⟨between', later, rfl⟩ := List.append_of_mem (List.singleton_sublist.1 hback)
    have hyields :
        (ofText text).yields calls =
          earlier ++ y :: ((between ++ between') ++ z :: later) := by
      rw [hsplit, List.append_assoc, List.append_assoc, List.cons_append]
    exact compare_yields_eq_lt hstart hyields

theorem location_yields_multiline :
    ∃ earlier y,
      (ofText "é\r\"a\nb\" +".toList).yields [.read, .pull, .read, .pull, .read] =
          earlier ++ [y] ∧
        y.token.kind = .whitespace [' '] ∧
        y.token.location = { line := 2, column := 3 } ∧
        Location.counted (earlier.flatMap Yield.consumed) = { line := 2, column := 3 } := by
  have hlast :
      (((ofText "é\r\"a\nb\" +".toList).yields
          [.read, .pull, .read, .pull, .read]).getLast?).map Yield.token =
        some { kind := .whitespace [' '], location := { line := 2, column := 3 } } := by
    decide +kernel
  obtain ⟨y, hy, htoken⟩ := Option.map_eq_some_iff.1 hlast
  obtain ⟨earlier, hsplit⟩ := List.getLast?_eq_some_iff.1 hy
  obtain ⟨-, hcounted, -⟩ :=
    (location_yields "é\r\"a\nb\" +".toList [.read, .pull, .read, .pull, .read]).1 earlier y [] hsplit
  rw [htoken] at hcounted
  exact ⟨earlier, y, hsplit, by rw [htoken], by rw [htoken], hcounted.symm⟩

end Session
end ContractLexer
