import ContractLexer.Proofs.Spelling
import ContractLexer.Proofs.WalkPositions
import Mathlib.Data.List.TakeWhile

/-!
# What a walk passes

A cursor moves by characters, and the text that it has passed is cut out of the whole text by
bytes.  The two fit together: the part between two places of a walk that has not gone back is
made up of what the actions between them have passed.

A run is the longest one that there is, whatever characters it may consist of.

**Contents.**  Longest runs, the actions that do not go back, and the text that a list of
actions passes.

**Results.**
* `Cursor.longestRun_passWhile`: a run is the longest one.
* `Walk.cursor_after`: actions that do not go back move forward over the text they pass.
* `Walk.runs_and_cuts`: runs are longest, and cuts are exact.
-/

namespace ContractLexer

/-! ## Runs -/

/-- `run` is the longest beginning of `t` all of whose characters satisfy `p`. -/
structure Text.LongestRun (p : Char → Bool) (t run : Text) : Prop where
  begins : run <+: t
  satisfies : ∀ c ∈ run, p c = true
  longest : ∀ s : Text, s <+: t → (∀ c ∈ s, p c = true) → s <+: run

namespace Cursor

theorem longestRun_passWhile
    (p : Char → Bool)
    (k : Cursor) :
    Text.LongestRun p k.rest (k.passWhile p).1 := by
  rw [passWhile_eq]
  refine ⟨List.takeWhile_prefix p, fun c => List.mem_takeWhile_imp, ?_⟩
  rintro s ⟨behind, hrest⟩ hs
  rw [← hrest, List.takeWhile_append_of_pos hs]
  exact List.prefix_append _ _

theorem endsRun_passWhile
    (p : Char → Bool)
    (k : Cursor) :
    Text.EndsRun p (k.passWhile p).2.rest := by
  rw [passWhile_eq, rest_forward_of_append List.takeWhile_append_dropWhile]
  exact Text.endsRun_dropWhile p k.rest

/-- The run that a cursor passes is the part of the text from where it was to where it is. -/
theorem Behind.cut_passWhile
    {source passed : Text}
    {k : Cursor}
    (h : k.Behind source passed)
    (p : Char → Bool) :
    k.cut k.byteOffset (k.passWhile p).2.byteOffset = some (k.passWhile p).1 := by
  have htake : k.rest.take (k.rest.takeWhile p).length = k.rest.takeWhile p :=
    (List.prefix_iff_eq_take.1 (List.takeWhile_prefix p)).symm
  rw [passWhile_eq, h.cut_forward, htake]

end Cursor

/-! ## Walks that do not go back -/

/-- The action does not go back to the copy. -/
def Action.isForward : Action → Bool
  | .restore => false
  | _ => true

namespace Walk

/-- The text that a list of actions passes. -/
def passed (w : Walk) : List Action → Text
  | [] => []
  | action :: rest =>
      action.passed (w.perform action).1 ++ (w.perform action).2.passed rest

theorem cursor_perform
    (w : Walk)
    {action : Action}
    (h : action.isForward = true) :
    (w.perform action).2.cursor =
      w.cursor.forward (action.passed (w.perform action).1).length := by
  rw [perform_snd]
  cases action with
  | restore =>
      cases h
  | next | second | pass | passWhile | passLine | cut | save | cutSaved =>
      rfl

/-- Actions that do not go back move the cursor forward over the text that they pass. -/
theorem cursor_after
    {w : Walk}
    {actions : List Action}
    (h : ∀ action ∈ actions, action.isForward = true) :
    w.passed actions <+: w.cursor.rest ∧
      (w.after actions).cursor = w.cursor.forward (w.passed actions).length := by
  induction actions generalizing w with
  | nil =>
      exact ⟨List.nil_prefix, rfl⟩
  | cons action actions ih =>
      obtain ⟨hfirst, hmore⟩ := List.forall_mem_cons.1 h
      have hstep := w.cursor_perform hfirst
      obtain ⟨behind, hrest⟩ := w.passed_prefix_rest action
      obtain ⟨htail, hafter⟩ := ih (w := (w.perform action).2) hmore
      rw [hstep, Cursor.rest_forward_of_append hrest] at htail
      constructor
      · rw [passed, ← hrest]
        exact (List.prefix_append_right_inj _).2 htail
      · rw [after_cons, hafter, hstep, Cursor.forward_forward, passed, List.length_append]

/-- Between two places of a walk that has not gone back, the part of the text is what the
actions between them have passed. -/
theorem cut_passed
    {source : Text}
    {w : Walk}
    (hwithin : w.Within source)
    {actions : List Action}
    (h : ∀ action ∈ actions, action.isForward = true) :
    w.cursor.rest = w.passed actions ++ (w.after actions).cursor.rest ∧
      (w.after actions).cursor.cut w.cursor.byteOffset (w.after actions).cursor.byteOffset =
        some (w.passed actions) := by
  obtain ⟨⟨behind, hrest⟩, hafter⟩ := cursor_after h
  obtain ⟨before, hbehind⟩ := hwithin.cursor
  have hforward := hbehind.forward (w.passed actions).length
  rw [← hrest, List.take_left, ← hafter] at hforward
  refine ⟨?_, Cursor.cut_eq_some_iff.2 ⟨before, behind, ?_, ?_, ?_⟩⟩
  · rw [hafter, Cursor.rest_forward_of_append hrest, hrest]
  · rw [hforward.source_eq, ← hbehind.append_rest, ← hrest, List.append_assoc]
  · exact hbehind.byteOffset_eq.symm
  · exact hforward.byteOffset_eq.symm

/-- Runs are longest, and cuts are exact, wherever a walk has led.

A run is the longest beginning of what is still to come that satisfies `p`.  The cursor behind
it has passed its characters one by one, and the run is the part of the text between the two
places.  The rest of a line is the run of characters other than a line feed.

A part can be cut out between boundaries that are in order, and only there; it is the part
between the texts that have as many bytes.  So parts that meet make up one part, and what
actions pass that do not go back is the part between the places before and after them. -/
theorem runs_and_cuts
    (source : Text)
    (actions : List Action) :
    let w := (ofText source).after actions
    let k := w.cursor
    (∀ p : Char → Bool,
      let run := (k.passWhile p).1
      let behind := (k.passWhile p).2
      Text.LongestRun p (source.drop k.charOffset) run ∧
        behind = k.forward run.length ∧
        (∀ c, behind.next? = some c → p c = false) ∧
        k.cut k.byteOffset behind.byteOffset = some run) ∧
      k.passLine = k.passWhile (fun c => c != '\n') ∧
      (∀ first last,
        (k.cut first last).isSome = true ↔
          first ≤ last ∧
            last ≤ source.byteSize ∧
            source.isBoundary first = true ∧
            source.isBoundary last = true) ∧
      (∀ first last part,
        k.cut first last = some part ↔
          ∃ before behind,
            source = before ++ part ++ behind ∧
              Text.byteSize before = first ∧
              Text.byteSize (before ++ part) = last) ∧
      (∀ first middle last s t,
        k.cut first middle = some s →
          k.cut middle last = some t →
          k.cut first last = some (s ++ t)) ∧
      ∀ more,
        (∀ action ∈ more, action.isForward = true) →
          let l := (w.after more).cursor
          k.rest = w.passed more ++ l.rest ∧
            l.cut k.byteOffset l.byteOffset = some (w.passed more) := by
  intro w k
  have hwithin : w.Within source := (within_ofText source).after actions
  obtain ⟨passed, hbehind⟩ := hwithin.cursor
  have hsource : k.source = source := hbehind.source_eq
  refine ⟨?_, rfl, ?_, ?_, ?_, ?_⟩
  · intro p run behind
    refine ⟨?_, ?_, k.endsRun_passWhile p, hbehind.cut_passWhile p⟩
    · rw [← hbehind.rest_eq_drop]
      exact k.longestRun_passWhile p
    · change (k.passWhile p).2 = k.forward (k.passWhile p).1.length
      rw [Cursor.passWhile_eq]
  · intro first last
    rw [← hsource]
    exact Cursor.isSome_cut_iff
  · intro first last part
    rw [← hsource]
    exact Cursor.cut_eq_some_iff
  · intro first middle last s t
    exact Cursor.cut_append_cut
  · intro more hmore
    exact cut_passed hwithin hmore

theorem runs_and_cuts_accent :
    let source := "éa1\nb".toList
    let w := (ofText source).after [.save, .passLine, .restore, .pass]
    let k := w.cursor
    let more := [Action.next, .passWhile Char.isAlpha, .save, .pass]
    (k.cut 1 2).isSome = false ∧
      k.cut 0 2 = some ['é'] ∧
      k.cut 2 4 = some ['a', '1'] ∧
      k.cut 0 4 = some ['é', 'a', '1'] ∧
      (∀ action ∈ more, action.isForward = true) ∧
      w.passed more = ['a', '1'] ∧
      (w.after more).cursor.cut k.byteOffset (w.after more).cursor.byteOffset =
        some ['a', '1'] := by
  intro source w k more
  obtain ⟨-, -, hsome, hcut, hjoin, hforward⟩ :=
    runs_and_cuts source [.save, .passLine, .restore, .pass]
  have hinside : ¬ (k.cut 1 2).isSome = true := by
    rw [hsome]
    decide
  have hfront : k.cut 0 2 = some ['é'] :=
    (hcut 0 2 ['é']).2 ⟨[], ['a', '1', '\n', 'b'], by decide, by decide, by decide⟩
  have hmiddle : k.cut 2 4 = some ['a', '1'] :=
    (hcut 2 4 ['a', '1']).2 ⟨['é'], ['\n', 'b'], by decide, by decide, by decide⟩
  have hmore : ∀ action ∈ more, action.isForward = true := by
    simp [more, Action.isForward]
  have hpassed : w.passed more = ['a', '1'] := by
    decide +kernel
  refine ⟨Bool.eq_false_iff.2 hinside, hfront, hmiddle, hjoin 0 2 4 _ _ hfront hmiddle, hmore,
    hpassed, ?_⟩
  rw [← hpassed]
  exact (hforward more hmore).2

end Walk
end ContractLexer
