import ContractLexer.Cursor.Walk
import ContractLexer.Proofs.Cuts

/-!
# Where a walk leads

A cursor has four counters, and a walk moves it forward by single characters and by runs, or
sets it back to a copy.  Here it is shown that the counters agree at every place that a walk
can reach: each of them counts the same part of the text, the one that lies before the cursor.

So any two places of a text are told apart, and put in the same order, by the characters, by
the bytes, and by the lines and columns before them.

**Contents.**  The walk after a list of actions, and the text that an action passes.

**Results.**
* `Cursor.passWhile_eq`: passing a run is passing its characters one by one.
* `Walk.perform_snd`: what one action does to a walk.
* `Walk.Within.after`: no walk leaves the text.
* `Walk.counters_agree`: the counters of a cursor, wherever a walk has led it.
* `Walk.compare_locations`: the order of locations is the order of the text.
-/

namespace ContractLexer

/-! ## The order of places -/

instance : Std.OrientedOrd Location where
  eq_swap {a b} := by
    change (compare a.line b.line).then (compare a.column b.column) =
      ((compare b.line a.line).then (compare b.column a.column)).swap
    rw [Ordering.swap_then, Nat.compare_swap, Nat.compare_swap]

/-- A measure of texts that grows with every character puts the beginnings of a text in the
order of their length. -/
theorem Text.compare_eq_compare_length
    {β : Type}
    [Ord β]
    [Std.OrientedOrd β]
    {measure : Text → β}
    (hgrows : ∀ s t : Text, t ≠ [] → compare (measure s) (measure (s ++ t)) = .lt)
    {source s t : Text}
    (hs : s <+: source)
    (ht : t <+: source) :
    compare (measure s) (measure t) = compare s.length t.length := by
  -- It is enough to compare a text with one that goes on behind it.
  have hlonger : ∀ s t : Text,
      compare (measure s) (measure (s ++ t)) = compare s.length (s ++ t).length := by
    intro s t
    by_cases hnil : t = []
    · subst hnil
      rw [List.append_nil, Std.ReflOrd.compare_self, Std.ReflOrd.compare_self]
    · have hlength := List.length_pos_iff.2 hnil
      rw [hgrows s t hnil, List.length_append, eq_comm, Nat.compare_eq_lt]
      omega
  rcases List.prefix_or_prefix_of_prefix hs ht with ⟨more, rfl⟩ | ⟨more, rfl⟩
  · exact hlonger s more
  · rw [Std.OrientedOrd.eq_swap, hlonger t more, ← Std.OrientedOrd.eq_swap]

/-! ## Cursors -/

namespace Cursor

/-- Passing a run is passing its characters one by one. -/
theorem passWhile_eq
    (p : Char → Bool)
    (k : Cursor) :
    k.passWhile p = (k.rest.takeWhile p, k.forward (k.rest.takeWhile p).length) := by
  fun_induction passWhile p k with
  | case1 k hrest =>
      simp [hrest, forward]
  | case2 k c rest hrest hc tail ih =>
      rw [rest_advance, hrest, List.tail_cons] at ih
      simp [tail, ih, hrest, hc, forward]
  | case3 k c rest hrest hc =>
      simp [hrest, hc, forward]

namespace Behind

variable {source passed : Text} {k : Cursor}

theorem take_charOffset
    (h : k.Behind source passed) :
    source.take k.charOffset = passed := by
  rw [h.charOffset_eq, ← h.append_rest, List.take_left]

theorem rest_eq_drop
    (h : k.Behind source passed) :
    k.rest = source.drop k.charOffset := by
  rw [h.charOffset_eq, ← h.append_rest, List.drop_left]

theorem next?_eq_getElem?
    (h : k.Behind source passed) :
    k.next? = source[k.charOffset]? := by
  rw [next?, h.rest_eq_drop, List.head?_drop]

theorem second?_eq_getElem?
    (h : k.Behind source passed) :
    k.second? = source[k.charOffset + 1]? := by
  rw [second?, h.rest_eq_drop, List.tail_drop, List.head?_drop]

/-- No byte is left exactly when no character is. -/
theorem byteSize_le_iff
    (h : k.Behind source passed) :
    source.byteSize ≤ k.byteOffset ↔ k.rest = [] := by
  rw [← Text.byteSize_eq_zero_iff, h.byteSize_eq]
  omega

theorem isBoundary_byteOffset
    (h : k.Behind source passed) :
    source.isBoundary k.byteOffset = true := by
  exact Text.isBoundary_iff.2 ⟨passed, k.rest, h.append_rest, h.byteOffset_eq.symm⟩

end Behind
end Cursor

/-! ## Walks -/

/-- The text that an action passes, as its answer gives it. -/
def Action.passed : Action → Answer → Text
  | .pass, .char c => c.toList
  | .passWhile _, .text t => t
  | .passLine, .text t => t
  | _, _ => []

namespace Walk

/-- The walk after a list of actions. -/
def after (w : Walk) (actions : List Action) : Walk :=
  ((w.run actions).map Prod.snd).getLastD w

@[simp] theorem after_nil
    (w : Walk) :
    w.after [] = w := by
  rfl

@[simp] theorem after_cons
    (w : Walk)
    (action : Action)
    (actions : List Action) :
    w.after (action :: actions) = (w.perform action).2.after actions := by
  rw [after, run, List.map_cons, List.getLastD_cons]
  rfl

/-- The text that an action passes is the beginning of what is still to come. -/
theorem passed_prefix_rest
    (w : Walk)
    (action : Action) :
    action.passed (w.perform action).1 <+: w.cursor.rest := by
  cases action with
  | pass =>
      cases hrest : w.cursor.rest <;> simp [perform, Action.passed, Cursor.next?, hrest]
  | passWhile p =>
      rw [perform, Cursor.passWhile_eq]
      exact List.takeWhile_prefix p
  | passLine =>
      rw [perform, Cursor.passLine, Cursor.passWhile_eq]
      exact List.takeWhile_prefix _
  | next | second | cut | save | restore | cutSaved =>
      exact List.nil_prefix

/-- What an action does to a walk: it sets a copy aside, goes back to the copy, or moves
forward over the text that it passes. -/
theorem perform_snd
    (w : Walk)
    (action : Action) :
    (w.perform action).2 =
      match action with
      | .save => { w with saved := w.cursor }
      | .restore => { w with cursor := w.saved }
      | action =>
          { w with
            cursor := w.cursor.forward (action.passed (w.perform action).1).length } := by
  cases action with
  | save | restore | next | second | cut | cutSaved =>
      rfl
  | pass =>
      cases hrest : w.cursor.rest <;>
        simp [perform, Action.passed, Cursor.next?, hrest, Cursor.forward, Cursor.advance]
  | passWhile p =>
      simp only [perform, Cursor.passWhile_eq, Action.passed]
  | passLine =>
      simp only [perform, Cursor.passLine, Cursor.passWhile_eq, Action.passed]

/-- The cursor of a walk and the copy both stand in the text. -/
structure Within (source : Text) (w : Walk) : Prop where
  cursor : ∃ passed, w.cursor.Behind source passed
  saved : ∃ passed, w.saved.Behind source passed

theorem within_ofText
    (source : Text) :
    (ofText source).Within source := by
  exact ⟨⟨[], Cursor.behind_ofText source⟩, ⟨[], Cursor.behind_ofText source⟩⟩

/-- No action leaves the text. -/
theorem Within.perform
    {source : Text}
    {w : Walk}
    (h : w.Within source)
    (action : Action) :
    (w.perform action).2.Within source := by
  rw [perform_snd]
  cases action with
  | save =>
      exact ⟨h.cursor, h.cursor⟩
  | restore =>
      exact ⟨h.saved, h.saved⟩
  | next | second | pass | passWhile | passLine | cut | cutSaved =>
      obtain ⟨passed, hbehind⟩ := h.cursor
      exact ⟨⟨_, hbehind.forward _⟩, h.saved⟩

/-- No walk leaves the text. -/
theorem Within.after
    {source : Text}
    {w : Walk}
    (h : w.Within source)
    (actions : List Action) :
    (w.after actions).Within source := by
  induction actions generalizing w with
  | nil =>
      exact h
  | cons action actions ih =>
      rw [after_cons]
      exact ih (h.perform action)

/-- Wherever a walk has led, the cursor stands behind some part of the text. -/
theorem exists_behind_after
    (source : Text)
    (actions : List Action) :
    ∃ passed, ((ofText source).after actions).cursor.Behind source passed := by
  exact ((within_ofText source).after actions).cursor

/-- The counters of a cursor agree wherever a walk has led it.  It has passed the beginning of
the text that has as many characters as it has counted: so many bytes, lines and columns has
it counted too.  The characters that it sees next are those that follow in the text, and it is
at the end when all characters, or all bytes, have been passed. -/
theorem counters_agree
    (source : Text)
    (actions : List Action) :
    let k := ((ofText source).after actions).cursor
    let passed : Text := source.take k.charOffset
    k.charOffset ≤ source.length ∧
      k.byteOffset = passed.byteSize ∧
      source.isBoundary k.byteOffset = true ∧
      k.location.line = 1 + passed.count '\n' ∧
      k.location.column = 1 + (passed.reverse.takeWhile fun c => c != '\n').length ∧
      k.next? = source[k.charOffset]? ∧
      k.second? = source[k.charOffset + 1]? ∧
      k.cut k.byteOffset source.byteSize = some (source.drop k.charOffset) ∧
      (k.atEnd = true ↔ k.next? = none) ∧
      (k.atEnd = true ↔ k.charOffset = source.length) ∧
      (k.atEnd = true ↔ source.byteSize ≤ k.byteOffset) := by
  intro k
  obtain ⟨passed, h⟩ : ∃ passed, k.Behind source passed := exists_behind_after source actions
  rw [h.take_charOffset]
  have hlength := h.length_eq
  have hcounted : k.location = Location.counted passed :=
    h.location_eq.trans (Location.after_start_eq_counted passed)
  have hempty : k.atEnd = true ↔ k.rest = [] := List.isEmpty_iff
  refine ⟨by omega, h.byteOffset_eq, h.isBoundary_byteOffset, congrArg Location.line hcounted,
    congrArg Location.column hcounted, h.next?_eq_getElem?, h.second?_eq_getElem?, ?_, ?_, ?_, ?_⟩
  · rw [← h.rest_eq_drop]
    exact h.cut_rest
  · rw [hempty, Cursor.next?, List.head?_eq_none_iff]
  · rw [hempty, ← List.length_eq_zero_iff]
    omega
  · rw [hempty, h.byteSize_le_iff]

/-- The order of locations is the order of the text.  Of two cursors that walks have led
through one text, the one with the smaller location has passed fewer characters and fewer
bytes, and if their locations are the same, they stand at the same place. -/
theorem compare_locations
    (source : Text)
    (actions actions' : List Action) :
    let k := ((ofText source).after actions).cursor
    let l := ((ofText source).after actions').cursor
    compare k.location l.location = compare k.charOffset l.charOffset ∧
      compare k.location l.location = compare k.byteOffset l.byteOffset ∧
      (k.location = l.location ↔ k = l) := by
  intro k l
  obtain ⟨passed, hk⟩ : ∃ passed, k.Behind source passed := exists_behind_after source actions
  obtain ⟨passed', hl⟩ : ∃ passed, l.Behind source passed := exists_behind_after source actions'
  have hprefix : passed <+: source := ⟨k.rest, hk.append_rest⟩
  have hprefix' : passed' <+: source := ⟨l.rest, hl.append_rest⟩
  have hlocations : compare k.location l.location = compare k.charOffset l.charOffset := by
    rw [hk.location_eq, hl.location_eq, hk.charOffset_eq, hl.charOffset_eq]
    refine Text.compare_eq_compare_length ?_ hprefix hprefix'
    intro s t ht
    rw [Location.after_append]
    exact Location.compare_after_eq_lt _ ht
  have hbytes : compare k.byteOffset l.byteOffset = compare k.charOffset l.charOffset := by
    rw [hk.byteOffset_eq, hl.byteOffset_eq, hk.charOffset_eq, hl.charOffset_eq]
    refine Text.compare_eq_compare_length ?_ hprefix hprefix'
    intro s t ht
    have hpos := mt Text.byteSize_eq_zero_iff.1 ht
    rw [Nat.compare_eq_lt, Text.byteSize_append]
    omega
  refine ⟨hlocations, hlocations.trans hbytes.symm, ?_⟩
  constructor
  · intro hsame
    rw [hsame, Std.ReflOrd.compare_self, eq_comm, Nat.compare_eq_eq] at hlocations
    have hpassed : passed = passed' := by
      rw [← hk.take_charOffset, ← hl.take_charOffset, hlocations]
    exact hk.eq_of_behind (hpassed ▸ hl)
  · exact congrArg Cursor.location

end Walk
end ContractLexer
