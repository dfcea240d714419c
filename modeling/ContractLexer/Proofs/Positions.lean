import ContractLexer.Cursor.Basic
import Mathlib.Data.List.Induction

/-!
# Positions in a text

A location is reached by stepping through a text one character at a time.  Here it
is given by counting instead: the line feeds of the text, and the characters behind
the last of them.

**Results.**
* `Location.after_start_eq_counted`: the location reached after a text is the
  counted one.
* `Location.compare_after_eq_lt`: locations grow along a text.
* `Cursor.Behind.forward`: a cursor that moves on carries the measures of the text
  that it has passed.
-/

namespace ContractLexer

namespace Location

/-- The location behind a text, by counting its line feeds and the characters
behind the last of them. -/
def counted (t : Text) : Location where
  line := 1 + t.count '\n'
  column := 1 + (t.reverse.takeWhile fun c => c != '\n').length

theorem counted_concat
    (t : Text)
    (c : Char) :
    counted (t ++ [c]) = (counted t).step c := by
  by_cases hc : c = '\n'
  · subst hc
    simp [counted, step, Nat.add_assoc]
  · have hother : (c != '\n') = true := by
      simpa using hc
    simp [counted, step, hc, hother, Nat.add_assoc]

/-- The location reached after a text is the counted one. -/
theorem after_start_eq_counted
    (t : Text) :
    start.after t = counted t := by
  induction t using List.reverseRecOn with
  | nil =>
      rfl
  | append_singleton t c ih =>
      rw [after_append, ih, counted_concat]
      rfl

/-- On a single line every character takes one column. -/
theorem after_of_no_lineFeed
    (l : Location)
    {t : Text}
    (h : '\n' ∉ t) :
    l.after t = { line := l.line, column := l.column + t.length } := by
  induction t generalizing l with
  | nil =>
      rfl
  | cons c t ih =>
      rw [List.mem_cons, not_or] at h
      rw [after_cons, ih _ h.2, step, if_neg (Ne.symm h.1)]
      simp only [List.length_cons, mk.injEq, true_and]
      omega

/-! ## The order of locations -/

theorem compare_eq_lt_iff
    {a b : Location} :
    compare a b = .lt ↔
      a.line < b.line ∨ (a.line = b.line ∧ a.column < b.column) := by
  change (compare a.line b.line).then (compare a.column b.column) = .lt ↔ _
  rw [Ordering.then_eq_lt, Nat.compare_eq_lt, Nat.compare_eq_eq, Nat.compare_eq_lt]

/-- A character moves the location up. -/
theorem compare_step_eq_lt
    (l : Location)
    (c : Char) :
    compare l (l.step c) = .lt := by
  rw [compare_eq_lt_iff]
  by_cases hc : c = '\n' <;> simp [step, hc]

theorem compare_eq_lt_trans
    {a b c : Location}
    (hab : compare a b = .lt)
    (hbc : compare b c = .lt) :
    compare a c = .lt := by
  rw [compare_eq_lt_iff] at hab hbc ⊢
  omega

/-- A text that is not empty moves the location up. -/
theorem compare_after_eq_lt
    (l : Location)
    {t : Text}
    (ht : t ≠ []) :
    compare l (l.after t) = .lt := by
  induction t generalizing l with
  | nil =>
      exact absurd rfl ht
  | cons c t ih =>
      have hstep := compare_step_eq_lt l c
      by_cases htail : t = []
      · subst htail
        exact hstep
      · exact compare_eq_lt_trans hstep (ih (l.step c) htail)

end Location

/-! ## Where a cursor stands -/

namespace Cursor

/-- The cursor stands in `source` behind the part `passed` of it, and its measures
are those of that part. -/
structure Behind (source passed : Text) (k : Cursor) : Prop where
  source_eq : k.source = source
  append_rest : passed ++ k.rest = source
  byteOffset_eq : k.byteOffset = passed.byteSize
  charOffset_eq : k.charOffset = passed.length
  location_eq : k.location = Location.start.after passed

theorem behind_ofText
    (source : Text) :
    (ofText source).Behind source [] := by
  exact ⟨rfl, rfl, rfl, rfl, rfl⟩

namespace Behind

/-- One character further. -/
theorem advance
    {source passed : Text}
    {k : Cursor}
    (h : k.Behind source passed) :
    k.advance.Behind source (passed ++ k.rest.take 1) := by
  obtain ⟨hsource, hrest, hbyte, hchar, hlocation⟩ := h
  unfold Cursor.advance
  split
  · next hend =>
      rw [hend, List.take_nil, List.append_nil]
      exact ⟨hsource, hrest, hbyte, hchar, hlocation⟩
  · next c rest hcons =>
      rw [hcons] at hrest
      constructor
      · exact hsource
      · simpa [hcons] using hrest
      · simp [hcons, hbyte]
      · simp [hcons, hchar]
      · simp [hcons, hlocation]

/-- Any number of characters further. -/
theorem forward
    {source passed : Text}
    {k : Cursor}
    (h : k.Behind source passed)
    (n : Nat) :
    (Cursor.forward n k).Behind source (passed ++ k.rest.take n) := by
  induction n generalizing k passed with
  | zero =>
      simpa [Cursor.forward] using h
  | succ n ih =>
      have htail := ih h.advance
      have hsplit : k.rest.take 1 ++ k.advance.rest.take n = k.rest.take (n + 1) := by
        cases hrest : k.rest <;> simp [hrest]
      rw [List.append_assoc, hsplit] at htail
      exact htail

end Behind
end Cursor
end ContractLexer
