import ContractLexer.Guarded.Cursor
import ContractLexer.Proofs.Places

/-!
# Steps of a guarded cursor

A cursor carries the text that is still to come and counts without a limit.  A guarded
cursor has neither.  Here each of its steps is shown to do what the same step of a cursor
does, and to fail at nothing, as long as the text has at most `2 ^ 32 - 2` characters.

The bound is used in one place only, where a character is passed: there a line or a column
grows by one, and both together have grown by one for every character.

**Results.**
* `Cursor.Fits.advance_guarded`: passing a character.
* `Cursor.Fits.passWhile_guarded`: passing a run, which is then cut out of the text.
* `Cursor.Behind.advance_overflows`: with a character more, passing it may fail.
-/

namespace ContractLexer

namespace Guarded

/-- What follows a step that does not fail goes on with its result. -/
@[simp] theorem ok_bind
    {α β : Type}
    (a : α)
    (f : α → Except Fault β) :
    (Except.ok a >>= f) = f a := by
  rfl

@[simp] theorem error_bind
    {α β : Type}
    (fault : Fault)
    (f : α → Except Fault β) :
    (Except.error fault >>= f) = .error fault := by
  rfl

@[simp] theorem pure_eq_ok
    {α : Type}
    (a : α) :
    (pure a : Except Fault α) = .ok a := by
  rfl

theorem lineLimit_eq :
    lineLimit = 4294967296 := by
  rfl

theorem sizeLimit_eq :
    sizeLimit = 18446744073709551616 := by
  rfl

theorem add_eq_ok
    {limit a b : Nat}
    (h : a + b < limit) :
    add limit a b = .ok (a + b) := by
  rw [add, if_pos h]

end Guarded

namespace Cursor

/-- The counters of a cursor, without the text that is still to come. -/
def guarded (k : Cursor) : Guarded.Cursor :=
  { source := k.source
    position := k.byteOffset
    offset := k.charOffset
    line := k.location.line
    column := k.location.column }

/-- The cursor stands in its text, and the text is small enough for the counters. -/
structure Fits (k : Cursor) : Prop where
  exists_behind : ∃ passed, k.Behind k.source passed
  length_le : k.source.length ≤ Guarded.lineLimit - 2

theorem Behind.fits
    {source passed : Text}
    {k : Cursor}
    (h : k.Behind source passed)
    (hlength : source.length ≤ Guarded.lineLimit - 2) :
    k.Fits := by
  obtain rfl := h.source_eq
  exact ⟨⟨passed, h⟩, hlength⟩

theorem Behind.rest_guarded
    {source passed : Text}
    {k : Cursor}
    (h : k.Behind source passed) :
    k.guarded.rest = .ok k.rest := by
  obtain rfl := h.source_eq
  have hcut : (ofText k.source).cut k.byteOffset k.source.byteSize = some k.rest :=
    h.cut_rest
  simp only [Guarded.Cursor.rest, Guarded.Cursor.cut, guarded, hcut]

namespace Fits

theorem forward
    {k : Cursor}
    (h : k.Fits)
    (n : Nat) :
    (Cursor.forward n k).Fits := by
  obtain ⟨passed, hbehind⟩ := h.exists_behind
  exact (hbehind.forward n).fits h.length_le

theorem advance
    {k : Cursor}
    (h : k.Fits) :
    k.advance.Fits := by
  exact h.forward 1

/-! ## Looking ahead -/

theorem rest_guarded
    {k : Cursor}
    (h : k.Fits) :
    k.guarded.rest = .ok k.rest := by
  obtain ⟨passed, hbehind⟩ := h.exists_behind
  exact hbehind.rest_guarded

theorem next?_guarded
    {k : Cursor}
    (h : k.Fits) :
    k.guarded.next? = .ok k.next? := by
  rw [Guarded.Cursor.next?, h.rest_guarded]
  rfl

theorem second?_guarded
    {k : Cursor}
    (h : k.Fits) :
    k.guarded.second? = .ok k.second? := by
  rw [Guarded.Cursor.second?, h.rest_guarded]
  rfl

/-! ## Passing a character -/

/-- Passing a character fails at nothing. -/
theorem advance_guarded
    {k : Cursor}
    (h : k.Fits) :
    k.guarded.advance = .ok (k.next?, k.advance.guarded) := by
  obtain ⟨passed, hbehind⟩ := h.exists_behind
  have hbound := h.length_le
  rw [Guarded.lineLimit_eq] at hbound
  have hlength := hbehind.length_eq
  have hsize := hbehind.byteSize_eq
  have hbytes := Text.byteSize_le_length k.source
  obtain ⟨hline, hcolumn, hsum⟩ := hbehind.reached
  rw [Guarded.Cursor.advance, h.next?_guarded]
  cases hrest : k.rest with
  | nil =>
      simp [Cursor.next?, Cursor.advance, hrest]
  | cons c rest =>
      rw [hrest, List.length_cons] at hlength
      rw [hrest, Text.byteSize_cons] at hsize
      have hposition : Guarded.add Guarded.sizeLimit k.byteOffset c.utf8Size = .ok _ :=
        Guarded.add_eq_ok (by rw [Guarded.sizeLimit_eq]; omega)
      have hoffset : Guarded.add Guarded.sizeLimit k.charOffset 1 = .ok _ :=
        Guarded.add_eq_ok (by rw [Guarded.sizeLimit_eq]; omega)
      have hlineStep : Guarded.add Guarded.lineLimit k.location.line 1 = .ok _ :=
        Guarded.add_eq_ok (by rw [Guarded.lineLimit_eq]; omega)
      have hcolumnStep : Guarded.add Guarded.lineLimit k.location.column 1 = .ok _ :=
        Guarded.add_eq_ok (by rw [Guarded.lineLimit_eq]; omega)
      by_cases hc : c = '\n'
      · subst hc
        simp [Cursor.next?, Cursor.advance, hrest, guarded, hposition, hoffset, hlineStep,
          Location.step]
      · simp [Cursor.next?, Cursor.advance, hrest, guarded, hposition, hoffset, hcolumnStep, hc,
          Location.step]

/-- The bytes that are left are those of the text that is still to come. -/
theorem left_guarded
    {k : Cursor}
    (h : k.Fits) :
    k.guarded.left = k.rest.byteSize := by
  obtain ⟨passed, hbehind⟩ := h.exists_behind
  have hsize := hbehind.byteSize_eq
  simp only [Guarded.Cursor.left, guarded]
  omega

theorem left_forward_lt
    {k : Cursor}
    (h : k.Fits)
    {n : Nat}
    (hn : 0 < n)
    (hrest : k.rest ≠ []) :
    (Cursor.forward n k).guarded.left < k.guarded.left := by
  rw [h.left_guarded, (h.forward n).left_guarded, rest_forward]
  cases hcons : k.rest with
  | nil =>
      exact absurd hcons hrest
  | cons c rest =>
      obtain ⟨m, rfl⟩ := Nat.exists_eq_add_one.2 hn
      have hc := c.utf8Size_pos
      have hsplit := Text.byteSize_append (rest.take m) (rest.drop m)
      rw [List.take_append_drop] at hsplit
      rw [List.drop_succ_cons, Text.byteSize_cons]
      omega

/-! ## Passing a run -/

/-- The loop over a run stops behind the run, and each of its rounds passes a
character. -/
theorem skipWhile_guarded
    {k : Cursor}
    (h : k.Fits)
    (p : Char → Bool) :
    k.guarded.skipWhile p = .ok (Cursor.forward (k.rest.takeWhile p).length k).guarded := by
  generalize hrest : k.rest = text
  induction text generalizing k with
  | nil =>
      rw [Guarded.Cursor.skipWhile, h.next?_guarded, Cursor.next?, hrest]
      rfl
  | cons c text ih =>
      rw [Guarded.Cursor.skipWhile, h.next?_guarded, Cursor.next?, hrest]
      cases hc : p c with
      | false =>
          simp [hc, Cursor.forward]
      | true =>
          have hleft : k.advance.guarded.left < k.guarded.left :=
            h.left_forward_lt Nat.one_pos (by simp [hrest])
          have htail := ih h.advance (by simp [hrest])
          simp [hc, h.advance_guarded, hleft, htail, Cursor.forward]

/-- The part between two places of a cursor can be cut out at the later one. -/
theorem cut_guarded
    {k : Cursor}
    (h : k.Fits)
    {part behind : Text}
    (hrest : part ++ behind = k.rest) :
    (Cursor.forward part.length k).guarded.cut k.byteOffset
        (Cursor.forward part.length k).byteOffset =
      .ok part := by
  obtain ⟨passed, hbehind⟩ := h.exists_behind
  have hsource := (hbehind.forward part.length).source_eq
  have hcut : (ofText k.source).cut k.byteOffset (Cursor.forward part.length k).byteOffset =
      some (k.rest.take part.length) :=
    hbehind.cut_forward part.length
  rw [← hrest, List.take_left] at hcut
  simp only [Guarded.Cursor.cut, guarded, hsource, hcut]

/-- Passing a run fails at nothing, and the part that is cut out is the run. -/
theorem passWhile_guarded
    {k : Cursor}
    (h : k.Fits)
    (p : Char → Bool) :
    k.guarded.passWhile p =
      .ok (k.rest.takeWhile p, (Cursor.forward (k.rest.takeWhile p).length k).guarded) := by
  have hcut := h.cut_guarded (List.takeWhile_append_dropWhile (p := p) (l := k.rest))
  rw [Guarded.Cursor.passWhile, h.skipWhile_guarded, Guarded.ok_bind]
  change (Guarded.Cursor.cut _ k.byteOffset (Cursor.forward _ k).byteOffset >>= _) = _
  rw [hcut]
  rfl

end Fits

/-! ## The bound -/

/-- The bound is sharp: on a single line, no character can be passed behind the first
`2 ^ 32 - 2`. -/
theorem Behind.advance_overflows
    {source passed : Text}
    {k : Cursor}
    (h : k.Behind source passed)
    (hline : '\n' ∉ source)
    (hpassed : Guarded.lineLimit - 2 ≤ passed.length)
    (hrest : k.rest ≠ []) :
    k.guarded.advance = .error .overflow := by
  obtain ⟨c, rest, hcons⟩ := List.exists_cons_of_ne_nil hrest
  rw [← h.append_rest, hcons, List.mem_append, List.mem_cons, not_or, not_or] at hline
  obtain ⟨hbefore, hc, -⟩ := hline
  have hcolumn : ¬ k.location.column + 1 < Guarded.lineLimit := by
    rw [h.location_eq, Location.column_after hbefore]
    change ¬ 1 + passed.length + 1 < Guarded.lineLimit
    rw [Guarded.lineLimit_eq] at hpassed ⊢
    omega
  rw [Guarded.Cursor.advance, Guarded.Cursor.next?, h.rest_guarded, hcons]
  -- Should the sums before fail as well, they fail in the same way.
  by_cases hposition : k.byteOffset + c.utf8Size < Guarded.sizeLimit
  · by_cases hoffset : k.charOffset + 1 < Guarded.sizeLimit
    · simp [guarded, Guarded.add, hposition, hoffset, hcolumn, Ne.symm hc]
    · simp [guarded, Guarded.add, hposition, hoffset]
  · simp [guarded, Guarded.add, hposition]

end Cursor
end ContractLexer
