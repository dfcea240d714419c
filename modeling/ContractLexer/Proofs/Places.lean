import ContractLexer.Proofs.Positions

/-!
# Places in a text

A cursor counts bytes, characters, lines and columns.  Here the four are bounded by one
another and by the length of the text, and the positions that a cursor has passed are
shown to be ends of characters, so that a part of the text can be cut out between any two
of them.

**Results.**
* `Location.Reached.after`: a line and a column together grow by at most one with every
  character.
* `Text.splitAtByte_append`: a text can be cut at the end of each of its characters.
* `Cursor.Behind.eq_forward`: a cursor stands where its text has been passed to.
* `Cursor.Behind.cut_rest`, `Cursor.Behind.cut_forward`: what is still to come, and what a
  cursor passes on its way, are parts of the text.
-/

namespace ContractLexer

namespace Text

/-- A character takes at most four bytes. -/
theorem byteSize_le_length
    (t : Text) :
    t.byteSize ≤ 4 * t.length := by
  induction t with
  | nil =>
      exact Nat.le_refl 0
  | cons c t ih =>
      have hc := c.utf8Size_le_four
      rw [byteSize_cons, List.length_cons]
      omega

/-- A text can be cut at the end of each of its characters. -/
theorem splitAtByte_append
    (s t : Text) :
    splitAtByte s.byteSize (s ++ t) = some (s, t) := by
  induction s with
  | nil =>
      rw [byteSize_nil, List.nil_append, splitAtByte]
  | cons c s ih =>
      have hc := c.utf8Size_pos
      obtain ⟨n, hn⟩ : ∃ n, c.utf8Size + byteSize s = n + 1 :=
        Nat.exists_eq_add_one.2 (by omega)
      have htail : n + 1 - c.utf8Size = byteSize s := by
        omega
      rw [byteSize_cons, hn, List.cons_append, splitAtByte, if_pos (by omega), htail, ih]
      rfl

end Text

namespace Location

/-- The location may be reached behind `n` characters. -/
structure Reached (n : Nat) (l : Location) : Prop where
  one_le_line : 1 ≤ l.line
  one_le_column : 1 ≤ l.column
  line_add_column_le : l.line + l.column ≤ n + 2

theorem reached_start :
    start.Reached 0 := by
  exact ⟨Nat.le_refl 1, Nat.le_refl 1, Nat.le_refl 2⟩

/-- A character adds one to the line or to the column. -/
theorem Reached.step
    {n : Nat}
    {l : Location}
    (h : l.Reached n)
    (c : Char) :
    (l.step c).Reached (n + 1) := by
  obtain ⟨hline, hcolumn, hsum⟩ := h
  unfold Location.step
  split
  · -- A line feed sets the column back to one, which is no more than it was.
    constructor <;> simp only <;> omega
  · constructor <;> simp only <;> omega

theorem Reached.after
    {n : Nat}
    {l : Location}
    (h : l.Reached n)
    (t : Text) :
    (l.after t).Reached (n + t.length) := by
  induction t generalizing l n with
  | nil =>
      exact h
  | cons c t ih =>
      have htail := ih (h.step c)
      rw [List.length_cons, after_cons]
      rwa [Nat.add_right_comm] at htail

theorem column_after
    {l : Location}
    {t : Text}
    (h : '\n' ∉ t) :
    (l.after t).column = l.column + t.length := by
  rw [l.after_of_no_lineFeed h]

end Location

namespace Cursor

theorem forward_forward
    (m n : Nat)
    (k : Cursor) :
    forward n (forward m k) = forward (m + n) k := by
  induction m generalizing k with
  | zero =>
      rw [Nat.zero_add]
      rfl
  | succ m ih =>
      rw [Nat.succ_add]
      exact ih k.advance

theorem rest_forward_of_append
    {k : Cursor}
    {part behind : Text}
    (h : part ++ behind = k.rest) :
    (forward part.length k).rest = behind := by
  rw [rest_forward, ← h, List.drop_left]

/-- The part in the middle of a text is cut out by the bytes in front of it and its own. -/
theorem cut_append
    {k : Cursor}
    {before part behind : Text}
    (h : k.source = before ++ (part ++ behind)) :
    k.cut before.byteSize (before.byteSize + part.byteSize) = some part := by
  rw [cut, if_pos (Nat.le_add_right _ _), h, Text.splitAtByte_append, Nat.add_sub_cancel_left]
  change ((Text.splitAtByte part.byteSize (part ++ behind)).bind fun parts => some parts.1) = _
  rw [Text.splitAtByte_append]
  rfl

theorem Behind.reached
    {source passed : Text}
    {k : Cursor}
    (h : k.Behind source passed) :
    k.location.Reached k.charOffset := by
  rw [h.location_eq, h.charOffset_eq]
  have hreached := Location.reached_start.after passed
  rwa [Nat.zero_add] at hreached

/-- The text passed tells where a cursor stands. -/
theorem Behind.eq_of_behind
    {source passed : Text}
    {k l : Cursor}
    (hk : k.Behind source passed)
    (hl : l.Behind source passed) :
    k = l := by
  have hrest : k.rest = l.rest :=
    List.append_cancel_left (hk.append_rest.trans hl.append_rest.symm)
  cases k
  cases l
  congr 1
  · exact hk.source_eq.trans hl.source_eq.symm
  · exact hk.byteOffset_eq.trans hl.byteOffset_eq.symm
  · exact hk.charOffset_eq.trans hl.charOffset_eq.symm
  · exact hk.location_eq.trans hl.location_eq.symm

theorem Behind.eq_forward
    {source passed : Text}
    {k : Cursor}
    (h : k.Behind source passed) :
    k = Cursor.forward passed.length (ofText source) := by
  have hforward := (behind_ofText source).forward passed.length
  have hpassed : (ofText source).rest.take passed.length = passed := by
    change source.take passed.length = passed
    rw [← h.append_rest, List.take_left]
  rw [hpassed, List.nil_append] at hforward
  exact h.eq_of_behind hforward

theorem Behind.byteSize_eq
    {source passed : Text}
    {k : Cursor}
    (h : k.Behind source passed) :
    source.byteSize = k.byteOffset + k.rest.byteSize := by
  rw [← h.append_rest, Text.byteSize_append, h.byteOffset_eq]

theorem Behind.length_eq
    {source passed : Text}
    {k : Cursor}
    (h : k.Behind source passed) :
    source.length = k.charOffset + k.rest.length := by
  rw [← h.append_rest, List.length_append, h.charOffset_eq]

theorem Behind.byteOffset_le_forward
    {source passed : Text}
    {k : Cursor}
    (h : k.Behind source passed)
    (n : Nat) :
    k.byteOffset ≤ (Cursor.forward n k).byteOffset := by
  rw [(h.forward n).byteOffset_eq, Text.byteSize_append, h.byteOffset_eq]
  exact Nat.le_add_right _ _

/-- What is still to come is the part from the cursor to the end. -/
theorem Behind.cut_rest
    {source passed : Text}
    {k : Cursor}
    (h : k.Behind source passed) :
    k.cut k.byteOffset source.byteSize = some k.rest := by
  have hsource : k.source = passed ++ (k.rest ++ []) := by
    rw [List.append_nil, h.append_rest, h.source_eq]
  rw [h.byteSize_eq, h.byteOffset_eq]
  exact cut_append hsource

/-- What a cursor passes is the part from where it was to where it is. -/
theorem Behind.cut_forward
    {source passed : Text}
    {k : Cursor}
    (h : k.Behind source passed)
    (n : Nat) :
    k.cut k.byteOffset (Cursor.forward n k).byteOffset = some (k.rest.take n) := by
  have hsource : k.source = passed ++ (k.rest.take n ++ k.rest.drop n) := by
    rw [List.take_append_drop, h.append_rest, h.source_eq]
  rw [(h.forward n).byteOffset_eq, Text.byteSize_append, h.byteOffset_eq]
  exact cut_append hsource

end Cursor
end ContractLexer
