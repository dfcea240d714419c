import ContractLexer.Proofs.ByteForms
import ContractLexer.Proofs.Places
import Mathlib.Data.List.Infix

/-!
# Cutting a text by byte positions

A part of a text is cut out between two byte positions.  This is possible exactly if the
positions are in order, do not lie beyond the end, and do not lie inside a character.  Whether
a position lies inside a character is seen from the byte there alone, without a look at the
bytes before it.

**Contents.**  The byte positions that lie between characters.

**Results.**
* `Text.isBoundary_iff`: the positions between characters are the sizes of the beginnings of
  a text.
* `Text.splitAtByte_eq_some_iff`: a text is cut at the size of a beginning.
* `Cursor.cut_eq_some_iff`, `Cursor.isSome_cut_iff`: which part is cut out, and when there is
  one.
* `Cursor.cut_append_cut`: parts that meet make up the part between their outer ends.
-/

namespace ContractLexer

namespace Text

/-- The byte position lies between two characters or at one of the ends: the byte there does
not continue a character, or there is none because the text ends. -/
def isBoundary (t : Text) (n : Nat) : Bool :=
  match t.bytes[n]? with
  | some b => !Utf8.isContinuation b
  | none => n == t.bytes.length

theorem length_bytes
    (t : Text) :
    t.bytes.length = t.byteSize := by
  induction t with
  | nil =>
      rfl
  | cons c t ih =>
      rw [bytes_cons, List.length_append, String.length_utf8EncodeChar, ih, byteSize_cons]

/-! ## Positions between characters -/

/-- The beginning of a text is a boundary. -/
theorem isBoundary_zero
    (t : Text) :
    t.isBoundary 0 = true := by
  cases t with
  | nil =>
      rfl
  | cons c t =>
      obtain ⟨first, tail, hbytes, hform, -⟩ := Utf8.exists_form c
      simp [isBoundary, hbytes, hform.isContinuation_first]

/-- Inside a character there is no boundary. -/
theorem isBoundary_of_lt
    {c : Char}
    {t : Text}
    {n : Nat}
    (hpos : 0 < n)
    (hlt : n < c.utf8Size) :
    isBoundary (c :: t) n = false := by
  obtain ⟨first, tail, hbytes, hform, -⟩ := Utf8.exists_form c
  have hsize : tail.length + 1 = c.utf8Size := by
    rw [← String.length_utf8EncodeChar, hbytes, List.length_cons]
  obtain ⟨m, rfl⟩ := Nat.exists_eq_add_one.2 hpos
  have hm : m < tail.length := by
    omega
  have hbyte : (bytes (c :: t))[m + 1]? = some tail[m] := by
    rw [bytes_cons, hbytes, List.cons_append, List.getElem?_cons_succ,
      List.getElem?_append_left hm, List.getElem?_eq_getElem hm]
  have hcontinues := hform.isContinuation_of_mem tail[m] (List.getElem_mem hm)
  simp only [isBoundary, hbyte, hcontinues, Bool.not_true]

/-- Behind a character the boundaries are those of the text behind it. -/
theorem isBoundary_cons_add
    (c : Char)
    (t : Text)
    (n : Nat) :
    isBoundary (c :: t) (c.utf8Size + n) = isBoundary t n := by
  have hbyte : (bytes (c :: t))[c.utf8Size + n]? = t.bytes[n]? := by
    rw [bytes_cons, ← String.length_utf8EncodeChar, List.getElem?_append_right (by omega),
      Nat.add_sub_cancel_left]
  have hend : (c.utf8Size + n == (bytes (c :: t)).length) = (n == t.bytes.length) := by
    rw [length_bytes, length_bytes, byteSize_cons, Bool.eq_iff_iff, beq_iff_eq, beq_iff_eq]
    omega
  rw [isBoundary, isBoundary, hbyte, hend]

/-- The boundaries of a text are the sizes of its beginnings. -/
theorem isBoundary_iff
    {t : Text}
    {n : Nat} :
    t.isBoundary n = true ↔ ∃ before behind, before ++ behind = t ∧ byteSize before = n := by
  induction t generalizing n with
  | nil =>
      constructor
      · intro h
        exact ⟨[], [], rfl, (beq_iff_eq.1 h).symm⟩
      · rintro ⟨before, behind, hsplit, rfl⟩
        rw [(List.append_eq_nil_iff.1 hsplit).1]
        rfl
  | cons c t ih =>
      constructor
      · intro h
        rcases Nat.eq_zero_or_pos n with rfl | hpos
        · exact ⟨[], c :: t, rfl, rfl⟩
        rcases Nat.lt_or_ge n c.utf8Size with hlt | hge
        · rw [isBoundary_of_lt hpos hlt] at h
          cases h
        · obtain ⟨m, rfl⟩ := Nat.exists_eq_add_of_le hge
          rw [isBoundary_cons_add, ih] at h
          obtain ⟨before, behind, rfl, rfl⟩ := h
          exact ⟨c :: before, behind, rfl, rfl⟩
      · rintro ⟨before, behind, hsplit, rfl⟩
        cases before with
        | nil =>
            exact isBoundary_zero _
        | cons d before =>
            obtain ⟨rfl, htail⟩ := List.cons.inj hsplit
            rw [byteSize_cons, isBoundary_cons_add, ih]
            exact ⟨before, behind, htail, rfl⟩

/-! ## Cutting at one position -/

theorem splitAtByte_eq_some_iff
    {n : Nat}
    {t before behind : Text} :
    splitAtByte n t = some (before, behind) ↔
      before ++ behind = t ∧ before.byteSize = n := by
  constructor
  · intro h
    fun_induction splitAtByte n t generalizing before with
    | case1 t =>
        cases h
        exact ⟨rfl, rfl⟩
    | case2 n =>
        cases h
    | case3 n c t hle ih =>
        obtain ⟨⟨tail, behind'⟩, hparts, hsame⟩ := Option.map_eq_some_iff.1 h
        cases hsame
        obtain ⟨rfl, hsize⟩ := ih hparts
        refine ⟨rfl, ?_⟩
        rw [byteSize_cons, hsize]
        omega
    | case4 n c t hlt =>
        cases h
  · rintro ⟨rfl, rfl⟩
    exact splitAtByte_append before behind

theorem byteSize_eq_zero_iff
    {t : Text} :
    t.byteSize = 0 ↔ t = [] := by
  cases t with
  | nil =>
      simp
  | cons c t =>
      have hc := c.utf8Size_pos
      simp only [byteSize_cons, reduceCtorEq, iff_false]
      omega

/-- Of two beginnings of a text the one with fewer bytes is a beginning of the other. -/
theorem prefix_of_byteSize_le
    {source s t : Text}
    (hs : s <+: source)
    (ht : t <+: source)
    (hle : s.byteSize ≤ t.byteSize) :
    s <+: t := by
  rcases List.prefix_or_prefix_of_prefix hs ht with hprefix | ⟨more, rfl⟩
  · exact hprefix
  · have hmore : byteSize more = 0 := by
      rw [byteSize_append] at hle
      omega
    rw [byteSize_eq_zero_iff.1 hmore, List.append_nil]

end Text

namespace Cursor

theorem cut_eq_some_iff
    {k : Cursor}
    {first last : Nat}
    {part : Text} :
    k.cut first last = some part ↔
      ∃ before behind,
        k.source = before ++ part ++ behind ∧
          Text.byteSize before = first ∧
          Text.byteSize (before ++ part) = last := by
  constructor
  · intro h
    unfold cut at h
    split at h
    · next hle =>
        obtain ⟨⟨before, rest⟩, hfirst, hrest⟩ := Option.bind_eq_some_iff.1 h
        obtain ⟨⟨middle, behind⟩, hlast, hpart⟩ := Option.bind_eq_some_iff.1 hrest
        cases hpart
        obtain ⟨hsource, hbefore⟩ := Text.splitAtByte_eq_some_iff.1 hfirst
        obtain ⟨rfl, hsize⟩ := Text.splitAtByte_eq_some_iff.1 hlast
        refine ⟨before, behind, ?_, hbefore, ?_⟩
        · rw [← hsource, List.append_assoc]
        · rw [Text.byteSize_append, hbefore, hsize]
          omega
    · cases h
  · rintro ⟨before, behind, hsource, rfl, rfl⟩
    rw [Text.byteSize_append]
    rw [List.append_assoc] at hsource
    exact cut_append hsource

/-- A part can be cut out exactly if its ends are boundaries in order. -/
theorem isSome_cut_iff
    {k : Cursor}
    {first last : Nat} :
    (k.cut first last).isSome = true ↔
      first ≤ last ∧
        last ≤ k.source.byteSize ∧
        k.source.isBoundary first = true ∧
        k.source.isBoundary last = true := by
  rw [Option.isSome_iff_exists]
  constructor
  · rintro ⟨part, hpart⟩
    obtain ⟨before, behind, hsource, rfl, rfl⟩ := cut_eq_some_iff.1 hpart
    refine ⟨?_, ?_, ?_, ?_⟩
    · rw [Text.byteSize_append]
      exact Nat.le_add_right _ _
    · rw [hsource, Text.byteSize_append (before ++ part)]
      exact Nat.le_add_right _ _
    · rw [hsource, List.append_assoc]
      exact Text.isBoundary_iff.2 ⟨_, _, rfl, rfl⟩
    · rw [hsource]
      exact Text.isBoundary_iff.2 ⟨_, _, rfl, rfl⟩
  · rintro ⟨hle, -, hfirst, hlast⟩
    obtain ⟨before, rest, hbefore, rfl⟩ := Text.isBoundary_iff.1 hfirst
    obtain ⟨longer, behind, hlonger, rfl⟩ := Text.isBoundary_iff.1 hlast
    obtain ⟨part, rfl⟩ := Text.prefix_of_byteSize_le ⟨rest, hbefore⟩ ⟨behind, hlonger⟩ hle
    exact ⟨part, cut_eq_some_iff.2 ⟨before, behind, hlonger.symm, rfl, rfl⟩⟩

/-- Parts that meet make up the part between their outer ends. -/
theorem cut_append_cut
    {k : Cursor}
    {first middle last : Nat}
    {s t : Text}
    (hs : k.cut first middle = some s)
    (ht : k.cut middle last = some t) :
    k.cut first last = some (s ++ t) := by
  obtain ⟨before, rest, hsource, rfl, rfl⟩ := cut_eq_some_iff.1 hs
  obtain ⟨before', behind, hsource', hmiddle, rfl⟩ := cut_eq_some_iff.1 ht
  -- Both parts leave the same text in front of the position where they meet.
  have hsplit := Text.splitAtByte_eq_some_iff.2 ⟨hsource.symm, rfl⟩
  have hsplit' := Text.splitAtByte_eq_some_iff.2
    ⟨(List.append_assoc _ _ _).symm.trans hsource'.symm, hmiddle⟩
  rw [hsplit, Option.some.injEq, Prod.mk.injEq] at hsplit'
  obtain ⟨rfl, rfl⟩ := hsplit'
  refine cut_eq_some_iff.2 ⟨before, behind, ?_, rfl, ?_⟩
  · rw [hsource, ← List.append_assoc, ← List.append_assoc]
  · rw [List.append_assoc]

end Cursor
end ContractLexer
