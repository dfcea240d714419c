import ContractLexer.Proofs.ByteForms
import ContractLexer.Proofs.SourceBytes
import ContractLexer.WorkingDirectory
import Mathlib.Data.List.TakeWhile

/-!
# Loading a text

A source file is loaded as the text whose UTF-8 form it holds, byte for byte, or not at all.
Nothing is replaced, and nothing is left out at the front or at the end of a line.

A file that is not loaded holds the UTF-8 form of no text.  Here it is shown what such a file
looks like: behind the bytes of some text, which may be empty, there is one of six defects.

**Contents.**  The defects of bytes.

**Results.**
* `Utf8.exists_char_or_defect`, `Utf8.not_defect_utf8EncodeChar`: in front of bytes there is
  either a character or a defect.
* `Utf8.forall_bytes_ne_iff_defect`: bytes are those of no text exactly when there is a defect
  somewhere in them.
* `SourceFile.load_is_exact`: a file is loaded as the text whose UTF-8 form it holds, and a
  file with a defect is not loaded.
-/

namespace ContractLexer
namespace Utf8

/-- What can be wrong at the front of a sequence of bytes. -/
inductive Defect : List UInt8 → Prop
  /-- A byte that continues a character stands where one should start. -/
  | stray
      {b : UInt8}
      {rest : List UInt8}
      (hb : isContinuation b = true) :
      Defect (b :: rest)
  /-- No character starts with the byte. -/
  | unannounced
      {b : UInt8}
      {rest : List UInt8}
      (hb : 0xf8 ≤ b.toNat) :
      Defect (b :: rest)
  /-- Fewer bytes that continue follow than the first byte announces. -/
  | truncated
      {first : UInt8}
      {rest : List UInt8}
      (hshort : (rest.takeWhile isContinuation).length < announced first) :
      Defect (first :: rest)
  /-- The number needs fewer bytes. -/
  | overlong
      {first : UInt8}
      {tail rest : List UInt8}
      {n : Nat}
      (hform : Form first tail n)
      (hn : n < least tail.length) :
      Defect (first :: (tail ++ rest))
  /-- The number is kept free for surrogates. -/
  | surrogate
      {first : UInt8}
      {tail rest : List UInt8}
      {n : Nat}
      (hform : Form first tail n)
      (hn : 0xd800 ≤ n ∧ n ≤ 0xdfff) :
      Defect (first :: (tail ++ rest))
  /-- No character has so large a number. -/
  | tooLarge
      {first : UInt8}
      {tail rest : List UInt8}
      {n : Nat}
      (hform : Form first tail n)
      (hn : 0x10ffff < n) :
      Defect (first :: (tail ++ rest))

/-! ## The front of a sequence -/

/-- Where a character is spelled, nothing is wrong. -/
theorem not_defect_utf8EncodeChar
    (c : Char)
    (rest : List UInt8) :
    ¬ Defect (String.utf8EncodeChar c ++ rest) := by
  obtain ⟨first, tail, hbytes, hform, hleast⟩ := exists_form c
  have hscalar := scalar_toNat c
  intro h
  rw [hbytes, List.cons_append] at h
  generalize hfront : first :: (tail ++ rest) = bytes at h
  cases h with
  | stray hb =>
      cases hfront
      rw [hform.isContinuation_first] at hb
      cases hb
  | unannounced hb =>
      cases hfront
      have hlt := hform.toNat_first_lt
      omega
  | truncated hshort =>
      cases hfront
      rw [List.takeWhile_append_of_pos hform.isContinuation_of_mem, List.length_append,
        hform.length_tail] at hshort
      omega
  | overlong hform' hn | surrogate hform' hn | tooLarge hform' hn =>
      obtain ⟨rfl, htail⟩ := List.cons.inj hfront
      obtain ⟨rfl, rfl⟩ := hform.unique hform' htail
      omega

/-- If enough bytes that continue follow, the front has the form of a character. -/
theorem exists_form_of_announced_le
    {first : UInt8}
    {rest : List UInt8}
    (hfirst : isContinuation first = false)
    (hlt : first.toNat < 0xf8)
    (henough : announced first ≤ (rest.takeWhile isContinuation).length) :
    ∃ tail behind n, rest = tail ++ behind ∧ Form first tail n := by
  have hsplit : rest.takeWhile isContinuation ++ rest.dropWhile isContinuation = rest :=
    List.takeWhile_append_dropWhile
  have htake : rest.take (announced first) =
      (rest.takeWhile isContinuation).take (announced first) := by
    conv_lhs => rw [← hsplit, List.take_append_of_le_length henough]
  have hcontinues : ∀ b ∈ rest.take (announced first), isContinuation b = true := by
    intro b hb
    rw [htake] at hb
    exact List.mem_takeWhile_imp (List.mem_of_mem_take hb)
  have hlength : (rest.take (announced first)).length = announced first := by
    rw [htake, List.length_take, Nat.min_eq_left henough]
  obtain ⟨n, hform⟩ := exists_form_of_length hfirst hlt hcontinues hlength
  exact ⟨_, _, n, (List.take_append_drop (announced first) rest).symm, hform⟩

/-- In front of bytes a character is spelled, or something is wrong. -/
theorem exists_char_or_defect
    (first : UInt8)
    (rest : List UInt8) :
    (∃ c behind, first :: rest = String.utf8EncodeChar c ++ behind) ∨
      Defect (first :: rest) := by
  by_cases hstray : isContinuation first = true
  · exact .inr (.stray hstray)
  by_cases hunannounced : 0xf8 ≤ first.toNat
  · exact .inr (.unannounced hunannounced)
  by_cases hshort : (rest.takeWhile isContinuation).length < announced first
  · exact .inr (.truncated hshort)
  obtain ⟨tail, behind, n, rfl, hform⟩ :=
    exists_form_of_announced_le (Bool.eq_false_iff.2 hstray) (Nat.lt_of_not_le hunannounced)
      (Nat.le_of_not_lt hshort)
  -- The form is right; what is left to go wrong is the number.
  by_cases hoverlong : n < least tail.length
  · exact .inr (.overlong hform hoverlong)
  by_cases hsurrogate : 0xd800 ≤ n ∧ n ≤ 0xdfff
  · exact .inr (.surrogate hform hsurrogate)
  by_cases htooLarge : 0x10ffff < n
  · exact .inr (.tooLarge hform htooLarge)
  obtain ⟨c, rfl⟩ := exists_char_of_scalar (n := n) (by omega)
  have hbytes := utf8EncodeChar_of_form hform (Nat.le_of_not_lt hoverlong)
  exact .inl ⟨c, behind, by rw [hbytes, List.cons_append]⟩

/-! ## Whole sequences -/

/-- Bytes are those of a text, or something is wrong behind the bytes of a text. -/
theorem exists_text_or_defect
    (bytes : List UInt8) :
    (∃ text : Text, text.bytes = bytes) ∨
      ∃ (before : Text) (rest : List UInt8), bytes = before.bytes ++ rest ∧ Defect rest := by
  -- Every character that is found leaves fewer bytes.
  induction hlength : bytes.length using Nat.strongRecOn generalizing bytes with
  | ind n ih =>
      cases bytes with
      | nil =>
          exact .inl ⟨[], rfl⟩
      | cons first rest =>
          rcases exists_char_or_defect first rest with ⟨c, behind, hfront⟩ | hdefect
          · have hshorter : behind.length < n := by
              have hsize := congrArg List.length hfront
              have hpos := c.utf8Size_pos
              rw [hlength, List.length_append, String.length_utf8EncodeChar] at hsize
              omega
            rcases ih behind.length hshorter behind rfl with
              ⟨text, htext⟩ | ⟨before, rest', hsplit, hdefect⟩
            · exact .inl ⟨c :: text, by rw [Text.bytes_cons, htext, hfront]⟩
            · refine .inr ⟨c :: before, rest', ?_, hdefect⟩
              rw [Text.bytes_cons, hfront, hsplit, List.append_assoc]
          · exact .inr ⟨[], first :: rest, rfl, hdefect⟩

/-- Nothing is wrong in the bytes of a text. -/
theorem not_defect_of_bytes
    {text before : Text}
    {rest : List UInt8}
    (h : text.bytes = before.bytes ++ rest) :
    ¬ Defect rest := by
  have hencode : before.utf8Encode ++ rest.toByteArray = text.utf8Encode := by
    change before.bytes.toByteArray ++ rest.toByteArray = text.bytes.toByteArray
    rw [h, List.toByteArray_append]
  obtain ⟨behind, rfl⟩ := List.isPrefix_of_utf8Encode_append_eq_utf8Encode _ hencode
  have hrest : Text.bytes behind = rest := by
    rw [Text.bytes, List.flatMap_append] at h
    exact List.append_cancel_left h
  subst hrest
  cases behind with
  | nil =>
      intro hdefect
      cases hdefect
  | cons c behind =>
      exact not_defect_utf8EncodeChar c (Text.bytes behind)

/-- Bytes are those of no text exactly when something is wrong behind the bytes of a text. -/
theorem forall_bytes_ne_iff_defect
    (bytes : List UInt8) :
    (∀ text : Text, text.bytes ≠ bytes) ↔
      ∃ (before : Text) (rest : List UInt8), bytes = before.bytes ++ rest ∧ Defect rest := by
  constructor
  · intro hnone
    rcases exists_text_or_defect bytes with ⟨text, htext⟩ | hdefect
    · exact absurd htext (hnone text)
    · exact hdefect
  · rintro ⟨before, rest, rfl, hdefect⟩ text htext
    exact not_defect_of_bytes htext hdefect

/-- The same for the bytes of a file. -/
theorem forall_utf8Encode_ne_iff_defect
    (bytes : ByteArray) :
    (∀ text : Text, text.utf8Encode ≠ bytes) ↔
      ∃ (before : Text) (rest : List UInt8),
        bytes = before.utf8Encode ++ rest.toByteArray ∧ Defect rest := by
  obtain ⟨list, rfl⟩ : ∃ list : List UInt8, bytes = list.toByteArray :=
    ⟨bytes.data.toList, ByteArray.ext (by simp)⟩
  have hencode : ∀ text : Text, text.utf8Encode = list.toByteArray ↔ text.bytes = list :=
    fun text => List.toByteArray_inj
  have hsplit : ∀ (before : Text) (rest : List UInt8),
      list.toByteArray = before.utf8Encode ++ rest.toByteArray ↔
        list = before.bytes ++ rest := by
    intro before rest
    change list.toByteArray = before.bytes.toByteArray ++ rest.toByteArray ↔ _
    rw [← List.toByteArray_append, List.toByteArray_inj]
  simp only [ne_eq, hencode, hsplit]
  exact forall_bytes_ne_iff_defect list

end Utf8

namespace SourceFile

theorem load_of_forall_ne
    {read : Text → Except ReadFailure ByteArray}
    {path : Text}
    {bytes : ByteArray}
    (hread : read path = .ok bytes)
    (hnone : ∀ text : Text, text.utf8Encode ≠ bytes) :
    load read path = .error .invalidUtf8 := by
  have hdecode : decode? bytes = none := by
    rw [Option.eq_none_iff_forall_ne_some]
    intro text htext
    exact hnone text (decode?_eq_some_iff.1 htext)
  simp only [load, hread, hdecode]

/-- A file that can be read is loaded as the text whose UTF-8 form it holds, and if it holds
the UTF-8 form of no text, the user is told so.  It holds the UTF-8 form of no text exactly
when there is a defect somewhere in it, behind the bytes of some text. -/
theorem load_is_exact
    {read : Text → Except ReadFailure ByteArray}
    {path : Text}
    {bytes : ByteArray}
    (hread : read path = .ok bytes) :
    (∀ text, load read path = .ok text ↔ text.utf8Encode = bytes) ∧
      ((∀ text : Text, text.utf8Encode ≠ bytes) →
        ∃ failure,
          load read path = .error failure ∧
            failure.message path =
              ['\x27'] ++ path ++ "' contains invalid UTF-8 data".toList) ∧
      ((∀ text : Text, text.utf8Encode ≠ bytes) ↔
        ∃ (before : Text) (rest : List UInt8),
          bytes = before.utf8Encode ++ rest.toByteArray ∧ Utf8.Defect rest) := by
  refine ⟨?_, ?_, Utf8.forall_utf8Encode_ne_iff_defect bytes⟩
  · intro text
    rw [load_eq_ok_iff, hread, Except.ok.injEq, eq_comm]
  · intro hnone
    exact ⟨.invalidUtf8, load_of_forall_ne hread hnone, rfl⟩

/-- A mark of the byte order and the end of a line are kept, and a surrogate behind them is
refused. -/
theorem load_is_exact_surrogate :
    let files : WorkingDirectory :=
      .ofEntries
        [("kept.pact".toList, .file [0xef, 0xbb, 0xbf, 0x0d, 0x0a].toByteArray),
         ("refused.pact".toList,
           .file [0xef, 0xbb, 0xbf, 0x0d, 0x0a, 0xed, 0xa0, 0x80, 0x61].toByteArray)]
    files.read "kept.pact".toList = .ok [0xef, 0xbb, 0xbf, 0x0d, 0x0a].toByteArray ∧
      load files.read "kept.pact".toList = .ok "\ufeff\r\n".toList ∧
      files.read "./refused.pact".toList =
        .ok [0xef, 0xbb, 0xbf, 0x0d, 0x0a, 0xed, 0xa0, 0x80, 0x61].toByteArray ∧
      ∃ failure,
        load files.read "./refused.pact".toList = .error failure ∧
          failure.message "./refused.pact".toList =
            "'./refused.pact' contains invalid UTF-8 data".toList := by
  intro files
  have hkept : files.read "kept.pact".toList =
      .ok [0xef, 0xbb, 0xbf, 0x0d, 0x0a].toByteArray := by
    rfl
  have hrefused : files.read "./refused.pact".toList =
      .ok [0xef, 0xbb, 0xbf, 0x0d, 0x0a, 0xed, 0xa0, 0x80, 0x61].toByteArray := by
    rfl
  have hform : Utf8.Form 0xed [0xa0, 0x80] 0xd800 :=
    .three (by decide) (by decide) (by decide) (by decide)
  have hdefect : Utf8.Defect (0xed :: ([0xa0, 0x80] ++ [0x61])) :=
    .surrogate hform (by decide)
  obtain ⟨hloaded, -⟩ := load_is_exact hkept
  obtain ⟨-, hfailure, hnone⟩ := load_is_exact hrefused
  refine ⟨hkept, (hloaded _).2 (by rfl), hrefused, hfailure (hnone.2 ?_)⟩
  exact ⟨"\ufeff\r\n".toList, _, by rfl, hdefect⟩

end SourceFile
end ContractLexer
