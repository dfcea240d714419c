import ContractLexer.SourceFile

/-!
# The bytes of a source file

A source file is loaded as the one text whose UTF-8 form its bytes are.

**Results.**
* `SourceFile.load_eq_ok_iff`: what is loaded is the text whose UTF-8 form is read.
* `Text.size_utf8Encode`: the size of a text is the number of bytes of its UTF-8 form.
-/

namespace ContractLexer

theorem Text.size_utf8Encode
    (t : Text) :
    t.utf8Encode.size = t.byteSize := by
  induction t with
  | nil =>
      rfl
  | cons c t ih =>
      rw [List.utf8Encode_cons, ByteArray.size_append, ih, List.utf8Encode_singleton,
        List.size_toByteArray, String.length_utf8EncodeChar, byteSize_cons]

namespace SourceFile

theorem decode?_eq_some_iff
    {bytes : ByteArray}
    {text : Text} :
    decode? bytes = some text ↔ text.utf8Encode = bytes := by
  constructor
  · intro h
    obtain ⟨chars, hchars, rfl⟩ := Option.map_eq_some_iff.1 h
    have hsome : bytes.utf8Decode?.isSome = true := by
      rw [hchars]
      rfl
    have hencode := ByteArray.utf8Encode_get_utf8Decode? (h := hsome)
    simpa only [hchars, Option.get_some] using hencode
  · rintro rfl
    rw [decode?, List.utf8Decode?_utf8Encode]
    rfl

/-- What is loaded from a file is the text whose UTF-8 form is read from it. -/
theorem load_eq_ok_iff
    {read : Text → Except ReadFailure ByteArray}
    {path text : Text} :
    load read path = .ok text ↔ read path = .ok text.utf8Encode := by
  constructor
  · intro h
    unfold load at h
    split at h
    · cases h
    · next bytes hread =>
        split at h
        · next text' hdecode =>
            cases h
            rw [hread, decode?_eq_some_iff.1 hdecode]
        · cases h
  · intro h
    have hdecode : decode? text.utf8Encode = some text :=
      decode?_eq_some_iff.2 rfl
    simp only [load, h, hdecode]

end SourceFile
end ContractLexer
