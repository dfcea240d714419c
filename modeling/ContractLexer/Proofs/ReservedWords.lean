import ContractLexer.Token.Keyword

/-!
# The table of reserved words

A word is compared with one reserved word only, which the number of its bytes and its
first byte select, and it is compared byte by byte.  Here this is shown to be the plain
search: the word is reserved exactly when its small form is the spelling of a reserved
word.

Two things have to be seen for it.  Making the bytes of a text small is the same as
making the text small, since a character outside ASCII has no byte below `0x80`; and no
word that agrees with a reserved word is kept from it by the selection.

**Results.**
* `Text.bytes_lower`: the bytes of the small form are the small bytes.
* `Text.bytes_inj`: a text is known by its bytes.
* `Keyword.ofText?_eq_some_iff_lower`: the words found by the table.
* `Keyword.ofText?_up_to_case`: the table is the plain search.
-/

namespace ContractLexer

/-! ## Bytes and letters -/

/-- No byte of a character outside ASCII is an ASCII code. -/
theorem le_toNat_of_mem_utf8EncodeChar
    {c : Char}
    (hc : 0x80 ≤ c.toNat)
    {b : UInt8}
    (hb : b ∈ String.utf8EncodeChar c) :
    0x80 ≤ b.toNat := by
  simp only [String.utf8EncodeChar, Char.toNat_val] at hb
  split at hb
  · omega
  split at hb
  · simp only [List.mem_cons, List.not_mem_nil, or_false] at hb
    rcases hb with rfl | rfl <;> simp <;> omega
  split at hb
  · simp only [List.mem_cons, List.not_mem_nil, or_false] at hb
    rcases hb with rfl | rfl | rfl <;> simp <;> omega
  · simp only [List.mem_cons, List.not_mem_nil, or_false] at hb
    rcases hb with rfl | rfl | rfl | rfl <;> simp <;> omega

theorem utf8EncodeChar_of_lt
    {c : Char}
    (hc : c.toNat < 0x80) :
    String.utf8EncodeChar c = [UInt8.ofNat c.toNat] := by
  unfold String.utf8EncodeChar
  rw [if_pos (by rw [Char.toNat_val]; omega), Char.toNat_val]

theorem toNat_lowerByte
    (b : UInt8) :
    (lowerByte b).toNat =
      if 0x41 ≤ b.toNat ∧ b.toNat ≤ 0x5a then b.toNat + 0x20 else b.toNat := by
  unfold lowerByte
  simp only [UInt8.le_iff_toNat_le, UInt8.reduceToNat]
  split
  · rw [UInt8.toNat_add]
    change (b.toNat + 0x20) % 2 ^ 8 = b.toNat + 0x20
    omega
  · rfl

theorem toNat_toLower
    (c : Char) :
    c.toLower.toNat =
      if 0x41 ≤ c.toNat ∧ c.toNat ≤ 0x5a then c.toNat + 0x20 else c.toNat := by
  have hcapital : (c.val ≥ 'A'.val ∧ c.val ≤ 'Z'.val) ↔ (0x41 ≤ c.toNat ∧ c.toNat ≤ 0x5a) := by
    simp [UInt32.le_iff_toNat_le]
  unfold Char.toLower
  split
  · next h =>
      rw [hcapital] at h
      rw [if_pos h]
      change (c.val + 0x20).toNat = c.toNat + 0x20
      rw [UInt32.toNat_add, Char.toNat_val]
      change (c.toNat + 0x20) % 2 ^ 32 = c.toNat + 0x20
      omega
  · next h =>
      rw [hcapital] at h
      rw [if_neg h]

/-- A letter is made small by making its bytes small. -/
theorem utf8EncodeChar_toLower
    (c : Char) :
    String.utf8EncodeChar c.toLower = (String.utf8EncodeChar c).map lowerByte := by
  have hlower := toNat_toLower c
  by_cases hc : c.toNat < 0x80
  · have hc' : c.toLower.toNat < 0x80 := by
      split at hlower <;> omega
    have hbyte : UInt8.ofNat c.toLower.toNat = lowerByte (UInt8.ofNat c.toNat) := by
      have hsize : c.toNat < UInt8.size ∧ c.toLower.toNat < UInt8.size := by
        constructor <;> exact Nat.lt_trans (by assumption) (by decide)
      rw [← UInt8.toNat_inj, toNat_lowerByte, UInt8.toNat_ofNat_of_lt' hsize.1,
        UInt8.toNat_ofNat_of_lt' hsize.2, hlower]
    rw [utf8EncodeChar_of_lt hc, utf8EncodeChar_of_lt hc', hbyte]
    rfl
  · have hsame : c.toLower = c := by
      rw [← Char.toNat_inj, hlower, if_neg (by omega)]
    have hbytes : (String.utf8EncodeChar c).map lowerByte = String.utf8EncodeChar c := by
      rw [List.map_congr_left (g := id), List.map_id]
      intro b hb
      have hle := le_toNat_of_mem_utf8EncodeChar (by omega) hb
      rw [← UInt8.toNat_inj, toNat_lowerByte, if_neg (by omega)]
      rfl
    rw [hsame, hbytes]

theorem isLetterByte_of_lowerByte
    {b : UInt8}
    (h : isLetterByte (lowerByte b) = true) :
    isLetterByte b = true := by
  have hb := toNat_lowerByte b
  simp only [isLetterByte, Bool.or_eq_true, Bool.and_eq_true, decide_eq_true_eq,
    UInt8.le_iff_toNat_le, UInt8.reduceToNat] at h ⊢
  split at hb <;> omega

namespace Text

/-- The bytes of the small form of a text are its bytes made small. -/
theorem bytes_lower
    (t : Text) :
    t.lower.bytes = t.bytes.map lowerByte := by
  induction t with
  | nil =>
      rfl
  | cons c t ih =>
      rw [bytes_cons, List.map_append, ← utf8EncodeChar_toLower, ← ih]
      rfl

/-- A text is known by its bytes. -/
theorem bytes_inj
    {s t : Text}
    (h : s.bytes = t.bytes) :
    s = t := by
  have hencode : s.utf8Encode = t.utf8Encode := congrArg List.toByteArray h
  have hdecode := congrArg ByteArray.utf8Decode? hencode
  simpa using hdecode

end Text

/-! ## The selection -/

namespace Keyword

theorem mem_all
    (k : Keyword) :
    k ∈ all := by
  cases k <;> decide

theorem lower_spelling
    (word : Keyword) :
    Text.lower word.spelling = word.spelling := by
  cases word <;> rfl

/-- Comparing bytes up to the case of letters is comparing with the small form. -/
theorem lower_eq_spelling_iff
    {word : Text}
    {k : Keyword} :
    word.bytes.map lowerByte = k.spelling.bytes.map lowerByte ↔ word.lower = k.spelling := by
  rw [← Text.bytes_lower, ← Text.bytes_lower, k.lower_spelling]
  constructor
  · exact Text.bytes_inj
  · exact congrArg Text.bytes

/-- A word that agrees with a reserved word is compared with it. -/
theorem candidate?_of_lower
    {word : Text}
    {k : Keyword}
    (h : word.lower = k.spelling) :
    ∃ first rest,
      word.bytes = first :: rest ∧
        isLetterByte first = true ∧
        candidate? (first :: rest).length first = some k := by
  have hbytes : word.bytes.map lowerByte = k.spelling.bytes := by
    rw [← Text.bytes_lower, h]
  cases hword : word.bytes with
  | nil =>
      rw [hword] at hbytes
      cases k <;> cases hbytes
  | cons first rest =>
      rw [hword] at hbytes
      have hlength : (first :: rest).length = k.spelling.bytes.length := by
        rw [← hbytes, List.length_map]
      have hfirst : k.spelling.bytes.head? = some (lowerByte first) := by
        rw [← hbytes]
        rfl
      have hletter : k.spelling.bytes.head?.all isLetterByte = true := by
        cases k <;> rfl
      rw [hfirst, Option.all_some] at hletter
      refine ⟨first, rest, rfl, isLetterByte_of_lowerByte hletter, ?_⟩
      rw [hlength]
      cases k with
      | defWord | forWord =>
          have hb := Option.some.inj hfirst
          unfold candidate?
          rw [← hb]
          rfl
      | contractWord | selfWord | inWord =>
          rfl

/-- The table finds the reserved words that a word agrees with. -/
theorem ofText?_eq_some_iff_lower
    {word : Text}
    {k : Keyword} :
    ofText? word = some k ↔ word.lower = k.spelling := by
  unfold ofText?
  constructor
  · intro h
    split at h
    · cases h
    · next first rest hword =>
        split at h
        · have hsame := (Option.filter_eq_some_iff.1 h).2
          rw [← hword, beq_iff_eq] at hsame
          exact lower_eq_spelling_iff.1 hsame
        · cases h
  · intro h
    obtain ⟨first, rest, hword, hletter, hcandidate⟩ := candidate?_of_lower h
    have hsame := lower_eq_spelling_iff.2 h
    rw [hword] at hsame ⊢
    simp only [hletter, if_true]
    rw [hcandidate, Option.filter_some, if_pos]
    exact beq_iff_eq.2 hsame

/-! ## The plain search -/

theorem find?_all_eq_some_iff
    {word : Text}
    {k : Keyword} :
    (all.find? fun k => k.spelling == word.lower) = some k ↔ word.lower = k.spelling := by
  constructor
  · intro h
    have hfound : k.spelling = word.lower := by
      simpa using List.find?_some h
    exact hfound.symm
  · intro h
    rw [h]
    cases k <;> rfl

/-- A word that agrees with a reserved word is written in ASCII. -/
theorem toNat_lt_of_lower
    {word : Text}
    {k : Keyword}
    (h : word.lower = k.spelling)
    {c : Char}
    (hc : c ∈ word) :
    c.toNat < 0x80 := by
  have hmem : c.toLower ∈ k.spelling := by
    rw [← h]
    exact List.mem_map_of_mem hc
  have hascii : k.spelling.all (fun d => d.toNat < 0x80) = true := by
    cases k <;> rfl
  have hlower := of_decide_eq_true (List.all_eq_true.1 hascii _ hmem)
  have hcode := toNat_toLower c
  split at hcode <;> omega

/-- The table is the plain search through all reserved words for the small form of a word.
So the case of ASCII letters makes no difference to it, and a word with a character
outside ASCII is not reserved, whatever its number of bytes is. -/
theorem ofText?_up_to_case
    (word : Text) :
    ofText? word = (all.find? fun k => k.spelling == word.lower) ∧
      (∀ k, ofText? word = some k ↔ k ∈ all ∧ word.lower = k.spelling) ∧
      (ofText? word = none ↔ ¬ ∃ k ∈ all, word.lower = k.spelling) ∧
      (∀ other : Text, other.lower = word.lower → ofText? other = ofText? word) ∧
      ((∃ c ∈ word, 0x80 ≤ c.toNat) → ofText? word = none) := by
  have hnone : ofText? word = none ↔ ¬ ∃ k ∈ all, word.lower = k.spelling := by
    simp [Option.eq_none_iff_forall_ne_some, ofText?_eq_some_iff_lower, mem_all]
  refine ⟨?_, ?_, hnone, ?_, ?_⟩
  · apply Option.ext
    intro k
    rw [ofText?_eq_some_iff_lower, find?_all_eq_some_iff]
  · intro k
    rw [ofText?_eq_some_iff_lower, and_iff_right k.mem_all]
  · intro other hother
    apply Option.ext
    intro k
    rw [ofText?_eq_some_iff_lower, ofText?_eq_some_iff_lower, hother]
  · rintro ⟨c, hc, hlarge⟩
    rw [hnone]
    rintro ⟨k, -, hk⟩
    have hsmall := toNat_lt_of_lower hk hc
    omega

theorem ofText?_up_to_case_three_bytes :
    ofText? "fOR".toList = ofText? "For".toList ∧
      ofText? "For".toList = some .forWord ∧
      (Text.bytes "dé".toList).length = 3 ∧
      ofText? "dé".toList = none := by
  obtain ⟨-, hsome, -, hcase, -⟩ := ofText?_up_to_case "For".toList
  obtain ⟨-, -, -, -, hascii⟩ := ofText?_up_to_case "dé".toList
  refine ⟨hcase _ (by decide), ?_, by decide, ?_⟩
  · exact (hsome .forWord).2 ⟨by decide, by decide⟩
  · exact hascii ⟨'é', by decide, by decide⟩

end Keyword

end ContractLexer
