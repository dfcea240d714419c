import ContractLexer.Text.Basic
import Mathlib.Data.List.Basic

/-!
# The bytes of a character

In the UTF-8 form of a character the first byte announces how many bytes follow it, and every
byte that follows is marked as one that continues.  The bits that are left in them make up the
number of the character.

Bytes may have this form and spell no character all the same.  Their number may need fewer
bytes, it may be kept free for surrogates, or it may be larger than that of any character.

**Contents.**  Bytes that continue, what a first byte announces, the bytes that have the form
of a character, and the number that they carry.

**Results.**
* `Utf8.exists_form`: the bytes of a character have the form of one, and its number needs as
  many bytes.
* `Utf8.utf8EncodeChar_of_form`: bytes of that form that carry the number of a character, and
  are no more than it needs, are the bytes of the character.
* `Utf8.exists_form_of_length`, `Utf8.Form.unique`: which bytes have the form of a character,
  and that they carry one number.
-/

namespace ContractLexer
namespace Utf8

/-- The byte continues a character. -/
def isContinuation (b : UInt8) : Bool :=
  decide (0x80 ≤ b.toNat) && decide (b.toNat < 0xc0)

/-- The number of bytes that a first byte announces. -/
def announced (first : UInt8) : Nat :=
  if first.toNat < 0xc0 then 0
  else if first.toNat < 0xe0 then 1
  else if first.toNat < 0xf0 then 2
  else 3

/-- The bytes `first :: tail` have the form of a character, and `n` is the number that they
carry: the low bits of each of them, from the first one to the last. -/
inductive Form : UInt8 → List UInt8 → Nat → Prop
  | one
      {a : UInt8}
      {n : Nat}
      (ha : a.toNat < 0x80)
      (hn : n = a.toNat) :
      Form a [] n
  | two
      {a b : UInt8}
      {n : Nat}
      (ha : 0xc0 ≤ a.toNat ∧ a.toNat < 0xe0)
      (hb : isContinuation b = true)
      (hn : n = a.toNat % 0x20 * 0x40 + b.toNat % 0x40) :
      Form a [b] n
  | three
      {a b c : UInt8}
      {n : Nat}
      (ha : 0xe0 ≤ a.toNat ∧ a.toNat < 0xf0)
      (hb : isContinuation b = true)
      (hc : isContinuation c = true)
      (hn : n = a.toNat % 0x10 * 0x1000 + b.toNat % 0x40 * 0x40 + c.toNat % 0x40) :
      Form a [b, c] n
  | four
      {a b c d : UInt8}
      {n : Nat}
      (ha : 0xf0 ≤ a.toNat ∧ a.toNat < 0xf8)
      (hb : isContinuation b = true)
      (hc : isContinuation c = true)
      (hd : isContinuation d = true)
      (hn : n = a.toNat % 0x8 * 0x40000 + b.toNat % 0x40 * 0x1000 + c.toNat % 0x40 * 0x40 +
        d.toNat % 0x40) :
      Form a [b, c, d] n

/-- The least number that needs as many bytes behind the first one. -/
def least : Nat → Nat
  | 0 => 0
  | 1 => 0x80
  | 2 => 0x800
  | _ => 0x10000

theorem isContinuation_iff
    {b : UInt8} :
    isContinuation b = true ↔ 0x80 ≤ b.toNat ∧ b.toNat < 0xc0 := by
  simp [isContinuation]

theorem isContinuation_eq_false_iff
    {b : UInt8} :
    isContinuation b = false ↔ b.toNat < 0x80 ∨ 0xc0 ≤ b.toNat := by
  rw [← Bool.not_eq_true, isContinuation_iff]
  omega

/-! ## Forms -/

namespace Form

theorem isContinuation_first
    {first : UInt8}
    {tail : List UInt8}
    {n : Nat}
    (h : Form first tail n) :
    isContinuation first = false := by
  rw [isContinuation_eq_false_iff]
  cases h <;> omega

theorem isContinuation_of_mem
    {first : UInt8}
    {tail : List UInt8}
    {n : Nat}
    (h : Form first tail n) :
    ∀ b ∈ tail, isContinuation b = true := by
  cases h <;> simp [*]

theorem toNat_first_lt
    {first : UInt8}
    {tail : List UInt8}
    {n : Nat}
    (h : Form first tail n) :
    first.toNat < 0xf8 := by
  cases h <;> omega

theorem length_tail
    {first : UInt8}
    {tail : List UInt8}
    {n : Nat}
    (h : Form first tail n) :
    tail.length = announced first := by
  unfold announced
  cases h with
  | one ha hn =>
      rw [if_pos (by omega)]
      rfl
  | two ha hb hn =>
      rw [if_neg (by omega), if_pos (by omega)]
      rfl
  | three ha hb hc hn =>
      rw [if_neg (by omega), if_neg (by omega), if_pos (by omega)]
      rfl
  | four ha hb hc hd hn =>
      rw [if_neg (by omega), if_neg (by omega), if_neg (by omega)]
      rfl

/-- The bytes in front of a sequence that have the form of a character are found in one way
only, and they carry one number. -/
theorem unique
    {first : UInt8}
    {tail tail' rest rest' : List UInt8}
    {n n' : Nat}
    (h : Form first tail n)
    (h' : Form first tail' n')
    (hsame : tail ++ rest = tail' ++ rest') :
    tail = tail' ∧ n = n' := by
  obtain ⟨rfl, -⟩ := List.append_inj hsame (h.length_tail.trans h'.length_tail.symm)
  refine ⟨rfl, ?_⟩
  cases h <;> cases h' <;> omega

end Form

/-- A first byte and as many bytes that continue as it announces have the form of a
character. -/
theorem exists_form_of_length
    {first : UInt8}
    {tail : List UInt8}
    (hfirst : isContinuation first = false)
    (hlt : first.toNat < 0xf8)
    (htail : ∀ b ∈ tail, isContinuation b = true)
    (hlength : tail.length = announced first) :
    ∃ n, Form first tail n := by
  rw [isContinuation_eq_false_iff] at hfirst
  unfold announced at hlength
  split_ifs at hlength with hone htwo hthree
  · obtain rfl := List.length_eq_zero_iff.1 hlength
    exact ⟨_, .one (by omega) rfl⟩
  · obtain ⟨b, rfl⟩ := List.length_eq_one_iff.1 hlength
    exact ⟨_, .two ⟨by omega, htwo⟩ (htail b (by simp)) rfl⟩
  · obtain ⟨b, c, rfl⟩ := List.length_eq_two.1 hlength
    exact ⟨_, .three ⟨by omega, hthree⟩ (htail b (by simp)) (htail c (by simp)) rfl⟩
  · obtain ⟨b, c, d, rfl⟩ := List.length_eq_three.1 hlength
    exact ⟨_, .four ⟨by omega, hlt⟩ (htail b (by simp)) (htail c (by simp)) (htail d (by simp))
      rfl⟩

/-! ## Characters -/

/-- The number of a character is not that of a surrogate, and it is not too large. -/
theorem scalar_toNat
    (c : Char) :
    c.toNat < 0xd800 ∨ (0xdfff < c.toNat ∧ c.toNat ≤ 0x10ffff) := by
  have hvalid : c.toNat < 0xd800 ∨ (0xdfff < c.toNat ∧ c.toNat < 0x110000) := c.valid
  omega

theorem exists_char_of_scalar
    {n : Nat}
    (h : n < 0xd800 ∨ (0xdfff < n ∧ n ≤ 0x10ffff)) :
    ∃ c : Char, c.toNat = n := by
  have hvalid : n.isValidChar := by
    change n < 0xd800 ∨ (0xdfff < n ∧ n < 0x110000)
    omega
  exact ⟨Char.ofNatAux n hvalid, rfl⟩

/-- The bytes of a character have the form of one and carry its number, which needs as many
bytes. -/
theorem exists_form
    (c : Char) :
    ∃ first tail,
      String.utf8EncodeChar c = first :: tail ∧
        Form first tail c.toNat ∧
        least tail.length ≤ c.toNat := by
  have hscalar := scalar_toNat c
  unfold String.utf8EncodeChar
  simp only [Char.toNat_val]
  -- One case for each number of bytes; what is left of it is arithmetic.
  split_ifs with hone htwo hthree
  · refine ⟨_, _, rfl, .one ?_ ?_, ?_⟩ <;> simp [least] <;> omega
  · refine ⟨_, _, rfl, .two ?_ ?_ ?_, ?_⟩ <;> simp [isContinuation, least] <;> omega
  · refine ⟨_, _, rfl, .three ?_ ?_ ?_ ?_, ?_⟩ <;> simp [isContinuation, least] <;> omega
  · refine ⟨_, _, rfl, .four ?_ ?_ ?_ ?_ ?_, ?_⟩ <;> simp [isContinuation, least] <;> omega

/-- Bytes that carry the number of a character, and are no more than it needs, are the bytes
of the character. -/
theorem utf8EncodeChar_of_form
    {first : UInt8}
    {tail : List UInt8}
    {c : Char}
    (hform : Form first tail c.toNat)
    (hleast : least tail.length ≤ c.toNat) :
    String.utf8EncodeChar c = first :: tail := by
  unfold String.utf8EncodeChar
  simp only [Char.toNat_val]
  cases hform with
  | one ha hn =>
      rw [if_pos (by omega), hn, UInt8.ofNat_toNat]
  | two ha hb hn =>
      rw [isContinuation_iff] at hb
      simp only [least, List.length_singleton] at hleast
      rw [if_neg (by omega), if_pos (by omega)]
      simp [← UInt8.toNat_inj]
      omega
  | three ha hb hc hn =>
      rw [isContinuation_iff] at hb hc
      simp only [least, List.length_cons, List.length_nil] at hleast
      rw [if_neg (by omega), if_neg (by omega), if_pos (by omega)]
      simp [← UInt8.toNat_inj]
      omega
  | four ha hb hc hd hn =>
      rw [isContinuation_iff] at hb hc hd
      simp only [least, List.length_cons, List.length_nil] at hleast
      rw [if_neg (by omega), if_neg (by omega), if_neg (by omega)]
      simp [← UInt8.toNat_inj]
      omega

end Utf8
end ContractLexer
