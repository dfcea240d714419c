import ContractLexer.Proofs.Spelling

/-!
# Self-delimiting texts

A text that is written out can be told apart from what stands behind it when its form
shows where it ends.  Numerals are ended by a mark that is no digit, and quoted texts
by the mark that opens them, because inside of them that mark is escaped.

**Results.**
* `Text.selfDelimiting_numeral`: numerals in front of a mark.
* `Quoted.selfDelimiting_written`: the characters of a quoted text.
* `Quoted.selfDelimiting_text`: quoted texts.
-/

namespace ContractLexer
namespace Text

/-- The texts of a family are read off in one way, whatever stands behind them. -/
def SelfDelimiting {α : Type} (f : α → Text) : Prop :=
  ∀ ⦃a b : α⦄ ⦃r s : Text⦄, f a ++ r = f b ++ s → a = b ∧ r = s

/-- Texts without a mark are ended by the mark. -/
theorem append_mark_inj
    {mark : Char}
    {s t r r' : Text}
    (hs : mark ∉ s)
    (ht : mark ∉ t)
    (h : s ++ mark :: r = t ++ mark :: r') :
    s = t ∧ r = r' := by
  have hother : ∀ u : Text, mark ∉ u → ∀ c ∈ u, (c != mark) = true := by
    intro u hu c hc
    rw [bne_iff_ne]
    rintro rfl
    exact hu hc
  have hend : ∀ u : Text, EndsRun (fun c => c != mark) (mark :: u) := by
    intro u c hc
    cases hc
    simp
  have htake := congrArg (List.takeWhile fun c => c != mark) h
  rw [takeWhile_append_of_endsRun (hother s hs) (hend r),
    takeWhile_append_of_endsRun (hother t ht) (hend r')] at htake
  subst htake
  exact ⟨rfl, (List.cons.inj (List.append_cancel_left h)).2⟩

/-! ## Numerals -/

theorem exists_digitChar_of_mem_toDigits
    {b n : Nat}
    (hb : 1 < b)
    {c : Char}
    (hc : c ∈ Nat.toDigits b n) :
    ∃ i < b, c = Nat.digitChar i := by
  induction n using Nat.strongRecOn with
  | ind n ih =>
      rw [Nat.toDigits_eq_if hb] at hc
      split at hc
      · next hn =>
          exact ⟨n, hn, List.mem_singleton.1 hc⟩
      · next hn =>
          rcases List.mem_append.1 hc with hfront | hlast
          · exact ih (n / b) (Nat.div_lt_self (by omega) hb) hfront
          · exact ⟨n % b, Nat.mod_lt n (by omega), List.mem_singleton.1 hlast⟩

theorem digitChar_inj
    {i j : Nat}
    (hi : i < 16)
    (hj : j < 16)
    (h : Nat.digitChar i = Nat.digitChar j) :
    i = j := by
  have hall : ∀ i < 16, ∀ j < 16, Nat.digitChar i = Nat.digitChar j → i = j := by
    decide
  exact hall i hi j hj h

/-- Up to base sixteen, a number is known from its numeral. -/
theorem toDigits_inj
    {b m n : Nat}
    (hb : 1 < b)
    (hb' : b ≤ 16)
    (h : Nat.toDigits b m = Nat.toDigits b n) :
    m = n := by
  induction m using Nat.strongRecOn generalizing n with
  | ind m ih =>
      rw [Nat.toDigits_eq_if hb, Nat.toDigits_eq_if (n := n) hb] at h
      split at h <;> split at h
      · next hm hn =>
          exact digitChar_inj (by omega) (by omega) (List.singleton_inj.1 h)
      · rcases List.singleton_eq_append_iff.1 h with ⟨hnil, -⟩ | ⟨-, hnil⟩
        · exact absurd hnil Nat.toDigits_ne_nil
        · cases hnil
      · rcases List.append_eq_singleton_iff.1 h with ⟨hnil, -⟩ | ⟨-, hnil⟩
        · exact absurd hnil Nat.toDigits_ne_nil
        · cases hnil
      · next hm hn =>
          obtain ⟨hfront, hlast⟩ := List.append_inj' h rfl
          have hdiv := ih (m / b) (Nat.div_lt_self (by omega) hb) hfront
          have hmod : m % b = n % b := by
            apply digitChar_inj
            · exact Nat.lt_of_lt_of_le (Nat.mod_lt m (by omega)) hb'
            · exact Nat.lt_of_lt_of_le (Nat.mod_lt n (by omega)) hb'
            · exact List.singleton_inj.1 hlast
          rw [← Nat.div_add_mod m b, ← Nat.div_add_mod n b, hdiv, hmod]

/-- A numeral holds no mark that is no digit. -/
theorem not_mem_toDigits
    {b : Nat}
    (hb : 1 < b)
    (hb' : b ≤ 16)
    {mark : Char}
    (hmark : ∀ i < 16, Nat.digitChar i ≠ mark)
    (n : Nat) :
    mark ∉ Nat.toDigits b n := by
  intro hmem
  obtain ⟨i, hi, rfl⟩ := exists_digitChar_of_mem_toDigits hb hmem
  exact hmark i (by omega) rfl

/-- Numerals are ended by any mark that is no digit. -/
theorem selfDelimiting_numeral
    {b : Nat}
    (hb : 1 < b)
    (hb' : b ≤ 16)
    {mark : Char}
    (hmark : ∀ i < 16, Nat.digitChar i ≠ mark) :
    SelfDelimiting fun n => Nat.toDigits b n ++ [mark] := by
  intro m n r s h
  rw [List.append_assoc, List.append_assoc] at h
  have hm := not_mem_toDigits hb hb' hmark m
  have hn := not_mem_toDigits hb hb' hmark n
  obtain ⟨hdigits, hrest⟩ := append_mark_inj hm hn h
  exact ⟨toDigits_inj hb hb' hdigits, hrest⟩

end Text

/-! ## Quoted texts -/

namespace Quoted

/-- The short escapes between two marks: a character, and what stands for it behind a
backslash. -/
def shortEscapes (mark : Char) : List (Char × Char) :=
  [('\x00', '0'), ('\t', 't'), ('\n', 'n'), ('\r', 'r'), ('\\', '\\'), (mark, mark)]

/-- The three forms of a character between two marks. -/
inductive Form (mark c : Char) : Text → Prop
  | short
      {e : Char}
      (h : (c, e) ∈ shortEscapes mark) :
      Form mark c ['\\', e]
  | code :
      Form mark c (codePoint c)
  | plain
      (hslash : c ≠ '\\')
      (hmark : c ≠ mark) :
      Form mark c [c]

theorem form_written
    (mark c : Char) :
    Form mark c (written mark c) := by
  unfold written
  split
  · next h =>
      exact .short (by simp [h, shortEscapes])
  split
  · next h =>
      exact .short (by simp [h, shortEscapes])
  split
  · next h =>
      exact .short (by simp [h, shortEscapes])
  split
  · next h =>
      exact .short (by simp [h, shortEscapes])
  split
  · next h =>
      rcases h with rfl | rfl <;> exact .short (by simp [shortEscapes])
  · next h =>
      rw [not_or] at h
      split
      · exact .code
      · exact .plain h.1 h.2

theorem shortEscapes_inj :
    ∀ p ∈ shortEscapes '"', ∀ q ∈ shortEscapes '"', p.2 = q.2 → p.1 = q.1 := by
  decide

theorem shortEscapes_ne_code :
    ∀ p ∈ shortEscapes '"', p.2 ≠ 'u' := by
  decide

theorem codePoint_append_inj
    {c d : Char}
    {r s : Text}
    (h : codePoint c ++ r = codePoint d ++ s) :
    c = d ∧ r = s := by
  have hnumeral :
      Text.hexadecimal c.toNat ++ ['\x7d'] ++ r = Text.hexadecimal d.toNat ++ ['\x7d'] ++ s := by
    simpa [codePoint] using h
  obtain ⟨hnat, hrest⟩ :=
    Text.selfDelimiting_numeral (by decide) (by decide) (by decide) hnumeral
  exact ⟨Char.toNat_inj.1 hnat, hrest⟩

/-- A character of a quoted text is read off in one way. -/
theorem selfDelimiting_written :
    Text.SelfDelimiting (written '"') := by
  intro c d r s h
  have hc := form_written '"' c
  have hd := form_written '"' d
  generalize written '"' c = u at hc h
  generalize written '"' d = v at hd h
  -- A backslash starts the escaped forms only, and `u` behind it the code points only.
  cases hc with
  | short hc =>
      cases hd with
      | short hd =>
          cases h
          exact ⟨shortEscapes_inj _ hc _ hd rfl, rfl⟩
      | code =>
          cases h
          exact absurd rfl (shortEscapes_ne_code _ hc)
      | plain hslash =>
          cases h
          exact absurd rfl hslash
  | code =>
      cases hd with
      | short hd =>
          cases h
          exact absurd rfl (shortEscapes_ne_code _ hd)
      | code =>
          exact codePoint_append_inj h
      | plain hslash =>
          cases h
          exact absurd rfl hslash
  | plain hslash =>
      cases hd with
      | short | code =>
          cases h
          exact absurd rfl hslash
      | plain =>
          cases h
          exact ⟨rfl, rfl⟩

theorem written_ne_mark
    (c : Char)
    (r s : Text) :
    written '"' c ++ r ≠ '"' :: s := by
  intro h
  have hc := form_written '"' c
  generalize written '"' c = u at hc h
  cases hc with
  | short | code =>
      cases h
  | plain _ hmark =>
      cases h
      exact hmark rfl

theorem text_append
    (t r : Text) :
    text t ++ r = '"' :: (t.flatMap (written '"') ++ '"' :: r) := by
  simp [text, between]

theorem body_inj
    {t t' r s : Text}
    (h : t.flatMap (written '"') ++ '"' :: r = t'.flatMap (written '"') ++ '"' :: s) :
    t = t' ∧ r = s := by
  induction t generalizing t' with
  | nil =>
      cases t' with
      | nil =>
          exact ⟨rfl, (List.cons.inj h).2⟩
      | cons c t' =>
          rw [List.flatMap_cons, List.append_assoc] at h
          exact absurd h.symm (written_ne_mark c _ _)
  | cons c t ih =>
      rw [List.flatMap_cons, List.append_assoc] at h
      cases t' with
      | nil =>
          exact absurd h (written_ne_mark c _ _)
      | cons d t' =>
          rw [List.flatMap_cons, List.append_assoc] at h
          obtain ⟨rfl, htail⟩ := selfDelimiting_written h
          obtain ⟨rfl, hrest⟩ := ih htail
          exact ⟨rfl, hrest⟩

/-- Quoted texts are read off in one way. -/
theorem selfDelimiting_text :
    Text.SelfDelimiting text := by
  intro t t' r s h
  rw [text_append, text_append] at h
  exact body_inj (List.cons.inj h).2

end Quoted
end ContractLexer
