import ContractLexer.Listing.Options
import ContractLexer.Proofs.Spelling
import Mathlib.Data.List.Basic

/-!
# Flags and their warnings

Which arguments spell which flag, and which warnings a list of arguments calls for.
Both are said by the form of the arguments alone.

**Results.**
* `Listing.Flag.width?_eq_some_iff`: the texts that are a width.
* `Listing.Flag.spells_ofText`: the flag that every argument spells.
* `Listing.Options.warned_warnings`, `Listing.Options.Warned.eq_warnings`: the warnings
  for a list of arguments are the ones that it calls for, and no others.
-/

namespace ContractLexer
namespace Listing

namespace Flag

/-- The text is the width `n`: the decimal digits of a number up to 255, with or without
one plus sign in front. -/
def IsWidth (text : Text) (n : Fin 256) : Prop :=
  ∃ digits,
    Text.IsDigits digits ∧
      (text = digits ∨ text = '+' :: digits) ∧
      Nat.ofDigitChars 10 digits 0 = n

/-- The text without the plus sign in front of it, if there is one. -/
def unsigned (text : Text) : Text :=
  match text with
  | '+' :: rest => rest
  | _ => text

theorem isWidth_iff
    {text : Text}
    {n : Fin 256} :
    IsWidth text n ↔
      Text.IsDigits (unsigned text) ∧ Nat.ofDigitChars 10 (unsigned text) 0 = n := by
  constructor
  · rintro ⟨digits, hdigits, rfl | rfl, hn⟩
    · have hunsigned : unsigned text = text := by
        unfold unsigned
        split
        · -- A plus sign is no digit.
          exact absurd (hdigits.2 '+' List.mem_cons_self) (by decide)
        · rfl
      rw [hunsigned]
      exact ⟨hdigits, hn⟩
    · exact ⟨hdigits, hn⟩
  · rintro ⟨hdigits, hn⟩
    refine ⟨unsigned text, hdigits, ?_, hn⟩
    unfold unsigned
    split
    · exact Or.inr rfl
    · exact Or.inl rfl

theorem width?_eq_some_iff
    {text : Text}
    {n : Fin 256} :
    width? text = some n ↔ IsWidth text n := by
  have hwidth :
      width? text =
        if unsigned text ≠ [] ∧ (unsigned text).all Char.isDigit = true then
          if h : Nat.ofDigitChars 10 (unsigned text) 0 < 256 then
            some ⟨Nat.ofDigitChars 10 (unsigned text) 0, h⟩
          else none
        else none := by
    rfl
  have hdigits :
      (unsigned text ≠ [] ∧ (unsigned text).all Char.isDigit = true) ↔
        Text.IsDigits (unsigned text) := by
    rw [Text.IsDigits, List.all_eq_true]
  rw [isWidth_iff, ← hdigits, hwidth]
  split
  · next h =>
      split
      · simp [h, Fin.ext_iff]
      · next hlarge =>
          have hne : Nat.ofDigitChars 10 (unsigned text) 0 ≠ n := by
            omega
          simp [hne]
  · next h =>
      constructor
      · nofun
      · rintro ⟨hboth, -⟩
        exact absurd hboth h

theorem width?_eq_none_iff
    {text : Text} :
    width? text = none ↔ ∀ n, ¬ IsWidth text n := by
  rw [Option.eq_none_iff_forall_ne_some]
  simp only [ne_eq, width?_eq_some_iff]

/-- The argument spells the flag. -/
inductive Spells : Text → Flag → Prop
  | showTrivia :
      Spells "--trivia".toList .showTrivia
  | showLocations :
      Spells "--locations".toList (.showLocations true)
  | hideLocations :
      Spells "--no-locations".toList (.showLocations false)
  | indent
      {width : Text}
      {n : Fin 256}
      (h : IsWidth width n) :
      Spells ("--indent=".toList ++ width) (.indent n)
  | badIndent
      {width : Text}
      (h : ∀ n, ¬ IsWidth width n) :
      Spells ("--indent=".toList ++ width) (.badIndent width)
  | unknown
      {argument : Text}
      (htrivia : argument ≠ "--trivia".toList)
      (hshow : argument ≠ "--locations".toList)
      (hhide : argument ≠ "--no-locations".toList)
      (hindent : ∀ width, argument ≠ "--indent=".toList ++ width) :
      Spells argument (.unknown argument)

/-- Every argument spells the flag that it is taken for. -/
theorem spells_ofText
    (argument : Text) :
    Spells argument (ofText argument) := by
  unfold ofText
  split
  · next h =>
      rw [h]
      exact .showTrivia
  next htrivia =>
  split
  · next h =>
      rw [h]
      exact .showLocations
  next hshow =>
  split
  · next h =>
      rw [h]
      exact .hideLocations
  next hhide =>
  split
  · next width hprefix =>
      rw [← List.isPrefixOf?_eq_some_iff_append_eq.1 hprefix]
      split
      · next n hn =>
          exact .indent (width?_eq_some_iff.1 hn)
      · next hnone =>
          exact .badIndent (width?_eq_none_iff.1 hnone)
  · next hprefix =>
      refine .unknown htrivia hshow hhide ?_
      intro width heq
      rw [List.isPrefixOf?_eq_some_iff_append_eq.2 heq.symm] at hprefix
      cases hprefix

theorem ofText_indent
    (width : Text) :
    ofText ("--indent=".toList ++ width) =
      match width? width with
      | some n => .indent n
      | none => .badIndent width := by
  have hprefix : "--indent=".toList.isPrefixOf? ("--indent=".toList ++ width) = some width :=
    List.isPrefixOf?_eq_some_iff_append_eq.2 rfl
  have htrivia : "--indent=".toList ++ width ≠ "--trivia".toList := by
    intro h
    cases h
  have hshow : "--indent=".toList ++ width ≠ "--locations".toList := by
    intro h
    cases h
  have hhide : "--indent=".toList ++ width ≠ "--no-locations".toList := by
    intro h
    cases h
  cases hwidth : width? width with
  | none =>
      simp only [ofText, if_neg htrivia, if_neg hshow, if_neg hhide, hprefix, hwidth]
  | some n =>
      simp only [ofText, if_neg htrivia, if_neg hshow, if_neg hhide, hprefix, hwidth]

/-- An argument spells one flag only. -/
theorem ofText_of_spells
    {argument : Text}
    {flag : Flag}
    (h : Spells argument flag) :
    ofText argument = flag := by
  cases h with
  | showTrivia | showLocations | hideLocations =>
      rfl
  | indent h =>
      rw [ofText_indent, width?_eq_some_iff.2 h]
  | badIndent h =>
      rw [ofText_indent, width?_eq_none_iff.2 h]
  | unknown htrivia hshow hhide hindent =>
      have hprefix : "--indent=".toList.isPrefixOf? argument = none := by
        rw [Option.eq_none_iff_forall_ne_some]
        intro width hsome
        exact hindent width (List.isPrefixOf?_eq_some_iff_append_eq.1 hsome).symm
      rw [ofText, if_neg htrivia, if_neg hshow, if_neg hhide, hprefix]

end Flag

namespace Options

/-- The warnings that a list of arguments calls for, when `width` spaces are the
indentation in force. -/
inductive Warned : Fin 256 → List Text → List Text → Prop
  | nil
      (width : Fin 256) :
      Warned width [] []
  | known
      {width : Fin 256}
      {argument : Text}
      {rest warnings : List Text}
      (h : argument = "--trivia".toList ∨
        argument = "--locations".toList ∨
        argument = "--no-locations".toList)
      (tail : Warned width rest warnings) :
      Warned width (argument :: rest) warnings
  | indent
      {width n : Fin 256}
      {text : Text}
      {rest warnings : List Text}
      (h : Flag.IsWidth text n)
      (tail : Warned n rest warnings) :
      Warned width (("--indent=".toList ++ text) :: rest) warnings
  | badIndent
      {width : Fin 256}
      {text : Text}
      {rest warnings : List Text}
      (h : ∀ n, ¬ Flag.IsWidth text n)
      (tail : Warned width rest warnings) :
      Warned width (("--indent=".toList ++ text) :: rest)
        (("warning: invalid indent width '".toList ++ text ++
          "' (expected 0-255), using ".toList ++ Text.decimal width) :: warnings)
  | unknown
      {width : Fin 256}
      {argument : Text}
      {rest warnings : List Text}
      (htrivia : argument ≠ "--trivia".toList)
      (hshow : argument ≠ "--locations".toList)
      (hhide : argument ≠ "--no-locations".toList)
      (hindent : ∀ text, argument ≠ "--indent=".toList ++ text)
      (tail : Warned width rest warnings) :
      Warned width (argument :: rest)
        (("warning: unknown option '".toList ++ argument ++ ['\x27']) :: warnings)

/-- The warnings for a list of arguments are the ones that it calls for. -/
theorem warned_warnings
    (o : Options)
    (arguments : List Text) :
    Warned o.indentWidth arguments (o.warnings arguments) := by
  induction arguments generalizing o with
  | nil =>
      exact .nil o.indentWidth
  | cons argument rest ih =>
      have hspells := Flag.spells_ofText argument
      have htail := ih (o.set (Flag.ofText argument))
      rw [warnings]
      generalize Flag.ofText argument = flag at hspells htail
      cases hspells with
      | showTrivia | showLocations | hideLocations =>
          exact .known (by simp) htail
      | indent h =>
          exact .indent h htail
      | badIndent h =>
          exact .badIndent h htail
      | unknown htrivia hshow hhide hindent =>
          exact .unknown htrivia hshow hhide hindent htail

theorem Warned.eq_warnings
    {width : Fin 256}
    {arguments warnings : List Text}
    (h : Warned width arguments warnings)
    {o : Options}
    (ho : o.indentWidth = width) :
    warnings = o.warnings arguments := by
  induction h generalizing o with
  | nil =>
      rfl
  | known hknown _ ih =>
      rw [Options.warnings]
      rcases hknown with rfl | rfl | rfl
      · rw [Flag.ofText_of_spells .showTrivia]
        exact ih ho
      · rw [Flag.ofText_of_spells .showLocations]
        exact ih ho
      · rw [Flag.ofText_of_spells .hideLocations]
        exact ih ho
  | indent hwidth _ ih =>
      rw [Options.warnings, Flag.ofText_of_spells (.indent hwidth)]
      exact ih rfl
  | badIndent hwidth _ ih =>
      rw [Options.warnings, Flag.ofText_of_spells (.badIndent hwidth), ih ho]
      subst ho
      rfl
  | unknown htrivia hshow hhide hindent _ ih =>
      rw [Options.warnings, Flag.ofText_of_spells (.unknown htrivia hshow hhide hindent), ih ho]
      rfl

end Options
end Listing
end ContractLexer
