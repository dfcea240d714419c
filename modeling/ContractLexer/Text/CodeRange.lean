import ContractLexer.Text.Basic

/-!
# Sets of characters given by code-point ranges

A property of characters is stored as an ascending list of closed ranges of code
points.  A character has the property when one of the ranges holds its code
point.

**Results.**
* `search_iff`: on an ascending list, the search that gives up at the first range
  beyond the code point finds every range that holds it.
-/

namespace ContractLexer

/-- A closed range of code points: its first and its last member. -/
abbrev CodeRange := Nat × Nat

namespace CodeRange

/-- Every range ends before the next one starts, and none is empty. -/
def ascending : List CodeRange → Bool
  | [] => true
  | [r] => decide (r.1 ≤ r.2)
  | r :: s :: rest => decide (r.1 ≤ r.2) && decide (r.2 < s.1) && ascending (s :: rest)

/-- Look for a range that holds the code point `n`, and give up at the first range
that starts beyond it. -/
def search : List CodeRange → Nat → Bool
  | [], _ => false
  | r :: rest, n => decide (r.1 ≤ n) && (decide (n ≤ r.2) || search rest n)

/-- The ranges behind the first one of an ascending list start beyond its end. -/
theorem lt_of_mem_of_ascending
    {r s : CodeRange}
    {rest : List CodeRange}
    (hasc : ascending (r :: rest) = true)
    (hs : s ∈ rest) :
    r.2 < s.1 := by
  induction rest generalizing r with
  | nil =>
      cases hs
  | cons t rest ih =>
      simp only [ascending, Bool.and_eq_true, decide_eq_true_eq] at hasc
      obtain ⟨⟨_, hrt⟩, htail⟩ := hasc
      rcases List.mem_cons.1 hs with rfl | hs
      · exact hrt
      · have hts : t.2 < s.1 := ih htail hs
        have htt : t.1 ≤ t.2 := by
          cases rest with
          | nil =>
              simpa [ascending] using htail
          | cons u rest =>
              simp only [ascending, Bool.and_eq_true, decide_eq_true_eq] at htail
              exact htail.1.1
        omega

theorem ascending_tail
    {r : CodeRange}
    {rest : List CodeRange}
    (hasc : ascending (r :: rest) = true) :
    ascending rest = true := by
  cases rest with
  | nil =>
      rfl
  | cons s rest =>
      simp only [ascending, Bool.and_eq_true] at hasc
      exact hasc.2

/-- On an ascending list the search finds a range if and only if one holds the
code point. -/
theorem search_iff
    {ranges : List CodeRange}
    (hasc : ascending ranges = true)
    (n : Nat) :
    search ranges n = true ↔ ∃ r, r ∈ ranges ∧ r.1 ≤ n ∧ n ≤ r.2 := by
  induction ranges with
  | nil =>
      simp [search]
  | cons r rest ih =>
      have htail := ih (ascending_tail hasc)
      simp only [search, Bool.and_eq_true, Bool.or_eq_true, decide_eq_true_eq, htail]
      constructor
      · rintro ⟨hfirst, hlast | ⟨s, hs, hmem⟩⟩
        · exact ⟨r, List.mem_cons_self, hfirst, hlast⟩
        · exact ⟨s, List.mem_cons_of_mem _ hs, hmem⟩
      · rintro ⟨s, hs, hfirst, hlast⟩
        rcases List.mem_cons.1 hs with rfl | hs
        · exact ⟨hfirst, Or.inl hlast⟩
        · have hlt := lt_of_mem_of_ascending hasc hs
          have hrr : r.1 ≤ r.2 := by
            cases rest with
            | nil =>
                cases hs
            | cons t rest =>
                simp only [ascending, Bool.and_eq_true, decide_eq_true_eq] at hasc
                exact hasc.1.1
          exact ⟨by omega, Or.inr ⟨s, hs, hfirst, hlast⟩⟩

end CodeRange
end ContractLexer
