import ContractLexer.Log.Filter
import Mathlib.Data.List.Induction

/-!
# What a log filter lets pass

Of the directives of a filter that cover a target, one decides: no other has a longer
target, and none behind it has one as long.  A record is written if that directive lets
its level pass.

**Contents.**  The directive that decides about a target, the levels that are enabled for
it, and the text of a filter.

**Results.**
* `Log.Level.rank_le_rank_iff`: the order of levels is that of their list.
* `Log.Filter.deciding?_eq_some_iff`: the directive that is chosen is the one that decides.
* `Log.Filter.admits_iff`: the records that are written.
* `Log.Filter.ofText_written`: a filter is read back from its text.
-/

namespace ContractLexer
namespace Log

/-- Ranks follow the list of levels. -/
theorem Level.rank_le_rank_iff
    {level most : Level} :
    level.rank ≤ most.rank ↔ all.idxOf level ≤ all.idxOf most := by
  cases level <;> cases most <;> decide

theorem Directive.covers_iff
    {d : Directive}
    {target : Text} :
    d.covers target = true ↔ d.target <+: target := by
  exact List.isPrefixOf_iff_prefix

namespace Filter

/-! ## The directive that decides -/

/-- The directive decides about the target.  It covers the target, no directive that
covers it has a longer target, and none behind it has one as long. -/
def Decides (f : Filter) (target : Text) (d : Directive) : Prop :=
  ∃ front back,
    f = front ++ d :: back ∧
      d.target <+: target ∧
      (∀ b ∈ front, b.target <+: target → b.target.length ≤ d.target.length) ∧
      ∀ b ∈ back, b.target <+: target → b.target.length < d.target.length

namespace Decides

/-- No directive that covers the target is more specific than the one that decides. -/
theorem length_le
    {f : Filter}
    {target : Text}
    {b d : Directive}
    (h : f.Decides target d)
    (hb : b ∈ f)
    (hcovers : b.target <+: target) :
    b.target.length ≤ d.target.length := by
  obtain ⟨front, back, rfl, -, hfront, hback⟩ := h
  rcases List.mem_append.1 hb with hb | hb
  · exact hfront b hb hcovers
  · rcases List.mem_cons.1 hb with rfl | hb
    · exact Nat.le_refl _
    · exact Nat.le_of_lt (hback b hb hcovers)

/-- A directive at the end decides if none in front of it is more specific. -/
theorem last
    {f : Filter}
    {target : Text}
    {d : Directive}
    (hcovers : d.target <+: target)
    (h : ∀ b ∈ f, b.target <+: target → b.target.length ≤ d.target.length) :
    Decides (f ++ [d]) target d := by
  refine ⟨f, [], rfl, hcovers, h, ?_⟩
  intro b hb
  cases hb

/-- A directive at the end that is less specific, or covers other targets only, changes
nothing. -/
theorem concat
    {f : Filter}
    {target : Text}
    {b d : Directive}
    (h : f.Decides target d)
    (hb : b.target <+: target → b.target.length < d.target.length) :
    Decides (f ++ [b]) target d := by
  obtain ⟨front, back, rfl, hcovers, hfront, hback⟩ := h
  refine ⟨front, back ++ [b], by simp, hcovers, hfront, ?_⟩
  intro b' hb'
  rcases List.mem_append.1 hb' with hb' | hb'
  · exact hback b' hb'
  · rw [List.mem_singleton.1 hb']
    exact hb

end Decides

theorem deciding?_concat
    (f : Filter)
    (d : Directive)
    (target : Text) :
    deciding? (f ++ [d]) target =
      if d.covers target then moreSpecific (deciding? f target) d
      else deciding? f target := by
  unfold deciding?
  rw [List.filter_append, List.foldl_append, List.filter_cons]
  split
  · rfl
  · rfl

/-- The directive that is chosen decides; if none is chosen, none covers the target. -/
theorem deciding?_spec
    (f : Filter)
    (target : Text) :
    match deciding? f target with
    | none => ∀ b ∈ f, ¬ b.target <+: target
    | some d => Decides f target d := by
  -- From the end: the last directive wins unless one in front of it is more specific.
  induction f using List.reverseRecOn with
  | nil =>
      simp [deciding?]
  | append_singleton f d ih =>
      rw [deciding?_concat]
      by_cases hcovers : d.target <+: target
      · rw [if_pos (Directive.covers_iff.2 hcovers)]
        cases hbest : deciding? f target with
        | none =>
            rw [hbest] at ih
            exact .last hcovers fun b hb hb' => absurd hb' (ih b hb)
        | some best =>
            rw [hbest] at ih
            by_cases hless : d.target.length < best.target.length
            · rw [moreSpecific, if_pos hless]
              exact ih.concat fun _ => hless
            · rw [moreSpecific, if_neg hless]
              exact .last hcovers fun b hb hb' =>
                Nat.le_trans (ih.length_le hb hb') (Nat.not_lt.1 hless)
      · rw [if_neg (fun h => hcovers (Directive.covers_iff.1 h))]
        cases hbest : deciding? f target with
        | none =>
            rw [hbest] at ih
            intro b hb
            rcases List.mem_append.1 hb with hb | hb
            · exact ih b hb
            · rw [List.mem_singleton.1 hb]
              exact hcovers
        | some best =>
            rw [hbest] at ih
            exact ih.concat fun h => absurd h hcovers

theorem foldl_moreSpecific_of_less
    {ds : List Directive}
    {d : Directive}
    (h : ∀ b ∈ ds, b.target.length < d.target.length) :
    ds.foldl moreSpecific (some d) = some d := by
  induction ds with
  | nil =>
      rfl
  | cons b ds ih =>
      have hb : b.target.length < d.target.length := h b List.mem_cons_self
      rw [List.foldl_cons, moreSpecific, if_pos hb]
      exact ih fun b' hb' => h b' (List.mem_cons_of_mem b hb')

/-- The directive that is chosen for a target is the one that decides about it. -/
theorem deciding?_eq_some_iff
    {f : Filter}
    {target : Text}
    {d : Directive} :
    f.deciding? target = some d ↔ f.Decides target d := by
  constructor
  · intro h
    have hspec := f.deciding?_spec target
    rw [h] at hspec
    exact hspec
  · rintro ⟨front, back, rfl, hcovers, hfront, hback⟩
    have hchosen : moreSpecific (deciding? front target) d = some d := by
      have hspec := deciding?_spec front target
      cases hbest : deciding? front target with
      | none =>
          rfl
      | some best =>
          rw [hbest] at hspec
          obtain ⟨front', back', rfl, hbest', -, -⟩ := hspec
          have hle := hfront best (by simp) hbest'
          rw [moreSpecific, if_neg (Nat.not_lt.2 hle)]
    have hbehind : ∀ b ∈ back.filter fun b => b.covers target,
        b.target.length < d.target.length := by
      intro b hb
      obtain ⟨hmem, hb'⟩ := List.mem_filter.1 hb
      exact hback b hmem (Directive.covers_iff.1 hb')
    calc
      deciding? (front ++ d :: back) target
        = (back.filter fun b => b.covers target).foldl moreSpecific
            (moreSpecific (deciding? front target) d) := by
          unfold deciding?
          rw [List.filter_append, List.foldl_append, List.filter_cons,
            if_pos (Directive.covers_iff.2 hcovers), List.foldl_cons]
      _ = some d := by
          rw [hchosen, foldl_moreSpecific_of_less hbehind]

/-! ## The records that are written -/

/-- Records of the level and the target are written: the directive that decides about the
target names a level, and in the list of levels, from the least detail to the most, that
level does not stand in front of the one of the records. -/
def Enables (f : Filter) (level : Level) (target : Text) : Prop :=
  ∃ d most,
    f.Decides target d ∧
      d.level = some most ∧
      Level.all.idxOf level ≤ Level.all.idxOf most

theorem admits_iff
    {f : Filter}
    {r : Record} :
    f.admits r = true ↔ f.Enables r.level r.target := by
  unfold admits Enables
  simp only [← deciding?_eq_some_iff]
  cases f.deciding? r.target with
  | none =>
      simp
  | some d =>
      cases hlevel : d.level with
      | none =>
          simp [Directive.admits, hlevel]
      | some most =>
          simp [Directive.admits, hlevel, Level.rank_le_rank_iff]

instance
    (f : Filter)
    (level : Level)
    (target : Text) :
    Decidable (f.Enables level target) :=
  decidable_of_iff
    (f.admits { level := level, target := target, message := [], values := [] } = true)
    admits_iff

end Filter

/-! ## The text of a filter -/

namespace Directive

/-- The word for the most detail that is written. -/
def levelWord : Option Level → Text
  | none => "off".toList
  | some .error => "error".toList
  | some .warn => "warn".toList
  | some .info => "info".toList
  | some .debug => "debug".toList
  | some .trace => "trace".toList

/-- A directive in text: a level, or a target, an equals sign and a level. -/
def written (d : Directive) : Text :=
  if d.target = [] then levelWord d.level
  else d.target ++ ['='] ++ levelWord d.level

/-- The target holds no separator, so that the directive can be written. -/
def Plain (d : Directive) : Prop :=
  '=' ∉ d.target ∧ ',' ∉ d.target

instance
    (d : Directive) :
    Decidable d.Plain :=
  inferInstanceAs (Decidable ('=' ∉ d.target ∧ ',' ∉ d.target))

theorem level?_levelWord
    (level : Option Level) :
    level? (levelWord level) = some level := by
  rcases level with _ | _ | _ | _ | _ | _ <;> decide

theorem not_mem_levelWord
    (level : Option Level) :
    '=' ∉ levelWord level ∧ ',' ∉ levelWord level := by
  rcases level with _ | _ | _ | _ | _ | _ <;> decide

theorem ofText?_written
    {d : Directive}
    (h : d.Plain) :
    ofText? d.written = some d := by
  obtain ⟨hword, -⟩ := not_mem_levelWord d.level
  obtain ⟨htarget, -⟩ := h
  by_cases hbare : d.target = []
  · have hsplit : d.written.splitOn '=' = [levelWord d.level] := by
      rw [written, if_pos hbare, List.splitOn_eq_singleton hword]
    rw [ofText?, hsplit]
    simp only [level?_levelWord, Option.map_some, ← hbare]
  · have hpieces : ∀ piece ∈ [d.target, levelWord d.level], '=' ∉ piece := by
      simpa using ⟨htarget, hword⟩
    have hsplit : d.written.splitOn '=' = [d.target, levelWord d.level] := by
      rw [written, if_neg hbare, ← List.splitOn_intercalate '=' hpieces (by simp),
        List.intercalate_cons_cons, List.intercalate_singleton]
    rw [ofText?, hsplit]
    simp only [level?_levelWord, Option.map_some]

theorem comma_not_mem_written
    {d : Directive}
    (h : d.Plain) :
    ',' ∉ d.written := by
  obtain ⟨-, hword⟩ := not_mem_levelWord d.level
  obtain ⟨-, htarget⟩ := h
  rw [written]
  split
  · exact hword
  · simp [htarget, hword]

end Directive

namespace Filter

/-- The directives of a filter in text, with commas between them. -/
def written (f : Filter) : Text :=
  List.intercalate [','] (f.map Directive.written)

/-- A filter is read back from its text. -/
theorem ofText_written
    {f : Filter}
    (h : ∀ d ∈ f, d.Plain) :
    ofText f.written = f := by
  have hread : (f.map Directive.written).filterMap Directive.ofText? = f := by
    induction f with
    | nil =>
        rfl
    | cons d f ih =>
        have hd : Directive.ofText? d.written = some d :=
          Directive.ofText?_written (h d List.mem_cons_self)
        rw [List.map_cons, List.filterMap_cons_some hd,
          ih fun d' hd' => h d' (List.mem_cons_of_mem d hd')]
  cases f with
  | nil =>
      decide
  | cons d f =>
      have hcommas : ∀ piece ∈ (d :: f).map Directive.written, ',' ∉ piece := by
        intro piece hpiece
        obtain ⟨d', hd', rfl⟩ := List.mem_map.1 hpiece
        exact Directive.comma_not_mem_written (h d' hd')
      have hsplit := List.splitOn_intercalate ',' hcommas (by simp)
      rw [ofText, written, hsplit, hread]

end Filter
end Log
end ContractLexer
