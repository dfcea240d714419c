import ContractLexer.Proofs.OptionFlags

/-!
# The last flag decides

The options are a record that is changed by one argument after the other.  Here they are
said without the record: each field has the value of the last argument that sets it, or
its standard value if no argument does.

What carries this is a frame: an argument sets one field at most, and leaves the others
as they are.

**Contents.**  The fields of the options, the arguments that set a field, and the last of
them in a list of arguments.

**Results.**
* `Listing.Options.sets_iff`: an argument sets the field that its flag names.
* `Listing.Options.agreeOn_set`, `Listing.Options.set_comm`: what a flag leaves alone, and
  that flags for different fields may change places.
* `Listing.Options.agreeOn_ofArguments`: a field after a list of arguments is the one after
  the last argument that sets it.
* `Listing.Options.ofArguments_last_wins`: the options that a list of arguments asks for.
-/

namespace ContractLexer
namespace Listing

namespace Options

/-- The fields of the options. -/
inductive Field where
  | trivia
  | indentWidth
  | locations
  deriving DecidableEq

/-- The argument sets the field. -/
def Sets (argument : Text) : Field → Prop
  | .trivia => argument = "--trivia".toList
  | .indentWidth => ∃ width n, argument = "--indent=".toList ++ width ∧ Flag.IsWidth width n
  | .locations => argument = "--locations".toList ∨ argument = "--no-locations".toList

/-- The argument is the last one in the list that sets the field. -/
def LastSets (arguments : List Text) (f : Field) (argument : Text) : Prop :=
  ∃ before behind,
    arguments = before ++ argument :: behind ∧
      Sets argument f ∧
      ∀ a ∈ behind, ¬ Sets a f

/-- The options agree on the field. -/
def AgreeOn : Field → Options → Options → Prop
  | .trivia, o, p => o.trivia = p.trivia
  | .indentWidth, o, p => o.indentWidth = p.indentWidth
  | .locations, o, p => o.locations = p.locations

end Options

/-- The field that a flag sets. -/
def Flag.field? : Flag → Option Options.Field
  | .showTrivia => some .trivia
  | .showLocations _ => some .locations
  | .indent _ => some .indentWidth
  | .badIndent _ => none
  | .unknown _ => none

namespace Options

/-! ## One argument -/

theorem AgreeOn.refl
    (f : Field)
    (o : Options) :
    AgreeOn f o o := by
  cases f <;> rfl

theorem AgreeOn.trans
    {f : Field}
    {o p q : Options}
    (hop : AgreeOn f o p)
    (hpq : AgreeOn f p q) :
    AgreeOn f o q := by
  cases f <;> exact Eq.trans hop hpq

/-- An argument sets the field that its flag names. -/
theorem sets_iff
    {argument : Text}
    {f : Field} :
    Sets argument f ↔ (Flag.ofText argument).field? = some f := by
  constructor
  · intro h
    cases f with
    | trivia =>
        cases h
        rfl
    | indentWidth =>
        obtain ⟨width, n, rfl, hwidth⟩ := h
        rw [Flag.ofText_of_spells (.indent hwidth)]
        rfl
    | locations =>
        rcases h with rfl | rfl <;> rfl
  · intro h
    have hspells := Flag.spells_ofText argument
    generalize Flag.ofText argument = flag at h hspells
    cases hspells with
    | showTrivia =>
        cases h
        rfl
    | showLocations =>
        cases h
        exact Or.inl rfl
    | hideLocations =>
        cases h
        exact Or.inr rfl
    | indent hwidth =>
        cases h
        exact ⟨_, _, rfl, hwidth⟩
    | badIndent | unknown =>
        cases h

/-- A flag leaves every field alone but the one that it names. -/
theorem agreeOn_set
    {flag : Flag}
    {f : Field}
    (h : flag.field? ≠ some f)
    (o : Options) :
    AgreeOn f (o.set flag) o := by
  cases flag <;> cases f <;> simp_all [Flag.field?, AgreeOn, set]

/-- Flags that do not name the same field may change places. -/
theorem set_comm
    {a b : Flag}
    (h : a.field? ≠ b.field?)
    (o : Options) :
    (o.set a).set b = (o.set b).set a := by
  cases a <;> cases b <;> simp_all [Flag.field?, set]

/-- A flag that names no field changes nothing. -/
theorem set_of_field?_eq_none
    {flag : Flag}
    (h : flag.field? = none)
    (o : Options) :
    o.set flag = o := by
  cases flag with
  | showTrivia | showLocations | indent =>
      cases h
  | badIndent | unknown =>
      rfl

/-! ## A list of arguments -/

/-- Arguments that do not set a field leave it alone. -/
theorem agreeOn_foldl
    {f : Field}
    {arguments : List Text}
    (h : ∀ a ∈ arguments, ¬ Sets a f)
    (o : Options) :
    AgreeOn f (arguments.foldl (fun o argument => o.set (.ofText argument)) o) o := by
  induction arguments generalizing o with
  | nil =>
      exact .refl f o
  | cons a arguments ih =>
      have ha : (Flag.ofText a).field? ≠ some f := by
        rw [ne_eq, ← sets_iff]
        exact h a List.mem_cons_self
      have htail := ih (fun b hb => h b (List.mem_cons_of_mem a hb)) (o.set (.ofText a))
      exact htail.trans (agreeOn_set ha o)

theorem LastSets.sets
    {arguments : List Text}
    {f : Field}
    {a : Text}
    (h : LastSets arguments f a) :
    Sets a f := by
  obtain ⟨before, behind, -, hsets, -⟩ := h
  exact hsets

/-- Either no argument of a list sets a field, or one is the last that does. -/
theorem exists_lastSets
    (f : Field)
    (arguments : List Text) :
    (∀ a ∈ arguments, ¬ Sets a f) ∨ ∃ a, LastSets arguments f a := by
  induction arguments with
  | nil =>
      left
      nofun
  | cons a arguments ih =>
      rcases ih with hnone | ⟨b, before, behind, rfl, hb, hbehind⟩
      · by_cases ha : Sets a f
        · right
          exact ⟨a, [], arguments, rfl, ha, hnone⟩
        · left
          exact List.forall_mem_cons.2 ⟨ha, hnone⟩
      · right
        exact ⟨b, a :: before, behind, rfl, hb, hbehind⟩

/-- After a list of arguments a field is what the last argument that sets it makes of it. -/
theorem agreeOn_ofArguments
    {f : Field}
    {arguments : List Text}
    {a : Text}
    (h : LastSets arguments f a) :
    ∃ o, AgreeOn f (ofArguments arguments) (set o (.ofText a)) := by
  obtain ⟨before, behind, rfl, -, hbehind⟩ := h
  refine ⟨ofArguments before, ?_⟩
  rw [ofArguments, List.foldl_append, List.foldl_cons]
  exact agreeOn_foldl hbehind _

/-- A field that no argument sets has its standard value. -/
theorem agreeOn_standard
    {f : Field}
    {arguments : List Text}
    (h : ∀ a ∈ arguments, ¬ Sets a f) :
    AgreeOn f (ofArguments arguments) standard := by
  exact agreeOn_foldl h standard

theorem trivia_ofArguments_iff
    (arguments : List Text) :
    (ofArguments arguments).trivia = true ↔ "--trivia".toList ∈ arguments := by
  constructor
  · intro htrue
    rcases exists_lastSets .trivia arguments with hnone | ⟨a, before, behind, rfl, rfl, -⟩
    · have hfalse : (ofArguments arguments).trivia = false := agreeOn_standard hnone
      rw [hfalse] at htrue
      cases htrue
    · exact List.mem_append_right before List.mem_cons_self
  · intro hmem
    rcases exists_lastSets .trivia arguments with hnone | ⟨a, hlast⟩
    · exact absurd rfl (hnone _ hmem)
    · obtain ⟨o, hvalue⟩ := agreeOn_ofArguments hlast
      cases hlast.sets
      exact hvalue

theorem locations_ofArguments_iff
    (arguments : List Text) :
    (ofArguments arguments).locations = true ↔
      (∀ a ∈ arguments, ¬ Sets a .locations) ∨
        LastSets arguments .locations "--locations".toList := by
  constructor
  · intro htrue
    rcases exists_lastSets .locations arguments with hnone | ⟨a, hlast⟩
    · exact Or.inl hnone
    · obtain ⟨o, hvalue⟩ := agreeOn_ofArguments hlast
      have hshown : (o.set (Flag.ofText a)).locations = true := hvalue.symm.trans htrue
      rcases hlast.sets with rfl | rfl
      · exact Or.inr hlast
      · cases hshown
  · rintro (hnone | hlast)
    · exact agreeOn_standard hnone
    · obtain ⟨o, hvalue⟩ := agreeOn_ofArguments hlast
      exact hvalue

theorem indentWidth_ofArguments_iff
    (arguments : List Text)
    (n : Fin 256) :
    (ofArguments arguments).indentWidth = n ↔
      (∃ width,
          LastSets arguments .indentWidth ("--indent=".toList ++ width) ∧
            Flag.IsWidth width n) ∨
        ((∀ a ∈ arguments, ¬ Sets a .indentWidth) ∧ n = 2) := by
  have hset : ∀ (o : Options) {width : Text} {m : Fin 256}, Flag.IsWidth width m →
      (o.set (Flag.ofText ("--indent=".toList ++ width))).indentWidth = m := by
    intro o width m hwidth
    rw [Flag.ofText_of_spells (.indent hwidth)]
    rfl
  constructor
  · rintro rfl
    rcases exists_lastSets .indentWidth arguments with hnone | ⟨a, hlast⟩
    · exact Or.inr ⟨hnone, agreeOn_standard hnone⟩
    · obtain ⟨o, hvalue⟩ := agreeOn_ofArguments hlast
      obtain ⟨width, m, rfl, hwidth⟩ := hlast.sets
      have hm : (ofArguments arguments).indentWidth = m := Eq.trans hvalue (hset o hwidth)
      rw [hm]
      exact Or.inl ⟨width, hlast, hwidth⟩
  · rintro (⟨width, hlast, hwidth⟩ | ⟨hnone, rfl⟩)
    · obtain ⟨o, hvalue⟩ := agreeOn_ofArguments hlast
      exact Eq.trans hvalue (hset o hwidth)
    · exact agreeOn_standard hnone

/-- The options that a list of arguments asks for.

Trivia is listed if `--trivia` occurs.  Locations are shown unless the last argument that
speaks of them is `--no-locations`.  The indentation is the last one that is a number from
0 to 255, and two spaces if there is none.  So an argument that sets no field may be left
out wherever it stands, and two neighbours that set different fields may change places. -/
theorem ofArguments_last_wins
    (arguments : List Text) :
    ((ofArguments arguments).trivia = true ↔ "--trivia".toList ∈ arguments) ∧
      ((ofArguments arguments).locations = true ↔
        (∀ a ∈ arguments, ¬ Sets a .locations) ∨
          LastSets arguments .locations "--locations".toList) ∧
      (∀ n, (ofArguments arguments).indentWidth = n ↔
        (∃ width,
            LastSets arguments .indentWidth ("--indent=".toList ++ width) ∧
              Flag.IsWidth width n) ∨
          ((∀ a ∈ arguments, ¬ Sets a .indentWidth) ∧ n = 2)) ∧
      (∀ before a behind,
        arguments = before ++ a :: behind →
          (∀ f, ¬ Sets a f) →
            ofArguments (before ++ behind) = ofArguments arguments) ∧
      (∀ before a b behind f g,
        arguments = before ++ a :: b :: behind →
          Sets a f →
            Sets b g →
              f ≠ g →
                ofArguments (before ++ b :: a :: behind) = ofArguments arguments) := by
  refine ⟨trivia_ofArguments_iff arguments, locations_ofArguments_iff arguments,
    indentWidth_ofArguments_iff arguments, ?_, ?_⟩
  · rintro before a behind rfl hignored
    have hnone : (Flag.ofText a).field? = none := by
      rw [Option.eq_none_iff_forall_ne_some]
      intro f
      rw [ne_eq, ← sets_iff]
      exact hignored f
    simp only [ofArguments, List.foldl_append, List.foldl_cons, set_of_field?_eq_none hnone]
  · rintro before a b behind f g rfl ha hb hne
    rw [sets_iff] at ha hb
    have hfields : (Flag.ofText b).field? ≠ (Flag.ofText a).field? := by
      rw [ha, hb]
      intro h
      exact hne (Option.some.inj h).symm
    simp only [ofArguments, List.foldl_append, List.foldl_cons, set_comm hfields]

theorem ofArguments_last_wins_badIndent :
    let arguments :=
      ["--indent=+004".toList, "--no-locations".toList, "--indent=256".toList,
       "--locations".toList, "--trivia".toList]
    (ofArguments arguments).indentWidth = 4 ∧
      ofArguments
          ["--indent=+004".toList, "--no-locations".toList, "--locations".toList,
           "--trivia".toList] =
        ofArguments arguments ∧
      ofArguments
          ["--indent=+004".toList, "--no-locations".toList, "--indent=256".toList,
           "--trivia".toList, "--locations".toList] =
        ofArguments arguments := by
  intro arguments
  have hwidth : Flag.IsWidth "+004".toList 4 := Flag.width?_eq_some_iff.1 (by decide)
  have hignored : ∀ f, ¬ Sets "--indent=256".toList f := by
    intro f
    rw [sets_iff]
    cases f <;> decide
  have hplain : ∀ a ∈ arguments.tail, ¬ Sets a .indentWidth := by
    intro a
    rw [sets_iff]
    revert a
    decide
  obtain ⟨-, -, hindent, hleave, hswap⟩ := ofArguments_last_wins arguments
  refine ⟨?_, ?_, ?_⟩
  · exact (hindent 4).2 (Or.inl ⟨_, ⟨[], arguments.tail, rfl, ⟨_, 4, rfl, hwidth⟩, hplain⟩, hwidth⟩)
  · exact hleave ["--indent=+004".toList, "--no-locations".toList] _ _ rfl hignored
  · exact hswap
      ["--indent=+004".toList, "--no-locations".toList, "--indent=256".toList] _ _ []
      .locations .trivia rfl (Or.inl rfl) rfl (by decide)

end Options
end Listing
end ContractLexer
