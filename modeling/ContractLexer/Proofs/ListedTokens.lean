import ContractLexer.Proofs.LoggedReading
import ContractLexer.Proofs.SelfDelimiting
import Mathlib.Control.Monad.Basic

/-!
# The tokens of a listing

A listing shows the tokens of a text, or its significant tokens, one on a line.  Every
part of a line is self-delimiting, so the tokens can be read off the listing, whatever
characters they hold and however deep they are indented.

**Contents.**  The tokens that a listing shows, and the lines of a list of tokens.

**Results.**
* `Listing.ofText_eq_map_lines`: a listing consists of the lines of the tokens that it
  shows, and fails with the error of the text.
* `Listing.line_append_inj`: a line is read off in one way.
* `Listing.tokens_of_ofText_eq`: texts with the same listing have the same tokens in it.
-/

namespace ContractLexer
namespace Listing

/-- The token is listed: trivia only if the options ask for them. -/
def isListed (o : Options) (t : Token) : Bool :=
  o.trivia || !t.isTrivia

/-- The tokens of a text that are listed, or the error that stops reading. -/
def listed (o : Options) (text : Text) : Except LexicalError (List Token) :=
  (tokenize text).map fun ts => ts.filter (isListed o)

/-- The lines of a list of tokens, when `depth` braces are open before it. -/
def lines (o : Options) (depth : Nat) : List Token → Text
  | [] => []
  | t :: ts =>
      line o (shownAt depth t) t ++ lines o (openAfter (shownAt depth t) t) ts

theorem isSkipped_eq
    (o : Options)
    (t : Token) :
    (t.isTrivia && !o.trivia) = !isListed o t := by
  simp [isListed, Bool.and_comm]

theorem ofStream_eq_map_lines
    (o : Options)
    (depth : Nat)
    (items : List Item) :
    ofStream o depth items =
      (Stream.collect items).map fun ts => lines o depth (ts.filter (isListed o)) := by
  induction items generalizing depth with
  | nil =>
      rfl
  | cons item items ih =>
      cases item with
      | error e =>
          rfl
      | ok t =>
          rw [ofStream, isSkipped_eq, Stream.collect]
          -- A token that is left out has no line and leaves the depth as it is.
          cases hlisted : isListed o t with
          | false =>
              rw [Bool.not_false, if_pos rfl, ih]
              cases Stream.collect items <;> simp [Except.map, hlisted]
          | true =>
              rw [Bool.not_true, if_neg Bool.false_ne_true, ih]
              cases Stream.collect items <;> simp [Except.map, hlisted, lines]

/-- A listing consists of the lines of the listed tokens, and fails with the error of
the text. -/
theorem ofText_eq_map_lines
    (o : Options)
    (text : Text) :
    ofText o text = (listed o text).map (lines o 0) := by
  rw [ofText_eq_ofStream, ofStream_eq_map_lines, listed, tokenize]
  cases Stream.collect (Stream.ofText text) <;> rfl

end Listing

/-! ## The parts of a line -/

theorem Keyword.spelling_inj
    {word word' : Keyword}
    (h : word.spelling = word'.spelling) :
    word = word' := by
  have hfound := ofText?_eq_some_iff.2 (congrArg Text.lower h)
  rw [ofText?_eq_some_iff.2 rfl] at hfound
  exact Option.some.inj hfound

theorem Symbol.glyph_inj
    {sign sign' : Symbol}
    (h : sign.glyph = sign'.glyph) :
    sign = sign' := by
  cases sign <;> cases sign' <;> first | rfl | cases h

namespace TokenKind

/-- A kind is known from its class and its value. -/
theorem eq_of_label_eq_of_value_eq
    {kind kind' : TokenKind}
    (hlabel : kind.label = kind'.label)
    (hvalue : kind.value = kind'.value) :
    kind = kind' := by
  -- Different classes have different names, so only pairs of one class are left.
  cases kind <;> cases kind' <;> try exact absurd hlabel (of_decide_eq_false rfl)
  · exact congrArg keyword (Keyword.spelling_inj hvalue)
  · exact congrArg identifier hvalue
  · exact congrArg symbol (Symbol.glyph_inj hvalue)
  · exact congrArg string hvalue
  · exact congrArg number hvalue
  · exact congrArg whitespace hvalue
  · exact congrArg comment hvalue

/-- The name of a class holds letters only. -/
theorem not_mem_label
    (kind : TokenKind)
    {mark : Char}
    (hmark : mark.isAlpha = false) :
    mark ∉ kind.label := by
  intro hmem
  have hletters : ∀ c ∈ kind.label, c.isAlpha = true := by
    cases kind <;> exact forall_mem_of_all rfl
  rw [hletters mark hmem] at hmark
  cases hmark

/-- The form shown in a listing is read off in one way. -/
theorem selfDelimiting_shown :
    Text.SelfDelimiting shown := by
  intro kind kind' r s h
  simp only [shown, List.append_assoc] at h
  obtain ⟨hlabel, htail⟩ :=
    Text.append_mark_inj (kind.not_mem_label rfl) (kind'.not_mem_label rfl) h
  obtain ⟨hvalue, hrest⟩ := Quoted.selfDelimiting_text htail
  exact ⟨eq_of_label_eq_of_value_eq hlabel hvalue, (List.cons.inj hrest).2⟩

/-- The form shown in a listing does not start with a space. -/
theorem endsRun_shown
    (kind : TokenKind)
    (r : Text) :
    Text.EndsRun (fun c => c == ' ') (kind.shown ++ r) := by
  intro c hc
  cases kind <;> cases hc <;> rfl

end TokenKind

/-- Locations at the end of a line are read off in one way. -/
theorem Location.selfDelimiting_line :
    Text.SelfDelimiting fun l : Location => l.written ++ ['\n'] := by
  intro l l' r s h
  simp only [written, List.append_assoc] at h
  rw [← List.append_assoc, ← List.append_assoc (Text.decimal l'.line)] at h
  obtain ⟨hline, htail⟩ :=
    Text.selfDelimiting_numeral (by decide) (by decide) (by decide) h
  rw [← List.append_assoc, ← List.append_assoc (Text.decimal l'.column)] at htail
  obtain ⟨hcolumn, hrest⟩ :=
    Text.selfDelimiting_numeral (by decide) (by decide) (by decide) htail
  cases l
  cases l'
  cases hline
  cases hcolumn
  exact ⟨rfl, hrest⟩

namespace Listing

/-- Without its leading spaces a line starts with what it shows. -/
theorem dropWhile_indent
    (n : Nat)
    {t : Text}
    (ht : Text.EndsRun (fun c => c == ' ') t) :
    (List.replicate n ' ' ++ t).dropWhile (fun c => c == ' ') = t := by
  apply Text.dropWhile_append_of_endsRun _ ht
  intro c hc
  rw [List.eq_of_mem_replicate hc]
  rfl

theorem indent_append_inj
    {m n : Nat}
    {s t : Text}
    (hs : Text.EndsRun (fun c => c == ' ') s)
    (ht : Text.EndsRun (fun c => c == ' ') t)
    (h : List.replicate m ' ' ++ s = List.replicate n ' ' ++ t) :
    s = t := by
  have hdrop := congrArg (List.dropWhile fun c => c == ' ') h
  rwa [dropWhile_indent m hs, dropWhile_indent n ht] at hdrop

/-- A line is read off in one way, at whatever depth it stands. -/
theorem line_append_inj
    {o : Options}
    {depth depth' : Nat}
    {t t' : Token}
    {r s : Text}
    (h : line o depth t ++ r = line o depth' t' ++ s) :
    t.kind = t'.kind ∧
      (o.locations = true → t.location = t'.location) ∧
      r = s := by
  simp only [line, List.append_assoc] at h
  have hshown :=
    indent_append_inj (t.kind.endsRun_shown _) (t'.kind.endsRun_shown _) h
  obtain ⟨hkind, htail⟩ := TokenKind.selfDelimiting_shown hshown
  refine ⟨hkind, ?_⟩
  cases hlocations : o.locations with
  | false =>
      rw [hlocations] at htail
      exact ⟨nofun, (List.cons.inj htail).2⟩
  | true =>
      rw [hlocations] at htail
      simp only [if_true, List.append_assoc, List.append_cancel_left_eq] at htail
      rw [← List.append_assoc, ← List.append_assoc t'.location.written] at htail
      obtain ⟨hlocation, hrest⟩ := Location.selfDelimiting_line htail
      exact ⟨fun _ => hlocation, hrest⟩

theorem line_ne_nil
    (o : Options)
    (depth : Nat)
    (t : Token) :
    line o depth t ≠ [] := by
  simp [line]

/-- The tokens are read off their lines. -/
theorem tokens_of_lines_eq
    {o : Options}
    {depth : Nat}
    {ts us : List Token}
    (h : lines o depth ts = lines o depth us) :
    ts.map Token.kind = us.map Token.kind ∧ (o.locations = true → ts = us) := by
  induction ts generalizing depth us with
  | nil =>
      cases us with
      | nil =>
          exact ⟨rfl, fun _ => rfl⟩
      | cons u us =>
          exact absurd (List.append_eq_nil_iff.1 h.symm).1 (line_ne_nil _ _ _)
  | cons t ts ih =>
      cases us with
      | nil =>
          exact absurd (List.append_eq_nil_iff.1 h).1 (line_ne_nil _ _ _)
      | cons u us =>
          obtain ⟨hkind, hlocation, htail⟩ := line_append_inj h
          -- The depth behind the line depends on the kind of its token alone.
          have hsign : ∀ sign, t.isSymbol sign = u.isSymbol sign := by
            intro sign
            rw [Token.isSymbol, hkind, ← Token.isSymbol]
          have hdepth :
              openAfter (shownAt depth t) t = openAfter (shownAt depth u) u := by
            simp only [openAfter, shownAt, hsign]
          rw [hdepth] at htail
          obtain ⟨hkinds, htokens⟩ := ih htail
          refine ⟨by rw [List.map_cons, List.map_cons, hkind, hkinds], ?_⟩
          intro hshown
          have htoken : t = u := by
            cases t
            cases u
            cases hkind
            cases hlocation hshown
            rfl
          rw [htoken, htokens hshown]

/-- A listing determines the tokens it shows: texts with the same listing have listed
tokens of the same kinds, and with locations shown the same tokens. -/
theorem tokens_of_ofText_eq
    {o : Options}
    {text text' listing : Text}
    (h : ofText o text = .ok listing)
    (h' : ofText o text' = .ok listing) :
    ∃ ts us,
      listed o text = .ok ts ∧
        listed o text' = .ok us ∧
        ts.map Token.kind = us.map Token.kind ∧
        (o.locations = true → ts = us) := by
  rw [ofText_eq_map_lines] at h h'
  cases hts : listed o text with
  | error e =>
      rw [hts] at h
      cases h
  | ok ts =>
      cases hus : listed o text' with
      | error e =>
          rw [hus] at h'
          cases h'
      | ok us =>
          rw [hts] at h
          rw [hus] at h'
          have hlines : lines o 0 ts = lines o 0 us :=
            (Except.ok.inj h).trans (Except.ok.inj h').symm
          exact ⟨ts, us, rfl, rfl, tokens_of_lines_eq hlines⟩

theorem tokens_of_ofText_eq_respelled :
    let o : Options := { trivia := false, indentWidth := 2, locations := false }
    let listing :=
      "Keyword(\"def\")\nSymbol(\"\x7b\")\n  String(\"é\\n\")\nSymbol(\"\x7d\")\n".toList
    ofText o "def\x7b\"é\\n\"\x7d".toList = .ok listing ∧
      ofText o "DEF \x7b \"é\n\" \x7d // end".toList = .ok listing ∧
      ∃ ts us,
        listed o "def\x7b\"é\\n\"\x7d".toList = .ok ts ∧
          listed o "DEF \x7b \"é\n\" \x7d // end".toList = .ok us ∧
          ts.map Token.kind = us.map Token.kind := by
  intro o listing
  have h : ofText o "def\x7b\"é\\n\"\x7d".toList = .ok listing := by
    decide +kernel
  have h' : ofText o "DEF \x7b \"é\n\" \x7d // end".toList = .ok listing := by
    decide +kernel
  obtain ⟨ts, us, hts, hus, hkinds, -⟩ := tokens_of_ofText_eq h h'
  exact ⟨h, h', ts, us, hts, hus, hkinds⟩

end Listing
end ContractLexer
