import ContractLexer.Token.StringLiteral

/-!
# The inside of string literals

What may stand between the quotes of a string literal, and which value it
denotes, is said here by a grammar: a plain character denotes itself, and each of
the five escapes denotes one character.

The reader of literal bodies goes through the longest part of a text that the
grammar admits and halts at a quote, at a backslash that starts no escape, or at
the end.  All its answers follow from that.

**Results.**
* `readBody_eq_closed_iff`: a closed body is a part that denotes its value,
  followed by a quote.
* `readBody_eq_badEscape_iff`: a bad escape is preceded by a part that denotes
  some value.
* `readBody_eq_unclosed_iff`: an unclosed body denotes some value, up to a
  backslash that ends the text.
* `denotes_canonical`, `canonical_eq_iff`: the canonical spelling of a value
  denotes it, and is the only one without a raw line feed, tabulator or carriage
  return.
-/

namespace ContractLexer
namespace StringLiteral

/-- The five escapes: the character behind the backslash, and what it means. -/
inductive Escape : Char → Char → Prop
  | lineFeed : Escape 'n' '\n'
  | tabulator : Escape 't' '\t'
  | carriageReturn : Escape 'r' '\r'
  | quote : Escape '"' '"'
  | backslash : Escape '\\' '\\'

/-- The inside of a literal and the value it denotes. -/
inductive Denotes : Text → Text → Prop
  | nil :
      Denotes [] []
  | plain
      {c : Char}
      {body value : Text}
      (hquote : c ≠ '"')
      (hbackslash : c ≠ '\\')
      (tail : Denotes body value) :
      Denotes (c :: body) (c :: value)
  | escape
      {e c : Char}
      {body value : Text}
      (hescape : Escape e c)
      (tail : Denotes body value) :
      Denotes ('\\' :: e :: body) (c :: value)

/-- The table of escapes is the relation. -/
theorem unescape_eq_some_iff
    {e c : Char} :
    unescape e = some c ↔ Escape e c := by
  constructor
  · intro h
    unfold unescape at h
    split at h <;> cases h <;> constructor
  · intro h
    cases h <;> rfl

theorem unescape_eq_none_iff
    {e : Char} :
    unescape e = none ↔ e ∉ ['n', 't', 'r', '"', '\\'] := by
  constructor
  · intro h hmem
    simp only [List.mem_cons, List.not_mem_nil, or_false] at hmem
    rcases hmem with rfl | rfl | rfl | rfl | rfl <;> cases h
  · intro h
    unfold unescape
    split <;> simp_all

/-- Where the reading of a body halts: at the end, at a quote, at a backslash that
ends the text, or at a backslash in front of a character that names no escape. -/
inductive Halt : Text → Prop
  | atEnd :
      Halt []
  | atQuote
      (rest : Text) :
      Halt ('"' :: rest)
  | atLastBackslash :
      Halt ['\\']
  | atBadEscape
      {x : Char}
      (hx : unescape x = none)
      (rest : Text) :
      Halt ('\\' :: x :: rest)

/-- Every text starts with a part that denotes a value, behind which reading
halts. -/
theorem exists_denotes_append_halt
    (text : Text) :
    ∃ body value tail,
      Denotes body value ∧ Halt tail ∧ text = body ++ tail := by
  fun_induction readBody text with
  | case1 =>
      exact ⟨[], [], [], .nil, .atEnd, rfl⟩
  | case2 rest =>
      exact ⟨[], [], _, .nil, .atQuote rest, rfl⟩
  | case3 =>
      exact ⟨[], [], _, .nil, .atLastBackslash, rfl⟩
  | case4 e rest c hc ih =>
      obtain ⟨body, value, tail, hbody, htail, rfl⟩ := ih
      exact ⟨_, _, tail, .escape (unescape_eq_some_iff.1 hc) hbody, htail, rfl⟩
  | case5 e rest hc =>
      exact ⟨[], [], _, .nil, .atBadEscape hc rest, rfl⟩
  | case6 c rest hquote hlast hescape ih =>
      -- The two overlapping patterns with a backslash are excluded by the rest.
      have hbackslash : c ≠ '\\' := by
        intro hc
        cases rest with
        | nil =>
            exact hlast hc rfl
        | cons e rest =>
            exact hescape e rest hc rfl
      obtain ⟨body, value, tail, hbody, htail, rfl⟩ := ih
      exact ⟨c :: body, c :: value, tail, .plain hquote hbackslash hbody, htail, rfl⟩

/-- Put a part of a literal, spelled `piece` and meaning `front`, in front of a
body. -/
def Body.prepend (front piece : Text) : Body → Body
  | .closed value spelling rest => .closed (front ++ value) (piece ++ spelling) rest
  | .badEscape found before => .badEscape found (piece ++ before)
  | .unclosed => .unclosed

theorem Body.prepend_nil
    (body : Body) :
    body.prepend [] [] = body := by
  cases body <;> rfl

theorem Body.cons_prepend
    (c : Char)
    (first front piece : Text)
    (body : Body) :
    (body.prepend front piece).cons c first =
      body.prepend (c :: front) (first ++ piece) := by
  cases body <;> simp [prepend, cons]

theorem readBody_plain
    {c : Char}
    (hquote : c ≠ '"')
    (hbackslash : c ≠ '\\')
    (rest : Text) :
    readBody (c :: rest) = (readBody rest).cons c [c] := by
  rw [readBody]
  · exact hquote
  · intro hc
    exact absurd hc hbackslash
  · intro e behind hc
    exact absurd hc hbackslash

/-- A part that denotes a value is read through. -/
theorem readBody_append
    {body value : Text}
    (h : Denotes body value)
    (rest : Text) :
    readBody (body ++ rest) = (readBody rest).prepend value body := by
  induction h with
  | nil =>
      exact (Body.prepend_nil _).symm
  | plain hquote hbackslash _ ih =>
      rw [List.cons_append, readBody_plain hquote hbackslash, ih, Body.cons_prepend]
      rfl
  | escape hescape _ ih =>
      have hread : unescape _ = some _ := unescape_eq_some_iff.2 hescape
      simp only [List.cons_append, readBody, hread, ih, Body.cons_prepend]
      rfl

/-- A closed body is a part that denotes its value, and a quote. -/
theorem readBody_eq_closed_iff
    {text value spelling rest : Text} :
    readBody text = .closed value spelling rest ↔
      ∃ body,
        Denotes body value ∧
          spelling = body ++ ['"'] ∧
          text = body ++ '"' :: rest := by
  constructor
  · intro h
    obtain ⟨body, front, tail, hbody, htail, rfl⟩ := exists_denotes_append_halt text
    rw [readBody_append hbody] at h
    cases htail with
    | atEnd =>
        cases h
    | atQuote behind =>
        simp only [readBody, Body.prepend, List.append_nil, Body.closed.injEq] at h
        obtain ⟨rfl, rfl, rfl⟩ := h
        exact ⟨body, hbody, rfl, rfl⟩
    | atLastBackslash =>
        cases h
    | atBadEscape hx behind =>
        simp [readBody, hx, Body.prepend] at h
  · rintro ⟨body, hbody, rfl, rfl⟩
    rw [readBody_append hbody]
    simp [readBody, Body.prepend]

/-- A bad escape stands behind a part that denotes some value. -/
theorem readBody_eq_badEscape_iff
    {text before : Text}
    {x : Char} :
    readBody text = .badEscape x before ↔
      ∃ body value rest,
        Denotes body value ∧
          x ∉ ['n', 't', 'r', '"', '\\'] ∧
          before = body ++ ['\\'] ∧
          text = body ++ '\\' :: x :: rest := by
  constructor
  · intro h
    obtain ⟨body, front, tail, hbody, htail, rfl⟩ := exists_denotes_append_halt text
    rw [readBody_append hbody] at h
    cases htail with
    | atEnd =>
        cases h
    | atQuote behind =>
        cases h
    | atLastBackslash =>
        cases h
    | @atBadEscape y hy behind =>
        simp only [readBody, hy, Body.prepend, Body.badEscape.injEq] at h
        obtain ⟨rfl, rfl⟩ := h
        exact ⟨body, front, behind, hbody, unescape_eq_none_iff.1 hy, rfl, rfl⟩
  · rintro ⟨body, value, rest, hbody, hx, rfl, rfl⟩
    rw [readBody_append hbody]
    simp [readBody, unescape_eq_none_iff.2 hx, Body.prepend]

/-- An unclosed body denotes some value, up to a backslash that ends the text. -/
theorem readBody_eq_unclosed_iff
    {text : Text} :
    readBody text = .unclosed ↔
      ∃ body value,
        Denotes body value ∧
          (text = body ∨ text = body ++ ['\\']) := by
  constructor
  · intro h
    obtain ⟨body, front, tail, hbody, htail, rfl⟩ := exists_denotes_append_halt text
    rw [readBody_append hbody] at h
    cases htail with
    | atEnd =>
        exact ⟨body, front, hbody, Or.inl (List.append_nil body)⟩
    | atQuote behind =>
        cases h
    | atLastBackslash =>
        exact ⟨body, front, hbody, Or.inr rfl⟩
    | atBadEscape hx behind =>
        simp [readBody, hx, Body.prepend] at h
  · rintro ⟨body, value, hbody, rfl | rfl⟩
    · have h := readBody_append hbody []
      rw [List.append_nil] at h
      exact h
    · exact readBody_append hbody ['\\']

/-! ## The canonical spelling of a value -/

/-- No line feed, tabulator or carriage return stands in the text. -/
def ControlFree (t : Text) : Prop :=
  '\n' ∉ t ∧ '\t' ∉ t ∧ '\r' ∉ t

instance (t : Text) : Decidable (ControlFree t) :=
  inferInstanceAs (Decidable (_ ∧ _ ∧ _))

theorem controlFree_append_iff
    {s t : Text} :
    ControlFree (s ++ t) ↔ ControlFree s ∧ ControlFree t := by
  simp only [ControlFree, List.mem_append, not_or]
  constructor
  · rintro ⟨⟨hs₁, ht₁⟩, ⟨hs₂, ht₂⟩, hs₃, ht₃⟩
    exact ⟨⟨hs₁, hs₂, hs₃⟩, ht₁, ht₂, ht₃⟩
  · rintro ⟨⟨hs₁, hs₂, hs₃⟩, ht₁, ht₂, ht₃⟩
    exact ⟨⟨hs₁, ht₁⟩, ⟨hs₂, ht₂⟩, hs₃, ht₃⟩

theorem escape_eq_some_iff
    {c e : Char} :
    escape c = some e ↔ Escape e c := by
  constructor
  · intro h
    unfold escape at h
    split at h <;> cases h <;> constructor
  · intro h
    cases h <;> rfl

theorem escape_eq_none_iff
    {c : Char} :
    escape c = none ↔ ControlFree [c] ∧ c ≠ '"' ∧ c ≠ '\\' := by
  unfold escape
  split <;> simp_all [ControlFree, eq_comm]

theorem spelledChar_of_escape
    {c e : Char}
    (h : Escape e c) :
    spelledChar c = ['\\', e] := by
  simp [spelledChar, escape_eq_some_iff.2 h]

/-- A character that is not escaped is spelled as it is, if it is no control
character; otherwise the spelling grows. -/
theorem spelledChar_of_plain
    {c : Char}
    (hquote : c ≠ '"')
    (hbackslash : c ≠ '\\') :
    (ControlFree [c] ∧ spelledChar c = [c]) ∨
      (¬ ControlFree [c] ∧ (spelledChar c).length = 2) := by
  cases h : escape c with
  | none =>
      left
      exact ⟨(escape_eq_none_iff.1 h).1, by simp [spelledChar, h]⟩
  | some e =>
      right
      refine ⟨?_, by simp [spelledChar, h]⟩
      intro hfree
      have hnone := escape_eq_none_iff.2 ⟨hfree, hquote, hbackslash⟩
      rw [h] at hnone
      cases hnone

/-- The canonical spelling of a value denotes it. -/
theorem denotes_canonical
    (value : Text) :
    Denotes (value.flatMap spelledChar) value := by
  induction value with
  | nil =>
      exact .nil
  | cons c value ih =>
      rw [List.flatMap_cons]
      cases h : escape c with
      | none =>
          obtain ⟨-, hquote, hbackslash⟩ := escape_eq_none_iff.1 h
          simp only [spelledChar, h]
          exact .plain hquote hbackslash ih
      | some e =>
          have hescape := escape_eq_some_iff.1 h
          rw [spelledChar_of_escape hescape]
          exact .escape hescape ih

theorem length_le_canonical
    {body value : Text}
    (h : Denotes body value) :
    body.length ≤ (value.flatMap spelledChar).length := by
  induction h with
  | nil =>
      simp
  | plain hquote hbackslash _ ih =>
      rw [List.flatMap_cons, List.length_append, List.length_cons]
      rcases spelledChar_of_plain hquote hbackslash with ⟨-, hc⟩ | ⟨-, hc⟩
      · rw [hc, List.length_singleton]
        omega
      · omega
  | escape hescape _ ih =>
      rw [List.flatMap_cons, List.length_append, spelledChar_of_escape hescape]
      simp only [List.length_cons, List.length_nil]
      omega

/-- The inside of a literal is the canonical spelling of its value exactly when it
is free of control characters.  Otherwise the canonical spelling is longer. -/
theorem canonical_eq_iff
    {body value : Text}
    (h : Denotes body value) :
    value.flatMap spelledChar = body ↔ ControlFree body := by
  induction h with
  | nil =>
      simp [ControlFree]
  | @plain c body value hquote hbackslash tail ih =>
      have hsplit : c :: body = [c] ++ body := rfl
      rw [hsplit, controlFree_append_iff, List.flatMap_cons]
      rcases spelledChar_of_plain hquote hbackslash with ⟨hfree, hc⟩ | ⟨hfree, hc⟩
      · simp [hc, hfree, ih]
      · have hlength := length_le_canonical tail
        constructor
        · intro heq
          have hlen := congrArg List.length heq
          simp only [List.length_append, hc, List.length_singleton] at hlen
          omega
        · intro hall
          exact absurd hall.1 hfree
  | @escape e c body value hescape tail ih =>
      have hfree : ControlFree ['\\', e] := by
        cases hescape <;> decide
      rw [List.flatMap_cons, spelledChar_of_escape hescape]
      have hsplit : '\\' :: e :: body = ['\\', e] ++ body := rfl
      rw [hsplit, controlFree_append_iff, List.append_cancel_left_eq, ih]
      simp [hfree]

end StringLiteral
end ContractLexer
