import ContractLexer.Reading

/-!
# The rules of reading, without their order

The first character of a token decides which rule reads it.  The rules are tried
in an order, and this module shows that the order does not matter: white space,
the signs of symbols, the letters with `_`, the digits and the double quote are
five classes of which no two share a character.

**Results.**
* `Symbol.isStart_iff`: the seventeen characters that may start a symbol.
* `isWhitespace_eq_false_of_isWordStart`, `isStart_eq_false_of_isWordPart`,
  `isWordStart_eq_false_of_isDigit` and their companions: the classes are
  disjoint.
* `rule_readToken`, `readToken_eq_of_rule`: reading gives what the one rule that
  is made for the text gives.
-/

namespace ContractLexer

/-- What can be evaluated at each character of a text holds at each of them. -/
theorem forall_mem_of_all
    {p : Char → Prop}
    [DecidablePred p]
    {t : Text}
    (h : t.all (fun c => decide (p c)) = true) :
    ∀ c ∈ t, p c := by
  simpa only [List.all_eq_true, decide_eq_true_eq] using h

namespace CodeRange

/-- No range of the first list meets a range of the second. -/
def Apart (as bs : List CodeRange) : Prop :=
  ∀ r ∈ as, ∀ s ∈ bs, r.2 < s.1 ∨ s.2 < r.1

instance (as bs : List CodeRange) : Decidable (Apart as bs) :=
  inferInstanceAs (Decidable (∀ r ∈ as, ∀ s ∈ bs, r.2 < s.1 ∨ s.2 < r.1))

/-- A code point found in one of two lists that are apart is not found in the
other. -/
theorem search_eq_false_of_apart
    {as bs : List CodeRange}
    (has : ascending as = true)
    (hbs : ascending bs = true)
    (hapart : Apart as bs)
    {n : Nat}
    (h : search as n = true) :
    search bs n = false := by
  obtain ⟨r, hr, hr₁, hr₂⟩ := (search_iff has n).1 h
  rw [Bool.eq_false_iff]
  intro hsearch
  obtain ⟨s, hs, hs₁, hs₂⟩ := (search_iff hbs n).1 hsearch
  have hrs := hapart r hr s hs
  omega

end CodeRange

namespace Symbol

/-- The characters that may start a symbol. -/
def starts : List Char :=
  ['@', ':', '=', ',', '.', '<', '>', '(', ')', '\x7b', '\x7d', '[', ']', '+', '-', '*', '/']

/-- A character is found as a symbol exactly when it is the whole glyph. -/
theorem ofChar?_eq_some_iff
    {c : Char}
    {s : Symbol} :
    ofChar? c = some s ↔ s.glyph = [c] := by
  constructor
  · intro h
    simpa using List.find?_some h
  · intro h
    cases s <;> cases h <;> rfl

/-- None of the characters set aside is a symbol. -/
theorem ofChar?_eq_none_of_mem_reserved :
    ∀ c ∈ reserved, ofChar? c = none := by
  exact forall_mem_of_all (by decide)

theorem mem_starts_of_mem_reserved :
    ∀ c ∈ reserved, c ∈ starts := by
  exact forall_mem_of_all (by decide)

theorem mem_reserved_of_ofChar?_eq_none :
    ∀ c ∈ starts, ofChar? c = none → c ∈ reserved := by
  exact forall_mem_of_all (by decide)

/-- The characters that may start a symbol are the seventeen of the list. -/
theorem isStart_iff
    {c : Char} :
    isStart c = true ↔ c ∈ starts := by
  constructor
  · intro h
    simp only [isStart, Bool.or_eq_true, Option.isSome_iff_exists, List.contains_iff_mem] at h
    rcases h with ⟨s, hs⟩ | h
    · rw [ofChar?_eq_some_iff] at hs
      cases s <;> cases hs <;> decide
    · exact mem_starts_of_mem_reserved c h
  · have hall : ∀ d ∈ starts, isStart d = true := by
      exact forall_mem_of_all (by decide)
    exact hall c

end Symbol

theorem isWhitespace_eq_false_of_isAlphabetic
    {c : Char}
    (h : isAlphabetic c = true) :
    isWhitespace c = false := by
  have hapart : CodeRange.Apart Alphabetic.ranges Whitespace.ranges := by
    decide +kernel
  exact CodeRange.search_eq_false_of_apart
    Alphabetic.ascending_ranges Whitespace.ascending_ranges hapart h

theorem isWhitespace_eq_false_of_isWordStart
    {c : Char}
    (h : isWordStart c = true) :
    isWhitespace c = false := by
  simp only [isWordStart, Bool.or_eq_true, beq_iff_eq] at h
  rcases h with rfl | h
  · decide
  · exact isWhitespace_eq_false_of_isAlphabetic h

/-- The digits, as a range of code points. -/
theorem isDigit_iff_search
    {c : Char} :
    c.isDigit = true ↔ CodeRange.search [(0x30, 0x39)] c.toNat = true := by
  simp [Char.isDigit, CodeRange.search, UInt32.le_iff_toNat_le]

theorem isWhitespace_eq_false_of_isDigit
    {c : Char}
    (h : c.isDigit = true) :
    isWhitespace c = false := by
  have hapart : CodeRange.Apart [(0x30, 0x39)] Whitespace.ranges := by
    decide
  exact CodeRange.search_eq_false_of_apart
    (by decide) Whitespace.ascending_ranges hapart (isDigit_iff_search.1 h)

theorem isWordStart_eq_false_of_isDigit
    {c : Char}
    (h : c.isDigit = true) :
    isWordStart c = false := by
  have hapart : CodeRange.Apart [(0x30, 0x39)] Alphabetic.ranges := by
    decide +kernel
  have halpha : isAlphabetic c = false :=
    CodeRange.search_eq_false_of_apart
      (by decide) Alphabetic.ascending_ranges hapart (isDigit_iff_search.1 h)
  have hline : c ≠ '_' := by
    rintro rfl
    cases h
  simp [isWordStart, halpha, hline]

theorem isWhitespace_eq_false_of_mem_starts :
    ∀ c ∈ Symbol.starts, isWhitespace c = false := by
  exact forall_mem_of_all (by decide)

theorem isWordPart_eq_false_of_mem_starts :
    ∀ c ∈ Symbol.starts, isWordPart c = false := by
  exact forall_mem_of_all (by decide)

/-- No letter and no digit starts a symbol, and neither does `_`. -/
theorem isStart_eq_false_of_isWordPart
    {c : Char}
    (h : isWordPart c = true) :
    Symbol.isStart c = false := by
  rw [Bool.eq_false_iff]
  intro hstart
  have hpart := isWordPart_eq_false_of_mem_starts c (Symbol.isStart_iff.1 hstart)
  rw [h] at hpart
  cases hpart

theorem isDigit_eq_false_of_isWordPart_eq_false
    {c : Char}
    (h : isWordPart c = false) :
    c.isDigit = false := by
  simp only [isWordPart, Bool.or_eq_false_iff] at h
  exact h.2

theorem isWordPart_of_isDigit
    {c : Char}
    (h : c.isDigit = true) :
    isWordPart c = true := by
  simp [isWordPart, h]

/-! ## The rules without their order -/

/-- What each rule of reading gives, for the characters it is made for.  The rules
are listed without an order. -/
inductive Rule : Char → Text → Except Failure Reading → Prop
  | whitespace
      {c : Char}
      (h : isWhitespace c = true)
      (rest : Text) :
      Rule c rest (.ok (.ofRun isWhitespace .whitespace (c :: rest)))
  | comment
      (rest : Text) :
      Rule '/' ('/' :: rest) (.ok (.ofRun (fun d => d != '\n') .comment ('/' :: '/' :: rest)))
  | symbol
      {c : Char}
      {rest : Text}
      (h : c ∈ Symbol.starts)
      (hcomment : ¬ (c = '/' ∧ rest.head? = some '/')) :
      Rule c rest (Reading.ofSymbol c rest)
  | word
      {c : Char}
      (h : isWordStart c = true)
      (rest : Text) :
      Rule c rest (.ok (.ofRun isWordPart wordKind (c :: rest)))
  | number
      {c : Char}
      (h : c.isDigit = true)
      (rest : Text) :
      Rule c rest (.ok (.ofNumber (c :: rest)))
  | string
      (rest : Text) :
      Rule '"' rest (Reading.ofString rest)
  | unexpected
      {c : Char}
      (hspace : isWhitespace c = false)
      (hstart : c ∉ Symbol.starts)
      (hword : isWordStart c = false)
      (hdigit : c.isDigit = false)
      (hquote : c ≠ '"')
      (rest : Text) :
      Rule c rest (.error (.here (.unexpectedCharacter c)))

/-- Reading follows one of the rules. -/
theorem rule_readToken
    (c : Char)
    (rest : Text) :
    Rule c rest (readToken c rest) := by
  unfold readToken
  split
  · next h =>
      exact .whitespace h rest
  next hspace =>
  split
  · next h =>
      obtain ⟨rfl, hhead⟩ := h
      obtain ⟨behind, rfl⟩ := List.head?_eq_some_iff.1 hhead
      exact .comment behind
  next hcomment =>
  split
  · next h =>
      exact .symbol (Symbol.isStart_iff.1 h) hcomment
  next hstart =>
  split
  · next h =>
      exact .word h rest
  next hword =>
  split
  · next h =>
      exact .number h rest
  next hdigit =>
  split
  · next h =>
      subst h
      exact .string rest
  · next hquote =>
      rw [Symbol.isStart_iff] at hstart
      exact .unexpected (by simpa using hspace) hstart (by simpa using hword)
        (by simpa using hdigit) hquote rest

/-- Any rule that is made for a text gives what reading gives, so at most one is
made for it. -/
theorem readToken_eq_of_rule
    {c : Char}
    {rest : Text}
    {result : Except Failure Reading}
    (h : Rule c rest result) :
    readToken c rest = result := by
  cases h with
  | whitespace h =>
      simp [readToken, h]
  | comment behind =>
      have hspace : isWhitespace '/' = false := by
        decide
      simp [readToken, hspace]
  | symbol h hcomment =>
      have hspace := isWhitespace_eq_false_of_mem_starts _ h
      have hstart := Symbol.isStart_iff.2 h
      simp [readToken, hspace, hcomment, hstart]
  | word h =>
      have hspace := isWhitespace_eq_false_of_isWordStart h
      have hstart := isStart_eq_false_of_isWordPart (isWordPart_of_isWordStart h)
      have hslash : c ≠ '/' := by
        rintro rfl
        cases hstart
      simp [readToken, hspace, hstart, hslash, h]
  | number h =>
      have hspace := isWhitespace_eq_false_of_isDigit h
      have hstart := isStart_eq_false_of_isWordPart (isWordPart_of_isDigit h)
      have hword := isWordStart_eq_false_of_isDigit h
      have hslash : c ≠ '/' := by
        rintro rfl
        cases hstart
      simp [readToken, hspace, hstart, hslash, hword, h]
  | string =>
      have hspace : isWhitespace '"' = false := by
        decide
      have hstart : Symbol.isStart '"' = false := by
        decide
      have hword : isWordStart '"' = false := by
        decide
      simp [readToken, hspace, hstart, hword]
  | unexpected hspace hstart hword hdigit hquote =>
      have hslash : c ≠ '/' := by
        rintro rfl
        exact hstart (by decide)
      rw [← Symbol.isStart_iff, Bool.not_eq_true] at hstart
      simp [readToken, hspace, hstart, hslash, hword, hdigit, hquote]

end ContractLexer
