import ContractLexer.Proofs.LiteralBody
import ContractLexer.Proofs.ReadingRules
import ContractLexer.Proofs.ReservedWords

/-!
# Spellings of tokens

Which texts spell a kind of token, and what may stand behind such a text so that
it is not prolonged.  Both are said by the form of the texts alone, without
reference to how they are read.

**Results.**
* `readToken_eq_ok_iff`: reading cuts a text into a spelling and a rest exactly
  when the spelling spells the kind and the rest does not prolong it.
-/

namespace ContractLexer

namespace Text

/-- The texts agree up to the case of ASCII letters. -/
def SameUpToCase (s t : Text) : Prop :=
  lower s = lower t

instance (s t : Text) : Decidable (SameUpToCase s t) :=
  inferInstanceAs (Decidable (lower s = lower t))

/-- One digit or more. -/
def IsDigits (t : Text) : Prop :=
  t ≠ [] ∧ ∀ c ∈ t, c.isDigit = true

/-- Digits, or digits, a point and digits. -/
def IsNumeral (t : Text) : Prop :=
  IsDigits t ∨
    ∃ whole fraction,
      IsDigits whole ∧ IsDigits fraction ∧ t = whole ++ '.' :: fraction

/-- A letter or `_`, followed by letters, `_` and digits. -/
def IsWord (t : Text) : Prop :=
  ∃ c rest,
    t = c :: rest ∧ isWordStart c = true ∧ ∀ d ∈ rest, isWordPart d = true

/-- The text is empty, or its first character does not satisfy `p`. -/
def EndsRun (p : Char → Bool) (t : Text) : Prop :=
  ∀ c, t.head? = some c → p c = false

end Text

namespace TokenKind

/-- The text spells the kind. -/
def SpelledBy : TokenKind → Text → Prop
  | whitespace text, l => l = text ∧ text ≠ [] ∧ ∀ c ∈ text, isWhitespace c = true
  | comment text, l => l = text ∧ (∃ rest, text = '/' :: '/' :: rest) ∧ '\n' ∉ text
  | symbol sign, l => l = sign.glyph
  | keyword word, l => Text.SameUpToCase l word.spelling
  | identifier name, l =>
      l = name ∧ Text.IsWord name ∧ ∀ word : Keyword, ¬ Text.SameUpToCase name word.spelling
  | number digits, l => l = digits ∧ Text.IsNumeral digits
  | string value, l => ∃ body, StringLiteral.Denotes body value ∧ l = '"' :: (body ++ ['"'])

/-- The text `r` behind a token of the kind does not prolong it. -/
def StopsAt : TokenKind → Text → Prop
  | whitespace _, r => Text.EndsRun isWhitespace r
  | comment _, r => r = [] ∨ r.head? = some '\n'
  | keyword _, r => Text.EndsRun isWordPart r
  | identifier _, r => Text.EndsRun isWordPart r
  | number digits, r =>
      Text.EndsRun Char.isDigit r ∧
        ('.' ∉ digits → ∀ d rest, r = '.' :: d :: rest → d.isDigit = false)
  | symbol _, _ => True
  | string _, _ => True

end TokenKind

/-! ## Runs -/

namespace Text

theorem takeWhile_append_of_endsRun
    {p : Char → Bool}
    {t r : Text}
    (hall : ∀ c ∈ t, p c = true)
    (hend : EndsRun p r) :
    (t ++ r).takeWhile p = t := by
  rw [List.takeWhile_append_of_pos hall]
  cases r with
  | nil =>
      simp
  | cons c r =>
      have hc : p c = false := hend c rfl
      simp [hc]

theorem dropWhile_append_of_endsRun
    {p : Char → Bool}
    {t r : Text}
    (hall : ∀ c ∈ t, p c = true)
    (hend : EndsRun p r) :
    (t ++ r).dropWhile p = r := by
  rw [List.dropWhile_append_of_pos hall]
  cases r with
  | nil =>
      rfl
  | cons c r =>
      have hc : p c = false := hend c rfl
      simp [hc]

theorem endsRun_dropWhile
    (p : Char → Bool)
    (t : Text) :
    EndsRun p (t.dropWhile p) := by
  intro c hc
  have hfalse := List.head?_dropWhile_not p t
  rw [hc] at hfalse
  simpa using hfalse

/-- A run of characters other than a line feed ends at the end or at a line feed. -/
theorem endsRun_ne_lineFeed_iff
    {r : Text} :
    EndsRun (fun d => d != '\n') r ↔ r = [] ∨ r.head? = some '\n' := by
  cases r <;> simp [EndsRun]

end Text

namespace TokenKind

theorem stopsAt_comment_iff
    {text r : Text} :
    (comment text).StopsAt r ↔ Text.EndsRun (fun d => d != '\n') r := by
  exact Text.endsRun_ne_lineFeed_iff.symm

end TokenKind

namespace Reading

/-- A run cuts a text in front of the first character that does not belong to
it. -/
theorem ofRun_append
    {p : Char → Bool}
    (kind : Text → TokenKind)
    {t r : Text}
    (hall : ∀ c ∈ t, p c = true)
    (hend : Text.EndsRun p r) :
    ofRun p kind (t ++ r) = { kind := kind t, spelling := t, rest := r } := by
  simp only [ofRun, Text.takeWhile_append_of_endsRun hall hend,
    Text.dropWhile_append_of_endsRun hall hend]

end Reading

/-! ## Words -/

namespace Keyword

theorem ofText?_eq_some_iff
    {text : Text}
    {word : Keyword} :
    ofText? text = some word ↔ Text.SameUpToCase text word.spelling := by
  rw [ofText?_eq_some_iff_lower, Text.SameUpToCase, lower_spelling]

theorem ofText?_eq_none_iff
    {text : Text} :
    ofText? text = none ↔ ∀ word : Keyword, ¬ Text.SameUpToCase text word.spelling := by
  rw [Option.eq_none_iff_forall_ne_some]
  simp only [ne_eq, ofText?_eq_some_iff]

end Keyword

theorem isAlphabetic_of_toLower
    {c : Char}
    (h : isAlphabetic c.toLower = true) :
    isAlphabetic c = true := by
  unfold Char.toLower at h
  split at h
  · next hcapital =>
      have hrange : 0x41 ≤ c.toNat ∧ c.toNat ≤ 0x5a := by
        simpa [UInt32.le_iff_toNat_le] using hcapital
      have hmem : (0x41, 0x5a) ∈ Alphabetic.ranges :=
        List.mem_append_left _ (List.mem_append_left _ List.mem_cons_self)
      exact (CodeRange.search_iff Alphabetic.ascending_ranges _).2 ⟨_, hmem, hrange⟩
  · exact h

/-- A text that spells a reserved word consists of letters. -/
theorem isAlphabetic_of_sameUpToCase
    {text : Text}
    {word : Keyword}
    (h : Text.SameUpToCase text word.spelling) :
    ∀ c ∈ text, isAlphabetic c = true := by
  intro c hc
  have hletters : ∀ d ∈ word.spelling, isAlphabetic d = true := by
    cases word <;> exact forall_mem_of_all (by decide)
  have hlower : c.toLower ∈ word.spelling := by
    rw [← word.lower_spelling, ← h]
    exact List.mem_map_of_mem hc
  exact isAlphabetic_of_toLower (hletters _ hlower)

theorem isWord_of_sameUpToCase
    {text : Text}
    {word : Keyword}
    (h : Text.SameUpToCase text word.spelling) :
    Text.IsWord text := by
  have hletters := isAlphabetic_of_sameUpToCase h
  have hstart : ∀ c ∈ text, isWordStart c = true := by
    intro c hc
    simp [isWordStart, hletters c hc]
  cases text with
  | nil =>
      cases word <;> cases h
  | cons c rest =>
      refine ⟨c, rest, rfl, hstart c List.mem_cons_self, ?_⟩
      intro d hd
      exact isWordPart_of_isWordStart (hstart d (List.mem_cons_of_mem c hd))

theorem isWordPart_of_isWord
    {text : Text}
    (h : Text.IsWord text) :
    ∀ c ∈ text, isWordPart c = true := by
  obtain ⟨c, rest, rfl, hc, hrest⟩ := h
  intro d hd
  rcases List.mem_cons.1 hd with rfl | hd
  · exact isWordPart_of_isWordStart hc
  · exact hrest d hd

/-- A word spells the kind it is taken for. -/
theorem spelledBy_wordKind
    {text : Text}
    (h : Text.IsWord text) :
    (wordKind text).SpelledBy text := by
  unfold wordKind
  split
  · next word hword =>
      exact Keyword.ofText?_eq_some_iff.1 hword
  · next hnone =>
      exact ⟨rfl, h, Keyword.ofText?_eq_none_iff.1 hnone⟩

theorem stopsAt_wordKind_iff
    {text r : Text} :
    (wordKind text).StopsAt r ↔ Text.EndsRun isWordPart r := by
  unfold wordKind
  split <;> exact Iff.rfl

theorem wordKind_of_sameUpToCase
    {text : Text}
    {word : Keyword}
    (h : Text.SameUpToCase text word.spelling) :
    wordKind text = .keyword word := by
  simp [wordKind, Keyword.ofText?_eq_some_iff.2 h]

theorem wordKind_of_not_reserved
    {text : Text}
    (h : ∀ word : Keyword, ¬ Text.SameUpToCase text word.spelling) :
    wordKind text = .identifier text := by
  simp [wordKind, Keyword.ofText?_eq_none_iff.2 h]

/-! ## Numbers -/

theorem isDigits_takeWhile
    {c : Char}
    (h : c.isDigit = true)
    (rest : Text) :
    Text.IsDigits ((c :: rest).takeWhile Char.isDigit) := by
  constructor
  · simp [h]
  · exact List.all_eq_true.1 List.all_takeWhile

theorem not_mem_point_of_isDigits
    {t : Text}
    (h : Text.IsDigits t) :
    '.' ∉ t := by
  intro hmem
  have hdigit := h.2 '.' hmem
  cases hdigit

theorem exists_digit_of_isNumeral
    {t : Text}
    (h : Text.IsNumeral t) :
    ∃ c rest, t = c :: rest ∧ c.isDigit = true := by
  rcases h with h | ⟨whole, fraction, h, -, rfl⟩
  · obtain ⟨c, rest, rfl⟩ := List.exists_cons_of_ne_nil h.1
    exact ⟨c, rest, rfl, h.2 c List.mem_cons_self⟩
  · obtain ⟨c, rest, rfl⟩ := List.exists_cons_of_ne_nil h.1
    exact ⟨c, _, rfl, h.2 c List.mem_cons_self⟩

theorem TokenKind.ne_nil_of_spelledBy
    (kind : TokenKind)
    {text : Text}
    (h : kind.SpelledBy text) :
    text ≠ [] := by
  cases kind with
  | whitespace text =>
      obtain ⟨rfl, hne, -⟩ := h
      exact hne
  | comment text =>
      obtain ⟨rfl, ⟨rest, rfl⟩, -⟩ := h
      exact List.cons_ne_nil _ _
  | symbol sign =>
      cases h
      cases sign <;> exact List.cons_ne_nil _ _
  | keyword word =>
      obtain ⟨c, rest, rfl, -⟩ := isWord_of_sameUpToCase h
      exact List.cons_ne_nil _ _
  | identifier name =>
      obtain ⟨rfl, ⟨c, rest, rfl, -⟩, -⟩ := h
      exact List.cons_ne_nil _ _
  | number digits =>
      obtain ⟨rfl, hnumeral⟩ := h
      obtain ⟨c, rest, rfl, -⟩ := exists_digit_of_isNumeral hnumeral
      exact List.cons_ne_nil _ _
  | string value =>
      obtain ⟨body, -, rfl⟩ := h
      exact List.cons_ne_nil _ _

/-- What is cut off as a number is a numeral, which the rest does not prolong. -/
theorem splitNumber_spells
    {c : Char}
    (h : c.isDigit = true)
    (rest : Text) :
    Text.IsNumeral (splitNumber (c :: rest)).1 ∧
      (TokenKind.number (splitNumber (c :: rest)).1).StopsAt (splitNumber (c :: rest)).2 := by
  have hwhole := isDigits_takeWhile h rest
  have hend := Text.endsRun_dropWhile Char.isDigit (c :: rest)
  unfold splitNumber
  split
  · next d behind hrest =>
      split
      · next hd =>
          refine ⟨Or.inr ⟨_, _, hwhole, isDigits_takeWhile hd behind, rfl⟩, ?_, ?_⟩
          · exact Text.endsRun_dropWhile Char.isDigit (d :: behind)
          · intro hpoint
            exact absurd (by simp) hpoint
      · next hd =>
          rw [hrest] at hend
          refine ⟨Or.inl hwhole, hend, ?_⟩
          rintro - d' behind' heq
          cases heq
          simpa using hd
  · next behind hrest =>
      refine ⟨Or.inl hwhole, hend, ?_⟩
      intro hpoint d behind' heq
      exact absurd heq (hrest d behind')

/-- A numeral that the rest does not prolong is what is cut off as a number. -/
theorem splitNumber_append_of_stopsAt
    {t r : Text}
    (ht : Text.IsNumeral t)
    (hr : (TokenKind.number t).StopsAt r) :
    splitNumber (t ++ r) = (t, r) := by
  obtain ⟨hend, hpoint⟩ := hr
  rcases ht with ht | ⟨whole, fraction, hwhole, hfraction, rfl⟩
  · have htake := Text.takeWhile_append_of_endsRun ht.2 hend
    have hdrop := Text.dropWhile_append_of_endsRun ht.2 hend
    unfold splitNumber
    rw [htake, hdrop]
    split
    · next d behind =>
        have hd := hpoint (not_mem_point_of_isDigits ht) d behind rfl
        simp [hd]
    · rfl
  · obtain ⟨d, fraction, rfl⟩ := List.exists_cons_of_ne_nil hfraction.1
    have hd : d.isDigit = true := hfraction.2 d List.mem_cons_self
    have hstop : Text.EndsRun Char.isDigit ('.' :: (d :: fraction ++ r)) := by
      intro c hc
      cases hc
      rfl
    have htake := Text.takeWhile_append_of_endsRun hwhole.2 hstop
    have hdrop := Text.dropWhile_append_of_endsRun hwhole.2 hstop
    have htake' := Text.takeWhile_append_of_endsRun hfraction.2 hend
    have hdrop' := Text.dropWhile_append_of_endsRun hfraction.2 hend
    simp only [List.append_assoc, List.cons_append] at htake hdrop htake' hdrop' ⊢
    simp only [splitNumber, htake, hdrop, hd, htake', hdrop', if_true]

/-! ## Symbols and string literals -/

namespace Reading

theorem ofSymbol_eq_ok_iff
    {c : Char}
    {rest : Text}
    {r : Reading} :
    ofSymbol c rest = .ok r ↔
      ∃ s : Symbol,
        r.kind = .symbol s ∧ r.spelling = s.glyph ∧ c :: rest = s.glyph ++ r.rest := by
  constructor
  · intro h
    unfold ofSymbol at h
    split at h
    · cases h
      exact ⟨.arrow, rfl, rfl, rfl⟩
    · split at h <;> cases h
      next s hs =>
        rw [Symbol.ofChar?_eq_some_iff] at hs
        exact ⟨s, rfl, hs.symm, by rw [hs]; rfl⟩
  · rintro ⟨s, hkind, hspelling, heq⟩
    obtain ⟨kind, spelling, behind⟩ := r
    subst hkind
    subst hspelling
    cases s <;> cases heq <;> rfl

theorem ofString_eq_ok_iff
    {rest : Text}
    {r : Reading} :
    ofString rest = .ok r ↔
      ∃ body value,
        StringLiteral.Denotes body value ∧
          r.kind = .string value ∧
          r.spelling = '"' :: (body ++ ['"']) ∧
          rest = body ++ '"' :: r.rest := by
  constructor
  · intro h
    unfold ofString at h
    split at h <;> cases h
    next value spelling behind hbody =>
      obtain ⟨body, hdenotes, rfl, rfl⟩ := StringLiteral.readBody_eq_closed_iff.1 hbody
      exact ⟨body, value, hdenotes, rfl, rfl, rfl⟩
  · rintro ⟨body, value, hdenotes, hkind, hspelling, rfl⟩
    obtain ⟨kind, spelling, behind⟩ := r
    subst hkind
    subst hspelling
    have hbody :
        StringLiteral.readBody (body ++ '"' :: behind) =
          .closed value (body ++ ['"']) behind :=
      StringLiteral.readBody_eq_closed_iff.2 ⟨body, hdenotes, rfl, rfl⟩
    simp only [ofString, hbody]

end Reading

/-! ## One token -/

/-- What is read spells its kind, and the rest does not prolong it. -/
theorem spelledBy_and_stopsAt_of_readToken
    {c : Char}
    {rest : Text}
    {r : Reading}
    (h : readToken c rest = .ok r) :
    r.kind.SpelledBy r.spelling ∧ r.kind.StopsAt r.rest := by
  have hrule := rule_readToken c rest
  generalize readToken c rest = result at hrule h
  cases hrule with
  | whitespace hc =>
      cases h
      refine ⟨⟨rfl, ?_, ?_⟩, Text.endsRun_dropWhile _ _⟩
      · simp [hc]
      · exact List.all_eq_true.1 List.all_takeWhile
  | comment behind =>
      cases h
      refine ⟨⟨rfl, ?_, ?_⟩, ?_⟩
      · exact ⟨behind.takeWhile (fun d => d != '\n'), by simp⟩
      · intro hmem
        have hne := List.all_eq_true.1 List.all_takeWhile '\n' hmem
        cases hne
      · exact TokenKind.stopsAt_comment_iff.2 (Text.endsRun_dropWhile _ _)
  | symbol hc hcomment =>
      obtain ⟨s, hkind, hspelling, -⟩ := Reading.ofSymbol_eq_ok_iff.1 h
      rw [hkind, hspelling]
      exact ⟨rfl, trivial⟩
  | word hc =>
      cases h
      have hword : Text.IsWord ((c :: rest).takeWhile isWordPart) := by
        refine ⟨c, rest.takeWhile isWordPart, ?_, hc, ?_⟩
        · simp [isWordPart_of_isWordStart hc]
        · exact List.all_eq_true.1 List.all_takeWhile
      exact ⟨spelledBy_wordKind hword, stopsAt_wordKind_iff.2 (Text.endsRun_dropWhile _ _)⟩
  | number hc =>
      cases h
      obtain ⟨hnumeral, hstop⟩ := splitNumber_spells hc rest
      exact ⟨⟨rfl, hnumeral⟩, hstop⟩
  | string =>
      obtain ⟨body, value, hdenotes, hkind, hspelling, -⟩ := Reading.ofString_eq_ok_iff.1 h
      rw [hkind, hspelling]
      exact ⟨⟨body, hdenotes, rfl⟩, trivial⟩
  | unexpected =>
      cases h

/-- A word in front of a text that does not prolong it is read as a whole. -/
theorem readToken_word
    {c : Char}
    {rest word behind : Text}
    (hword : Text.IsWord word)
    (hend : Text.EndsRun isWordPart behind)
    (heq : c :: rest = word ++ behind) :
    readToken c rest = .ok { kind := wordKind word, spelling := word, rest := behind } := by
  have hparts := isWordPart_of_isWord hword
  obtain ⟨c', tail, rfl, hc, -⟩ := hword
  obtain ⟨rfl, -⟩ := List.cons.inj heq
  rw [readToken_eq_of_rule (.word hc rest), heq, Reading.ofRun_append wordKind hparts hend]

/-- A text that spells a kind and is not prolonged by the rest is read as one
token. -/
theorem readToken_of_spelledBy_and_stopsAt
    {c : Char}
    {rest : Text}
    {r : Reading}
    (heq : c :: rest = r.spelling ++ r.rest)
    (hspelled : r.kind.SpelledBy r.spelling)
    (hstop : r.kind.StopsAt r.rest) :
    readToken c rest = .ok r := by
  obtain ⟨kind, spelling, behind⟩ := r
  simp only at heq hspelled hstop
  cases kind with
  | whitespace text =>
      obtain ⟨rfl, hne, hall⟩ := hspelled
      have hc : isWhitespace c = true := by
        obtain ⟨c', tail, rfl⟩ := List.exists_cons_of_ne_nil hne
        obtain ⟨rfl, -⟩ := List.cons.inj heq
        exact hall c List.mem_cons_self
      rw [readToken_eq_of_rule (.whitespace hc rest), heq,
        Reading.ofRun_append .whitespace hall hstop]
  | comment text =>
      obtain ⟨rfl, ⟨tail, rfl⟩, hline⟩ := hspelled
      have hall : ∀ d ∈ '/' :: '/' :: tail, (d != '\n') = true := by
        intro d hd
        simp only [bne_iff_ne, ne_eq]
        rintro rfl
        exact hline hd
      have hend := TokenKind.stopsAt_comment_iff.1 hstop
      simp only [List.cons_append, List.cons.injEq] at heq
      obtain ⟨rfl, rfl⟩ := heq
      rw [readToken_eq_of_rule (.comment _)]
      exact congrArg Except.ok (Reading.ofRun_append .comment hall hend)
  | symbol s =>
      cases hspelled
      have hrule : Rule c rest (Reading.ofSymbol c rest) := by
        cases s <;> cases heq <;> exact .symbol (by decide) (by simp)
      rw [readToken_eq_of_rule hrule]
      exact Reading.ofSymbol_eq_ok_iff.2 ⟨s, rfl, rfl, heq⟩
  | keyword word =>
      rw [readToken_word (isWord_of_sameUpToCase hspelled) hstop heq,
        wordKind_of_sameUpToCase hspelled]
  | identifier name =>
      obtain ⟨rfl, hword, hreserved⟩ := hspelled
      rw [readToken_word hword hstop heq, wordKind_of_not_reserved hreserved]
  | number digits =>
      obtain ⟨rfl, hnumeral⟩ := hspelled
      obtain ⟨c', tail, rfl, hc⟩ := exists_digit_of_isNumeral hnumeral
      obtain ⟨rfl, -⟩ := List.cons.inj heq
      rw [readToken_eq_of_rule (.number hc rest), heq, Reading.ofNumber,
        splitNumber_append_of_stopsAt hnumeral hstop]
  | string value =>
      obtain ⟨body, hdenotes, rfl⟩ := hspelled
      simp only [List.cons_append, List.append_assoc, List.nil_append, List.cons.injEq] at heq
      obtain ⟨rfl, rfl⟩ := heq
      rw [readToken_eq_of_rule (.string _)]
      exact Reading.ofString_eq_ok_iff.2 ⟨body, value, hdenotes, rfl, rfl, rfl⟩

/-- Reading cuts a text into a spelling and a rest exactly when the spelling
spells the kind and the rest does not prolong it. -/
theorem readToken_eq_ok_iff
    {c : Char}
    {rest : Text}
    {r : Reading} :
    readToken c rest = .ok r ↔
      c :: rest = r.spelling ++ r.rest ∧
        r.kind.SpelledBy r.spelling ∧
        r.kind.StopsAt r.rest := by
  constructor
  · intro h
    exact ⟨(readToken_covers h).1.symm, spelledBy_and_stopsAt_of_readToken h⟩
  · rintro ⟨heq, hspelled, hstop⟩
    exact readToken_of_spelledBy_and_stopsAt heq hspelled hstop

end ContractLexer
