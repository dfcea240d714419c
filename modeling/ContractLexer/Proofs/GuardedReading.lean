import ContractLexer.Guarded.Reading
import ContractLexer.Proofs.GuardedCursor
import ContractLexer.Proofs.SessionStream

/-!
# Reading with a guarded cursor

The rules of reading look at a text and say what is cut off its front.  A guarded cursor
follows the same rules character by character.  Here the two are shown to agree, rule by
rule: where the text fits, no step of the guarded cursor fails, and it comes to stand
behind what the rule cuts off.

**Results.**
* `Cursor.Fits.readRun_guarded`, `Cursor.Fits.readWord_guarded`,
  `Cursor.Fits.readSymbol_guarded`, `Cursor.Fits.readNumber_guarded`,
  `Cursor.Fits.readString_guarded`: one rule each.
* `Cursor.Fits.readToken_guarded`: reading of any token.
-/

namespace ContractLexer

/-- No reserved word has less than two bytes or more than eight. -/
theorem Keyword.candidate?_eq_none
    {size : Nat}
    (h : ¬ (2 ≤ size ∧ size ≤ 8))
    (first : UInt8) :
    candidate? size first = none := by
  unfold candidate?
  split
  · omega
  · omega
  · omega
  · omega
  · rfl

/-- The byte that is looked at is there. -/
theorem Guarded.keyword?_eq
    (word : Text) :
    keyword? word = .ok (Keyword.ofText? word) := by
  unfold keyword? Keyword.ofText?
  cases hbytes : word.bytes with
  | nil =>
      rfl
  | cons first rest =>
      by_cases hsize : 2 ≤ (first :: rest).length ∧ (first :: rest).length ≤ 8
      · simp only [if_pos hsize, byteAt, List.getElem?_cons_zero, ok_bind, pure_eq_ok]
        split <;> rfl
      · simp only [if_neg hsize, Keyword.candidate?_eq_none hsize, Option.filter_none, ite_self,
          pure_eq_ok]

/-- The point and the digits at the front of a text, if there is a digit behind the
point. -/
def fraction : Text → Text
  | '.' :: d :: rest => if d.isDigit then '.' :: (d :: rest).takeWhile Char.isDigit else []
  | _ => []

theorem splitNumber_fst
    (text : Text) :
    (splitNumber text).1 =
      text.takeWhile Char.isDigit ++ fraction (text.dropWhile Char.isDigit) := by
  unfold splitNumber
  split
  · next d rest hrest =>
      rw [hrest, fraction]
      split <;> simp
  · next hrest =>
      rw [fraction, List.append_nil]
      exact hrest

theorem Reading.ofSymbol_of_not_arrow
    {c : Char}
    {rest : Text}
    (h : ¬ (c = '-' ∧ rest.head? = some '>')) :
    ofSymbol c rest =
      match Symbol.ofChar? c with
      | some symbol => .ok { kind := .symbol symbol, spelling := [c], rest := rest }
      | none => .error (.here (.unexpectedSymbol c)) := by
  unfold ofSymbol
  split
  · simp at h
  · rfl

namespace Cursor

theorem next?_advance
    (k : Cursor) :
    k.advance.next? = k.second? := by
  rw [next?, rest_advance, second?]

theorem location_advance
    {k : Cursor}
    {c : Char}
    {rest : Text}
    (h : k.rest = c :: rest) :
    k.advance.location = k.location.step c := by
  simp [advance, h]

@[simp] theorem location_guarded
    (k : Cursor) :
    k.guarded.location = k.location := by
  rfl

/-- What comes of a reading at the place of a cursor. -/
def outcome (k : Cursor) : Except Failure Reading → Guarded.Outcome
  | .ok r =>
      (.ok { kind := r.kind, location := k.location },
        (forward r.spelling.length k).guarded)
  | .error f =>
      (.error (f.toError k.location), (forward f.passed.length k).guarded)

/-- What comes of the rest of a string literal that opened at `start`, when `value` has
been read of its content. -/
def bodyOutcome
    (k : Cursor)
    (start : Location)
    (value : Text) :
    StringLiteral.Body → Guarded.Outcome
  | .closed tail spelling _ =>
      (.ok { kind := .string (value ++ tail), location := start },
        (forward spelling.length k).guarded)
  | .badEscape found before =>
      (.error { cause := .invalidEscape found, location := k.location.after before },
        (forward (before.length + 1) k).guarded)
  | .unclosed =>
      (.error { cause := .unterminatedString, location := start },
        (forward k.rest.length k).guarded)

/-- A piece of a literal is passed first, and its character joins the value. -/
theorem bodyOutcome_cons
    {k : Cursor}
    {piece behind : Text}
    (hrest : k.rest = piece ++ behind)
    (start : Location)
    (value : Text)
    (c : Char)
    (body : StringLiteral.Body) :
    k.bodyOutcome start value (body.cons c piece) =
      (forward piece.length k).bodyOutcome start (value ++ [c]) body := by
  cases body with
  | closed tail spelling rest =>
      simp [bodyOutcome, StringLiteral.Body.cons, forward_forward]
  | badEscape found before =>
      simp [bodyOutcome, StringLiteral.Body.cons, forward_forward, hrest, Nat.add_assoc]
  | unclosed =>
      simp [bodyOutcome, StringLiteral.Body.cons, forward_forward, hrest]

namespace Fits

/-- A run. -/
theorem readRun_guarded
    {k : Cursor}
    (h : k.Fits)
    (p : Char → Bool)
    (kind : Text → TokenKind) :
    k.guarded.readRun p kind = .ok (k.outcome (.ok (.ofRun p kind k.rest))) := by
  rw [Guarded.Cursor.readRun, h.passWhile_guarded]
  rfl

/-- A word. -/
theorem readWord_guarded
    {k : Cursor}
    (h : k.Fits) :
    k.guarded.readWord = .ok (k.outcome (.ok (.ofRun isWordPart wordKind k.rest))) := by
  rw [Guarded.Cursor.readWord, h.passWhile_guarded]
  simp only [Guarded.ok_bind, Guarded.keyword?_eq, outcome, Reading.ofRun, wordKind]
  cases Keyword.ofText? (k.rest.takeWhile isWordPart) <;> rfl

theorem startsPair_guarded
    {k : Cursor}
    (h : k.Fits)
    {c : Char}
    {rest : Text}
    (hrest : k.rest = c :: rest)
    (first second : Char) :
    k.guarded.startsPair c first second =
      .ok (decide (c = first ∧ rest.head? = some second)) := by
  rw [Guarded.Cursor.startsPair]
  by_cases hc : c = first
  · have hsecond : k.second? = rest.head? := by
      rw [Cursor.second?, hrest]
      rfl
    simp [hc, h.second?_guarded, hsecond, Bool.beq_eq_decide_eq]
  · simp [hc]

/-- A symbol. -/
theorem readSymbol_guarded
    {k : Cursor}
    (h : k.Fits)
    {c : Char}
    {rest : Text}
    (hrest : k.rest = c :: rest) :
    k.guarded.readSymbol c = .ok (k.outcome (Reading.ofSymbol c rest)) := by
  rw [Guarded.Cursor.readSymbol, h.startsPair_guarded hrest, Guarded.ok_bind]
  by_cases harrow : c = '-' ∧ rest.head? = some '>'
  · rw [decide_eq_true harrow, if_pos rfl, h.advance_guarded]
    obtain ⟨rfl, hhead⟩ := harrow
    obtain ⟨behind, rfl⟩ := List.head?_eq_some_iff.1 hhead
    simp only [Guarded.ok_bind, h.advance.advance_guarded]
    rfl
  · rw [Reading.ofSymbol_of_not_arrow harrow, decide_eq_false harrow, if_neg Bool.false_ne_true]
    cases Symbol.ofChar? c with
    | none =>
        rfl
    | some symbol =>
        simp only [h.advance_guarded]
        rfl

theorem skipFraction_guarded
    {k : Cursor}
    (h : k.Fits) :
    k.guarded.skipFraction = .ok (Cursor.forward (fraction k.rest).length k).guarded := by
  have hnext : k.guarded.next? = .ok k.rest.head? := h.next?_guarded
  have hsecond : k.guarded.second? = .ok k.rest.tail.head? := h.second?_guarded
  rw [Guarded.Cursor.skipFraction, hnext, hsecond]
  cases hrest : k.rest with
  | nil =>
      rfl
  | cons c rest =>
      by_cases hc : c = '.'
      · subst hc
        cases rest with
        | nil =>
            rfl
        | cons d rest =>
            cases hd : d.isDigit with
            | false =>
                simp [fraction, hd, Cursor.forward]
            | true =>
                simp [fraction, hd, Cursor.forward, h.advance_guarded,
                  h.advance.passWhile_guarded, hrest]
      · have hfraction : fraction (c :: rest) = [] := by
          unfold fraction
          split
          · simp_all
          · rfl
        simp [hfraction, hc, Cursor.forward]

/-- A number, which is cut out as a whole. -/
theorem readNumber_guarded
    {k : Cursor}
    (h : k.Fits) :
    k.guarded.readNumber = .ok (k.outcome (.ok (.ofNumber k.rest))) := by
  have hwhole := h.forward (k.rest.takeWhile Char.isDigit).length
  have hrest : (Cursor.forward (k.rest.takeWhile Char.isDigit).length k).rest =
      k.rest.dropWhile Char.isDigit :=
    rest_forward_of_append List.takeWhile_append_dropWhile
  have hbehind : (Cursor.forward (k.rest.takeWhile Char.isDigit).length k).guarded.skipFraction =
      .ok (Cursor.forward (splitNumber k.rest).1.length k).guarded := by
    rw [hwhole.skipFraction_guarded, hrest, forward_forward, splitNumber_fst, List.length_append]
  have hcut := h.cut_guarded (splitNumber_append k.rest)
  rw [Guarded.Cursor.readNumber, h.passWhile_guarded]
  simp only [Guarded.ok_bind, hbehind]
  change (Guarded.Cursor.cut _ k.byteOffset (Cursor.forward _ k).byteOffset >>= _) = _
  rw [hcut]
  rfl

/-- The rest of a string literal. -/
theorem readBody_guarded
    {k : Cursor}
    (h : k.Fits)
    (start : Location)
    (value : Text) :
    k.guarded.readBody start value =
      .ok (k.bodyOutcome start value (StringLiteral.readBody k.rest)) := by
  generalize hrest : k.rest = text
  fun_induction StringLiteral.readBody text generalizing k value with
  | case1 =>
      rw [Guarded.Cursor.readBody, h.next?_guarded, Cursor.next?, hrest]
      simp [bodyOutcome, hrest, Cursor.forward]
  | case2 behind =>
      rw [Guarded.Cursor.readBody, h.next?_guarded, Cursor.next?, hrest]
      simp [bodyOutcome, h.advance_guarded, Cursor.forward]
  | case3 =>
      have hend : k.advance.next? = none := by
        rw [next?_advance, Cursor.second?, hrest]
        rfl
      have hstay : k.advance.advance = k.advance := by
        simp [Cursor.advance, hrest]
      rw [Guarded.Cursor.readBody, h.next?_guarded, Cursor.next?, hrest]
      simp [bodyOutcome, h.advance_guarded, h.advance.advance_guarded, hend, hstay, hrest,
        Cursor.forward]
  | case4 e behind c hc ih =>
      have hnext : k.advance.next? = some e := by
        rw [next?_advance, Cursor.second?, hrest]
        rfl
      have hleft : k.advance.advance.guarded.left < k.guarded.left :=
        h.left_forward_lt Nat.two_pos (by simp [hrest])
      have htail := ih h.advance.advance (value ++ [c]) (by simp [hrest])
      rw [bodyOutcome_cons hrest, Guarded.Cursor.readBody, h.next?_guarded, Cursor.next?, hrest]
      simp [h.advance_guarded, h.advance.advance_guarded, hnext, hc, hleft, htail, Cursor.forward]
  | case5 e behind hc =>
      have hnext : k.advance.next? = some e := by
        rw [next?_advance, Cursor.second?, hrest]
        rfl
      rw [Guarded.Cursor.readBody, h.next?_guarded, Cursor.next?, hrest]
      simp [bodyOutcome, h.advance_guarded, h.advance.advance_guarded, hnext, hc,
        location_advance hrest, Cursor.forward]
  | case6 c behind hquote hlast hescape ih =>
      -- Neither mark stands here, so that the plain case of the loop is taken.
      have hbackslash : c ≠ '\\' := by
        rintro rfl
        cases behind with
        | nil =>
            exact hlast rfl rfl
        | cons e behind =>
            exact hescape e behind rfl rfl
      have hleft : k.advance.guarded.left < k.guarded.left :=
        h.left_forward_lt Nat.one_pos (by simp [hrest])
      have htail := ih h.advance (value ++ [c]) (by simp [hrest])
      rw [bodyOutcome_cons hrest, Guarded.Cursor.readBody, h.next?_guarded, Cursor.next?, hrest]
      simp [h.advance_guarded, hleft, htail, Cursor.forward]

/-- A string literal. -/
theorem readString_guarded
    {k : Cursor}
    (h : k.Fits)
    {rest : Text}
    (hrest : k.rest = '"' :: rest) :
    k.guarded.readString = .ok (k.outcome (Reading.ofString rest)) := by
  have hbody : k.advance.rest = rest := by
    rw [rest_advance, hrest]
    rfl
  rw [Guarded.Cursor.readString, h.advance_guarded, Guarded.ok_bind]
  change k.advance.guarded.readBody k.location [] = _
  rw [h.advance.readBody_guarded, hbody, Reading.ofString]
  cases StringLiteral.readBody rest with
  | closed value spelling behind =>
      rfl
  | badEscape found before =>
      simp [bodyOutcome, outcome, Failure.toError, location_advance hrest, Cursor.forward]
  | unclosed =>
      simp [bodyOutcome, outcome, Failure.toError, hrest, Cursor.forward]

/-- Reading of a token fails at nothing, and gives what the rules give. -/
theorem readToken_guarded
    {k : Cursor}
    (h : k.Fits)
    {c : Char}
    {rest : Text}
    (hrest : k.rest = c :: rest) :
    k.guarded.readToken c = .ok (k.outcome (readToken c rest)) := by
  rw [Guarded.Cursor.readToken, readToken]
  split
  · rw [h.readRun_guarded, hrest]
  rw [h.startsPair_guarded hrest, Guarded.ok_bind]
  simp only [decide_eq_true_eq]
  split
  · rw [h.readRun_guarded, hrest]
  split
  · exact h.readSymbol_guarded hrest
  split
  · rw [h.readWord_guarded, hrest]
  split
  · rw [h.readNumber_guarded, hrest]
  split
  · next hc =>
      subst hc
      exact h.readString_guarded hrest
  · rfl

end Fits
end Cursor
end ContractLexer
