import ContractLexer.Proofs.Lookahead
import ContractLexer.Proofs.Rebuilding

/-!
# String literals read back

A value is spelled as a string literal by one table and read back by another.  The two
agree on every value, whatever stands behind the literal: a backslash or a quote at the
end of the value is escaped, so the first bare quote is the one that closes the literal.

The spelling stays on one line.  How far it reaches is known from the value alone: two
quotes, the characters of the value, and one more for each of them that is escaped.

**Results.**
* `StringLiteral.length_spelled`: the length of a literal.
* `StringLiteral.controlFree_spelled`: a literal holds no raw control character.
* `StringLiteral.after_spelled`: where a literal ends.
* `Session.read_of_spelled`: a session in front of a literal gives its value and passes
  the literal.
* `Session.read_canonical_string`: literals at the front of a text.
-/

namespace ContractLexer
namespace StringLiteral

/-! ## The spelling of a value -/

/-- The number of characters of a value that are escaped in its literal: line feeds,
tabulators, carriage returns, quotes and backslashes. -/
def escapes (value : Text) : Nat :=
  value.count '\n' + value.count '\t' + value.count '\r' + value.count '"' + value.count '\\'

theorem escapes_cons
    (c : Char)
    (value : Text) :
    escapes (c :: value) = escapes [c] + escapes value := by
  simp only [escapes, List.count_cons, List.count_nil]
  omega

theorem length_spelledChar
    (c : Char) :
    (spelledChar c).length = 1 + escapes [c] := by
  cases h : escape c with
  | none =>
      obtain ⟨⟨hline, htab, hreturn⟩, hquote, hbackslash⟩ := escape_eq_none_iff.1 h
      rw [List.mem_singleton] at hline htab hreturn
      simp [spelledChar, h, escapes, Ne.symm hline, Ne.symm htab, Ne.symm hreturn, hquote,
        hbackslash]
  | some e =>
      have hescape := escape_eq_some_iff.1 h
      rw [spelledChar_of_escape hescape]
      cases hescape <;> rfl

/-- A literal is as long as its value, with two quotes and a backslash for each character
that is escaped. -/
theorem length_spelled
    (value : Text) :
    (spelled value).length = 2 + value.length + escapes value := by
  have hbody : (value.flatMap spelledChar).length = value.length + escapes value := by
    induction value with
    | nil =>
        rfl
    | cons c value ih =>
        rw [List.flatMap_cons, List.length_append, ih, length_spelledChar, escapes_cons c value,
          List.length_cons]
        omega
  simp only [spelled, List.length_cons, List.length_append, List.length_nil, hbody]
  omega

/-- A literal holds no raw line feed, tabulator or carriage return. -/
theorem controlFree_spelled
    (value : Text) :
    ControlFree (spelled value) := by
  exact (Lexeme.string_text_eq_iff (denotes_canonical value)).1 rfl

/-- A literal stays on its line and takes as many columns as it is long. -/
theorem after_spelled
    (l : Location)
    (value : Text) :
    l.after (spelled value) =
      { line := l.line, column := l.column + 2 + value.length + escapes value } := by
  rw [l.after_of_no_lineFeed (controlFree_spelled value).1, length_spelled]
  simp only [Location.mk.injEq, true_and]
  omega

/-- The literal of a value as a lexeme. -/
def lexeme (value : Text) : Lexeme where
  kind := .string value
  text := spelled value
  spelled := ⟨_, denotes_canonical value, rfl⟩

end StringLiteral

/-! ## Reading it back -/

namespace Session

/-- A session in front of a literal gives a token with its value, in whichever way it is
asked, and passes the literal. -/
theorem read_of_spelled
    {text passed value r : Text}
    {s : Session}
    (hfailed : s.failed = none)
    (hbehind : s.cursor.Behind text passed)
    (hrest : s.cursor.rest = StringLiteral.spelled value ++ r) :
    s.read.1 = .ok (some { kind := .string value, location := s.location }) ∧
      s.pull = (some (.ok { kind := .string value, location := s.location }), s.read.2) ∧
      s.read.2.failed = none ∧
      s.read.2.cursor.Behind text (passed ++ StringLiteral.spelled value) ∧
      s.read.2.cursor.rest = r := by
  -- A literal is closed by its quote, so nothing behind it can prolong it.
  have hstops : (StringLiteral.lexeme value).kind.StopsAt r := trivial
  obtain ⟨htoken, hgood, hpassed, hleft⟩ := read_of_lexeme hfailed hbehind hrest hstops
  have hpull := pull_of_token? htoken
  refine ⟨?_, hpull, hgood, hpassed, hleft⟩
  rw [read_fst_eq, hpull]
  rfl

/-- A string literal is read back in front of any text.  The first token has the value
that was spelled, and behind it the session stands in front of the other text, on the
first line and as many columns on as the literal is long.  The literal itself holds no raw
line feed, tabulator or carriage return. -/
theorem read_canonical_string
    (value r : Text)
    (l : Location) :
    let literal := ({ kind := .string value, location := l } : Token).kind.canonical
    let s := ofText (literal ++ r)
    let t : Token := { kind := .string value, location := { line := 1, column := 1 } }
    let column := 3 + value.length + StringLiteral.escapes value
    s.read.1 = .ok (some t) ∧
      s.pull = (some (.ok t), s.read.2) ∧
      s.read.2.failed = none ∧
      s.read.2.cursor.Behind (literal ++ r) literal ∧
      s.read.2.cursor.rest = r ∧
      s.read.2.location = { line := 1, column := column } ∧
      '\n' ∉ literal ∧
      '\t' ∉ literal ∧
      '\r' ∉ literal := by
  intro literal s t column
  have hrest : s.cursor.rest = StringLiteral.spelled value ++ r := rfl
  obtain ⟨hread, hpull, hgood, hpassed, hleft⟩ :=
    read_of_spelled rfl (Cursor.behind_ofText (literal ++ r)) hrest
  have hfree : StringLiteral.ControlFree literal := StringLiteral.controlFree_spelled value
  have hlocation : s.read.2.location = { line := 1, column := column } :=
    hpassed.location_eq.trans (StringLiteral.after_spelled .start value)
  exact ⟨hread, hpull, hgood, hpassed, hleft, hlocation, hfree⟩

/-- A value that ends in a backslash, in front of a text that starts with a quote. -/
example :
    (ofText "\"\\\"\\\\\"\"".toList).read.1 =
      .ok (some { kind := .string "\"\\".toList, location := .start }) := by
  decide +kernel

end Session
end ContractLexer
