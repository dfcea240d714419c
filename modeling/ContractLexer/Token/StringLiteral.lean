import ContractLexer.Text.Basic

/-!
# String literals

A string literal stands between double quotes.  Five characters are written in
it as a backslash and a letter or mark; every other character, a line feed
included, may stand for itself.

**Contents.**  The two tables of escapes, the spelling of a value as a literal,
and the reading of the text that follows an opening quote.
-/

namespace ContractLexer
namespace StringLiteral

/-- The character meant by a backslash followed by `c`. -/
def unescape : Char → Option Char
  | 'n' => some '\n'
  | 't' => some '\t'
  | 'r' => some '\r'
  | '"' => some '"'
  | '\\' => some '\\'
  | _ => none

/-- The character that follows the backslash when `c` is written as an escape. -/
def escape : Char → Option Char
  | '\n' => some 'n'
  | '\t' => some 't'
  | '\r' => some 'r'
  | '"' => some '"'
  | '\\' => some '\\'
  | _ => none

/-- One character of a value as it is spelled in a literal. -/
def spelledChar (c : Char) : Text :=
  match escape c with
  | some e => ['\\', e]
  | none => [c]

/-- A value spelled as a literal.  Every character that has an escape is escaped. -/
def spelled (value : Text) : Text :=
  '"' :: (value.flatMap spelledChar ++ ['"'])

/-- What follows an opening quote. -/
inductive Body where
  /-- A closing quote was reached.  `spelling` is the text read, the closing quote
  included, and `rest` the text behind it. -/
  | closed (value spelling rest : Text)
  /-- A backslash was followed by the character `found`, which names no escape.
  `before` is the text in front of `found`, the backslash included. -/
  | badEscape (found : Char) (before : Text)
  /-- The text ended without a closing quote. -/
  | unclosed
  deriving DecidableEq

namespace Body

/-- Put a piece of a literal, spelled `piece` and meaning `c`, in front of a body. -/
def cons (c : Char) (piece : Text) : Body → Body
  | closed value spelling rest => closed (c :: value) (piece ++ spelling) rest
  | badEscape found before => badEscape found (piece ++ before)
  | unclosed => unclosed

end Body

/-- Read the text that follows an opening quote. -/
def readBody : Text → Body
  | [] => .unclosed
  | '"' :: rest => .closed [] ['"'] rest
  | ['\\'] => .unclosed
  | '\\' :: e :: rest =>
      match unescape e with
      | some c => (readBody rest).cons c ['\\', e]
      | none => .badEscape e ['\\']
  | c :: rest => (readBody rest).cons c [c]

/-- A piece in front of a body leaves a closed body closed, and makes none. -/
theorem Body.cons_eq_closed
    {c : Char}
    {piece value spelling rest : Text}
    {body : Body}
    (h : body.cons c piece = .closed value spelling rest) :
    ∃ value' spelling',
      body = .closed value' spelling' rest ∧
        value = c :: value' ∧
        spelling = piece ++ spelling' := by
  cases body with
  | closed value' spelling' rest' =>
      cases h
      exact ⟨value', spelling', rfl, rfl, rfl⟩
  | badEscape found before =>
      cases h
  | unclosed =>
      cases h

/-- A closed body and what is behind it make up the text. -/
theorem append_of_readBody_closed
    {text value spelling rest : Text}
    (h : readBody text = .closed value spelling rest) :
    spelling ++ rest = text := by
  fun_induction readBody text generalizing value spelling with
  | case1 =>
      cases h
  | case2 behind =>
      cases h
      rfl
  | case3 =>
      cases h
  | case4 e behind c hc ih =>
      obtain ⟨value', spelling', hbody, rfl, rfl⟩ := Body.cons_eq_closed h
      simp [ih hbody]
  | case5 e behind hc =>
      cases h
  | case6 c behind _ _ _ ih =>
      obtain ⟨value', spelling', hbody, rfl, rfl⟩ := Body.cons_eq_closed h
      simp [ih hbody]

end StringLiteral
end ContractLexer
