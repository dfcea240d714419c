import ContractLexer.Text.Basic

/-!
# Locations

A location is a line and a column of a source text, both counted from one.  A
line feed starts a new line; every other character, the carriage return and the
tabulator included, takes one column.

**Contents.**  The location of the first character, the location reached after
a text, the order by line and then by column, and the written form
`line:column`.
-/

namespace ContractLexer

/-- A line and a column of a source text. -/
structure Location where
  line : Nat
  column : Nat
  deriving DecidableEq

namespace Location

/-- The location of the first character of a text. -/
def start : Location :=
  { line := 1, column := 1 }

instance : Inhabited Location :=
  ⟨start⟩

/-- The location of the character that follows `c`, when `c` stands at `l`. -/
def step (l : Location) (c : Char) : Location :=
  if c = '\n' then { line := l.line + 1, column := 1 }
  else { line := l.line, column := l.column + 1 }

/-- The location reached from `l` after a text. -/
def after (l : Location) (t : Text) : Location :=
  t.foldl step l

@[simp] theorem after_nil
    (l : Location) :
    l.after [] = l := by
  rfl

@[simp] theorem after_cons
    (l : Location)
    (c : Char)
    (t : Text) :
    l.after (c :: t) = (l.step c).after t := by
  rfl

@[simp] theorem after_append
    (l : Location)
    (s t : Text) :
    l.after (s ++ t) = (l.after s).after t := by
  simp [after]

/-- Locations are compared by line, and on one line by column. -/
instance : Ord Location where
  compare a b := (compare a.line b.line).then (compare a.column b.column)

/-- The written form `line:column`. -/
def written (l : Location) : Text :=
  Text.decimal l.line ++ [':'] ++ Text.decimal l.column

end Location
end ContractLexer
