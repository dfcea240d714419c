import ContractLexer.Text.Basic

/-!
# Options of a listing

A listing may include trivia, may show locations, and is indented by a number of
spaces for each open brace.  The options are set by flags, read from left to
right; a later flag overrides an earlier one.  A flag that is not understood
changes nothing and gives a warning.
-/

namespace ContractLexer
namespace Listing

/-- How a listing is laid out. -/
structure Options where
  /-- List white space and comments too. -/
  trivia : Bool
  /-- Spaces for each open brace. -/
  indentWidth : Fin 256
  /-- Show the location of each token. -/
  locations : Bool
  deriving DecidableEq

/-- What an argument asks for. -/
inductive Flag where
  | showTrivia
  | showLocations (shown : Bool)
  | indent (width : Fin 256)
  /-- An indentation that is not a number from 0 to 255. -/
  | badIndent (width : Text)
  | unknown (argument : Text)
  deriving DecidableEq

namespace Flag

/-- A number from 0 to 255: decimal digits, with or without one plus sign in
front. -/
def width? (text : Text) : Option (Fin 256) :=
  let digits :=
    match text with
    | '+' :: rest => rest
    | _ => text
  if digits ≠ [] ∧ digits.all Char.isDigit = true then
    if h : Nat.ofDigitChars 10 digits 0 < 256 then
      some ⟨Nat.ofDigitChars 10 digits 0, h⟩
    else none
  else none

/-- The flag an argument spells. -/
def ofText (argument : Text) : Flag :=
  if argument = "--trivia".toList then .showTrivia
  else if argument = "--locations".toList then .showLocations true
  else if argument = "--no-locations".toList then .showLocations false
  else
    match "--indent=".toList.isPrefixOf? argument with
    | some width =>
        match width? width with
        | some n => .indent n
        | none => .badIndent width
    | none => .unknown argument

end Flag

namespace Options

/-- The options without any flag: significant tokens only, two spaces for each
open brace, and locations. -/
def standard : Options :=
  { trivia := false, indentWidth := 2, locations := true }

/-- The options after one more flag. -/
def set (o : Options) : Flag → Options
  | .showTrivia => { o with trivia := true }
  | .showLocations shown => { o with locations := shown }
  | .indent width => { o with indentWidth := width }
  | .badIndent _ => o
  | .unknown _ => o

/-- The options that a list of arguments asks for. -/
def ofArguments (arguments : List Text) : Options :=
  arguments.foldl (fun o argument => o.set (.ofText argument)) standard

/-- The warning for a flag that is not understood, when `o` are the options set
before it. -/
def warning? (o : Options) : Flag → Option Text
  | .badIndent width =>
      some
        ("warning: invalid indent width '".toList ++ width ++
          "' (expected 0-255), using ".toList ++ Text.decimal o.indentWidth)
  | .unknown argument => some ("warning: unknown option '".toList ++ argument ++ ['\x27'])
  | _ => none

/-- The warnings for a list of arguments, in order, when `o` are the options set
before them. -/
def warnings (o : Options) : List Text → List Text
  | [] => []
  | argument :: rest =>
      (o.warning? (.ofText argument)).toList ++ (o.set (.ofText argument)).warnings rest

end Options
end Listing
end ContractLexer
