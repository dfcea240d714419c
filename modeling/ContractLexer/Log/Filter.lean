import ContractLexer.Log.Record

/-!
# Log filters

A filter says which records are written.  It is a list of directives, separated
by commas: a level, or a target, an equals sign and a level.  A directive covers
every target that starts with its own; one without a target covers all.  Of the
directives that cover a record the one with the longest target decides, and of
equal ones the last.  A record that no directive covers is not written.
-/

namespace ContractLexer
namespace Log

/-- The most detail to be written for some targets. -/
structure Directive where
  /-- How the covered targets start. -/
  target : Text
  /-- The highest level written; none if nothing is written. -/
  level : Option Level
  deriving DecidableEq

namespace Directive

/-- The level a word names, in either case; `off` stands for no level. -/
def level? (word : Text) : Option (Option Level) :=
  if Text.lower word = "off".toList then some none
  else (Level.all.find? fun l => Text.lower l.label == Text.lower word).map some

/-- Read one directive. -/
def ofText? (text : Text) : Option Directive :=
  match text.splitOn '=' with
  | [level] => (level? level).map fun l => { target := [], level := l }
  | [target, level] => (level? level).map fun l => { target := target, level := l }
  | _ => none

/-- The directive covers the target. -/
def covers (d : Directive) (target : Text) : Bool :=
  d.target.isPrefixOf target

/-- The directive lets a level pass. -/
def admits (d : Directive) (level : Level) : Bool :=
  match d.level with
  | some most => decide (level.rank ≤ most.rank)
  | none => false

end Directive

/-- A list of directives. -/
abbrev Filter := List Directive

namespace Filter

/-- Read a filter.  What is no directive is left out. -/
def ofText (text : Text) : Filter :=
  (text.splitOn ',').filterMap Directive.ofText?

/-- The more specific of two directives; the second if neither is. -/
def moreSpecific (best : Option Directive) (d : Directive) : Option Directive :=
  match best with
  | some b => if d.target.length < b.target.length then some b else some d
  | none => some d

/-- The directive that decides about a target. -/
def deciding? (f : Filter) (target : Text) : Option Directive :=
  (f.filter fun d => d.covers target).foldl moreSpecific none

/-- The record is written. -/
def admits (f : Filter) (r : Record) : Bool :=
  match f.deciding? r.target with
  | some d => d.admits r.level
  | none => false

end Filter
end Log
end ContractLexer
