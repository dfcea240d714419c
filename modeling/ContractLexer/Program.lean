import ContractLexer.Log.Filter

/-!
# Programs that write

A program writes on two outputs, and it logs records.  A record is written on the
error output at the moment when it is logged, if the filter that is in force lets
it pass.  So what a program does is a function of the filter.

**Contents.**  What is written, programs and how they follow one another, and the
three ways in which a program writes.
-/

namespace ContractLexer

/-- A thing written by a program. -/
inductive Output where
  | out (text : Text)
  | err (text : Text)
  deriving DecidableEq

namespace Output

/-- The part of the standard output. -/
def onOut : Output → Text
  | out text => text
  | err _ => []

/-- The part of the error output. -/
def onErr : Output → Text
  | out _ => []
  | err text => text

/-- What is written of a record that is logged.  Without a filter it is nothing. -/
def ofRecord (filter : Option Log.Filter) (record : Log.Record) : List Output :=
  match filter with
  | some f => if f.admits record then [err record.written] else []
  | none => []

end Output

/-- A program that gives an `α`.  Under the filter for log records, if there is one,
it gives its result and what it has written on the way, in order. -/
def Program (α : Type) : Type :=
  Option Log.Filter → α × List Output

namespace Program

variable {α β : Type}

instance : Monad Program where
  pure a := fun _ => (a, [])
  bind p next := fun filter =>
    let first := p filter
    let second := next first.1 filter
    (second.1, first.2 ++ second.2)

/-- One program after another, which may rely on its input being a result of the
first one. -/
def pbind (p : Program α) (next : (a : α) → (∃ filter, (p filter).1 = a) → Program β) :
    Program β :=
  fun filter =>
    let first := p filter
    let second := next first.1 ⟨filter, rfl⟩ filter
    (second.1, first.2 ++ second.2)

/-- Write on the standard output. -/
def print (text : Text) : Program Unit :=
  fun _ => ((), [.out text])

/-- Write on the error output. -/
def complain (text : Text) : Program Unit :=
  fun _ => ((), [.err text])

/-- Log a record. -/
def log (record : Log.Record) : Program Unit :=
  fun filter => ((), Output.ofRecord filter record)

@[simp] theorem pure_apply
    (a : α)
    (filter : Option Log.Filter) :
    (pure a : Program α) filter = (a, []) := by
  rfl

@[simp] theorem bind_apply
    (p : Program α)
    (next : α → Program β)
    (filter : Option Log.Filter) :
    (p >>= next) filter =
      ((next (p filter).1 filter).1, (p filter).2 ++ (next (p filter).1 filter).2) := by
  rfl

theorem pbind_apply
    {p : Program α}
    {filter : Option Log.Filter}
    {a : α}
    {written : List Output}
    (h : p filter = (a, written))
    (next : (a : α) → (∃ filter, (p filter).1 = a) → Program β) :
    p.pbind next filter =
      ((next a ⟨filter, congrArg Prod.fst h⟩ filter).1,
        written ++ (next a ⟨filter, congrArg Prod.fst h⟩ filter).2) := by
  obtain ⟨rfl, rfl⟩ := Prod.mk.inj (h : ((p filter).1, (p filter).2) = (a, written))
  rfl

@[simp] theorem print_apply
    (text : Text)
    (filter : Option Log.Filter) :
    print text filter = ((), [.out text]) := by
  rfl

@[simp] theorem complain_apply
    (text : Text)
    (filter : Option Log.Filter) :
    complain text filter = ((), [.err text]) := by
  rfl

@[simp] theorem log_apply
    (record : Log.Record)
    (filter : Option Log.Filter) :
    log record filter = ((), Output.ofRecord filter record) := by
  rfl

/-! ## What a run amounts to, without a filter unless one is given -/

/-- The exit status. -/
def status (p : Program Nat) (filter : Option Log.Filter := none) : Nat :=
  (p filter).1

/-- The whole standard output. -/
def stdout (p : Program α) (filter : Option Log.Filter := none) : Text :=
  (p filter).2.flatMap Output.onOut

/-- The whole error output. -/
def stderr (p : Program α) (filter : Option Log.Filter := none) : Text :=
  (p filter).2.flatMap Output.onErr

end Program
end ContractLexer
