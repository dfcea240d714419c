import ContractLexer.Command
import ContractLexer.Proofs.ListedTokens
import ContractLexer.Proofs.OptionFlags
import ContractLexer.Proofs.SourceBytes

/-!
# Listing a file from the command line

A run that lists a file writes the whole listing or none of it.  Which of the two it
does, and what it reports, is fixed by the path, the flags and the bytes at the path.  The
filter for log records has a part in neither.

**Contents.**  What a user sees of a run, the log records of a run, and the three ways in
which a run that lists a file can end.

**Results.**
* `Command.splitPath_eq`: the path is the first argument that does not start with a
  dash, and the flags are the others.
* `Command.steady_run`: the status and the standard output do not depend on the filter.
* `Command.ending_lexFile`: the ways in which listing a file ends.
* `Command.seen_run_lex`: what is seen of every run that lists a file.
-/

namespace ContractLexer

/-- What a user sees of a run: the exit status and the two outputs. -/
structure Seen where
  status : Nat
  out : Text
  err : Text
  deriving DecidableEq

/-- What a user sees, when `log` is the value of the environment that asks for log
records, if it is set. -/
def Program.seen (log : Option Text) (p : Program Nat) : Seen :=
  { status := p.status (log.map Log.Filter.ofText)
    out := p.stdout (log.map Log.Filter.ofText)
    err := p.stderr (log.map Log.Filter.ofText) }

namespace Command

/-! ## The arguments -/

/-- The argument may name a file: it does not start with a dash. -/
def isPath (argument : Text) : Bool :=
  argument.head? != some '-'

theorem splitPath_eq
    (arguments : List Text) :
    splitPath arguments =
      (arguments.find? isPath).map fun path => (path, arguments.eraseP isPath) := by
  induction arguments with
  | nil =>
      rfl
  | cons argument rest ih =>
      rw [splitPath]
      split
      · next hdash =>
          have hflag : ¬ isPath argument = true := by
            simp [isPath, hdash]
          rw [ih, List.find?_cons_of_neg hflag, List.eraseP_cons_of_neg hflag, Option.map_map]
          rfl
      · next hdash =>
          have hpath : isPath argument = true := by
            simpa [isPath] using hdash
          rw [List.find?_cons_of_pos hpath, List.eraseP_cons_of_pos hpath]
          rfl

theorem run_lex_of_none
    (read : Text → Except ReadFailure ByteArray)
    {arguments : List Text}
    (h : arguments.find? isPath = none) :
    run read ("lex".toList :: arguments) = perform read .lexNothing := by
  rw [run, ofArguments, if_pos rfl, splitPath_eq, h]
  rfl

theorem run_lex_of_some
    (read : Text → Except ReadFailure ByteArray)
    {arguments : List Text}
    {path : Text}
    (h : arguments.find? isPath = some path) :
    run read ("lex".toList :: arguments) =
      perform read (.lex path (arguments.eraseP isPath)) := by
  rw [run, ofArguments, if_pos rfl, splitPath_eq, h]
  rfl

/-! ## The file -/

/-- The log records of a run that lists `text`. -/
def records (path text : Text) : List Log.Record :=
  .opened path text :: (Stream.ofText text).map Log.Record.ofItem

/-- The ways in which listing the file at `path` ends under a filter, and what has been
written then. -/
inductive Ending
    (read : Text → Except ReadFailure ByteArray)
    (path : Text)
    (o : Listing.Options)
    (filter : Option Log.Filter) :
    Nat × List Output → Prop
  | unloaded
      {failure : LoadFailure}
      (hload : SourceFile.load read path = .error failure) :
      Ending read path o filter (1, [.err (unlines [failure.message path])])
  | rejected
      {text : Text}
      {e : LexicalError}
      (hload : SourceFile.load read path = .ok text)
      (herror : tokenize text = .error e) :
      Ending read path o filter
        (1, Output.ofRecords filter (records path text) ++ [.err (unlines (report path e))])
  | listed
      {text listing : Text}
      {tokens : List Token}
      (hload : SourceFile.load read path = .ok text)
      (htokens : tokenize text = .ok tokens)
      (hlisting : Listing.ofText o text = .ok listing) :
      Ending read path o filter
        (0, Output.ofRecords filter (records path text) ++ [.out listing])

theorem ending_lexFile
    (read : Text → Except ReadFailure ByteArray)
    (path : Text)
    (o : Listing.Options)
    (filter : Option Log.Filter) :
    Ending read path o filter (lexFile read path o filter) := by
  unfold lexFile
  cases hload : SourceFile.load read path with
  | error failure =>
      exact .unloaded hload
  | ok text =>
      -- The file is logged first, and then the stream, while the listing is written.
      have hlogged :
          Output.ofRecord filter (.opened path text) ++
              Output.ofRecords filter ((Stream.ofText text).map .ofItem) =
            Output.ofRecords filter (records path text) := rfl
      -- The listing fails exactly when the text has an error, whatever is listed of it.
      have hlines := Listing.ofText_eq_map_lines o text
      rw [Listing.listed] at hlines
      simp only [Program.bind_apply, Program.log_apply, Listing.ofTextLogged_apply]
      cases htokens : tokenize text with
      | error e =>
          have herror : Listing.ofText o text = .error e := by
            rw [hlines, htokens]
            rfl
          simp only [herror, Program.bind_apply, Program.complain_apply, Program.pure_apply,
            List.append_nil, ← List.append_assoc, hlogged]
          exact .rejected hload htokens
      | ok tokens =>
          obtain ⟨listing, hlisting⟩ : ∃ listing, Listing.ofText o text = .ok listing := by
            rw [hlines, htokens]
            exact ⟨_, rfl⟩
          simp only [hlisting, Program.bind_apply, Program.print_apply, Program.pure_apply,
            List.append_nil, ← List.append_assoc, hlogged]
          exact .listed hload htokens hlisting

/-- Of the files only the one at the path matters. -/
theorem lexFile_congr
    {read read' : Text → Except ReadFailure ByteArray}
    {path : Text}
    (h : read' path = read path)
    (o : Listing.Options) :
    lexFile read' path o = lexFile read path o := by
  have hload : SourceFile.load read' path = SourceFile.load read path := by
    rw [SourceFile.load, SourceFile.load, h]
  rw [lexFile, lexFile, hload]

/-! ## The filter -/

theorem steady_lexFile
    (read : Text → Except ReadFailure ByteArray)
    (path : Text)
    (o : Listing.Options) :
    (lexFile read path o).Steady := by
  unfold lexFile
  split
  · exact .bind (Program.steady_complain _) fun _ => Program.steady_pure _
  · next text _ =>
      refine .bind (Program.steady_log _) fun _ => ?_
      refine .bind (Listing.steady_ofTextLogged o text) fun listing => ?_
      split
      · exact .bind (Program.steady_print _) fun _ => Program.steady_pure _
      · exact .bind (Program.steady_complain _) fun _ => Program.steady_pure _

/-- Whatever the arguments ask for, nothing but the error output depends on the filter. -/
theorem steady_run
    (read : Text → Except ReadFailure ByteArray)
    (arguments : List Text) :
    (run read arguments).Steady := by
  unfold run perform
  split
  · exact .bind (Program.steady_print _) fun _ => Program.steady_pure _
  · exact .bind (Program.steady_complain _) fun _ => steady_lexFile read _ _
  · exact .bind (Program.steady_complain _) fun _ => Program.steady_pure _
  · refine .bind (Program.steady_complain _) fun _ => ?_
    exact .bind (Program.steady_print _) fun _ => Program.steady_pure _

/-! ## What is seen -/

theorem unlines_append
    (lines more : List Text) :
    unlines (lines ++ more) = unlines lines ++ unlines more := by
  exact List.flatMap_append

/-- The lines that a filter lets pass. -/
def logged (filter : Option Log.Filter) (records : List Log.Record) : Text :=
  (Output.ofRecords filter records).flatMap Output.onErr

theorem logged_none
    (records : List Log.Record) :
    logged none records = [] := by
  induction records with
  | nil =>
      rfl
  | cons record records ih =>
      exact ih

/-- What is seen of a run without a path, whatever is to be logged. -/
theorem seen_lexNothing
    (read : Text → Except ReadFailure ByteArray)
    (log : Option Text) :
    (perform read .lexNothing).seen log =
      { status := 1
        out := []
        err :=
          unlines
            ["error: missing file path".toList,
             "Usage: pactc lex <file.pact> [--trivia] [--indent=<n>] [--no-locations]".toList] } := by
  simp only [perform, Program.seen, Program.status, Program.stdout, Program.stderr,
    Program.bind_apply, Program.complain_apply, Program.pure_apply, List.append_nil,
    List.flatMap_cons, List.flatMap_nil, Output.onOut, Output.onErr]

/-- What is seen of a run that lists a file, with or without log lines: the warnings for
the flags, the log lines, and a report or a listing. -/
theorem seen_perform_lex
    (read : Text → Except ReadFailure ByteArray)
    (path : Text)
    (flags : List Text)
    (log : Option Text) :
    let seen := (perform read (.lex path flags)).seen log
    let warnings := unlines (Listing.Options.standard.warnings flags)
    let lines := fun text => logged (log.map Log.Filter.ofText) (records path text)
    match SourceFile.load read path with
    | .error failure =>
        seen = { status := 1, out := [], err := warnings ++ unlines [failure.message path] }
    | .ok text =>
        match tokenize text with
        | .error e =>
            seen =
              { status := 1
                out := []
                err := warnings ++ lines text ++ unlines (report path e) }
        | .ok _ =>
            ∃ listing,
              Listing.ofText (.ofArguments flags) text = .ok listing ∧
                seen = { status := 0, out := listing, err := warnings ++ lines text } := by
  intro seen warnings lines
  have hending := ending_lexFile read path (.ofArguments flags) (log.map Log.Filter.ofText)
  have hseen :
      let ending := lexFile read path (.ofArguments flags) (log.map Log.Filter.ofText)
      seen =
        { status := ending.1
          out := ending.2.flatMap Output.onOut
          err := warnings ++ ending.2.flatMap Output.onErr } := rfl
  -- From here on only the way in which the listing ended matters.
  generalize lexFile read path (.ofArguments flags) (log.map Log.Filter.ofText) = ending
    at hending hseen
  cases hending with
  | unloaded hload =>
      rw [hload]
      simp [hseen, Output.onOut, Output.onErr]
  | rejected hload herror =>
      rw [hload]
      simp only [herror]
      simp [hseen, Output.onOut, Output.onErr, Output.onOut_ofRecords, lines, logged]
  | listed hload htokens hlisting =>
      rw [hload]
      simp only [htokens]
      refine ⟨_, hlisting, ?_⟩
      simp [hseen, Output.onOut, Output.onErr, Output.onOut_ofRecords, lines, logged]

/-- What is seen of a run that lists a file, when nothing is logged.

Without a path the run explains its use.  Otherwise it warns of the flags that are not
understood, each in its turn.  Then it reports that the file cannot be loaded, or reports
the error of the text, and prints nothing; or it prints the whole listing and reports
nothing.  All of it is fixed by the path, the flags and the bytes at the path. -/
theorem seen_run_lex
    (read : Text → Except ReadFailure ByteArray)
    (arguments : List Text) :
    let seen := (run read ("lex".toList :: arguments)).seen none
    let flags := arguments.eraseP isPath
    match arguments.find? isPath with
    | none =>
        seen =
          { status := 1
            out := []
            err :=
              unlines
                ["error: missing file path".toList,
                 "Usage: pactc lex <file.pact> [--trivia] [--indent=<n>] [--no-locations]".toList] }
    | some path =>
        (∃ warnings,
          Listing.Options.Warned 2 flags warnings ∧
            match SourceFile.load read path with
            | .error failure =>
                seen =
                  { status := 1
                    out := []
                    err := unlines (warnings ++ [failure.message path]) }
            | .ok text =>
                match tokenize text with
                | .error e =>
                    seen =
                      { status := 1
                        out := []
                        err :=
                          unlines
                            (warnings ++
                              (path ++ [':'] ++ e.location.written ++ ": error: ".toList ++
                                e.cause.message) ::
                              (e.cause.help?.map fun help => "  help: ".toList ++ help).toList) }
                | .ok _ =>
                    ∃ listing,
                      Listing.ofText (.ofArguments flags) text = .ok listing ∧
                        seen = { status := 0, out := listing, err := unlines warnings }) ∧
          ∀ read' arguments' log,
            arguments'.find? isPath = some path →
              arguments'.eraseP isPath = flags →
              read' path = read path →
              (run read' ("lex".toList :: arguments')).seen log =
                (run read ("lex".toList :: arguments)).seen log := by
  intro seen flags
  cases hpath : arguments.find? isPath with
  | none =>
      exact (congrArg (Program.seen none) (run_lex_of_none read hpath)).trans
        (seen_lexNothing read none)
  | some path =>
      have hrun := run_lex_of_some read hpath
      have hseen : seen = (perform read (.lex path flags)).seen none :=
        congrArg (Program.seen none) hrun
      refine ⟨⟨Listing.Options.standard.warnings flags, ?_, ?_⟩, ?_⟩
      · exact Listing.Options.warned_warnings Listing.Options.standard flags
      · have hcases := seen_perform_lex read path flags none
        simp only [Option.map_none, logged_none, List.append_nil, ← hseen] at hcases
        simp only [unlines_append]
        exact hcases
      · intro read' arguments' log hpath' hflags hread
        rw [run_lex_of_some read' hpath', hrun, hflags, perform, perform, lexFile_congr hread]

theorem seen_run_lex_rejected :
    let read : Text → Except ReadFailure ByteArray := fun _ => .ok "x\n-".toList.utf8Encode
    let seen := fun arguments => (run read ("lex".toList :: arguments)).seen none
    seen ["--indent=300".toList, "a.pact".toList, "-q".toList, "b".toList] =
        { status := 1
          out := []
          err :=
            unlines
              ["warning: invalid indent width '300' (expected 0-255), using 2".toList,
               "warning: unknown option '-q'".toList,
               "warning: unknown option 'b'".toList,
               "a.pact:2:1: error: unexpected symbol '-'".toList,
               "  help: `-` is only valid as part of `->`".toList] } ∧
      seen ["a.pact".toList, "--indent=300".toList, "-q".toList, "b".toList] =
        seen ["--indent=300".toList, "a.pact".toList, "-q".toList, "b".toList] := by
  intro read seen
  have hseen :=
    seen_run_lex read ["--indent=300".toList, "a.pact".toList, "-q".toList, "b".toList]
  have hpath :
      ["--indent=300".toList, "a.pact".toList, "-q".toList, "b".toList].find? isPath =
        some "a.pact".toList := by
    decide
  have hload : SourceFile.load read "a.pact".toList = .ok "x\n-".toList :=
    SourceFile.load_eq_ok_iff.2 rfl
  have herror :
      tokenize "x\n-".toList =
        .error { cause := .unexpectedSymbol '-', location := { line := 2, column := 1 } } := by
    decide +kernel
  simp only [hpath, hload, herror] at hseen
  obtain ⟨⟨warnings, hwarned, hrejected⟩, hfixed⟩ := hseen
  have hwarnings := hwarned.eq_warnings (o := Listing.Options.standard) rfl
  refine ⟨?_, hfixed read _ none (by decide) (by decide) rfl⟩
  subst hwarnings
  exact hrejected.trans (by decide +kernel)

end Command
end ContractLexer
