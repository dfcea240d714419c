import ContractLexer.Proofs.LexCommand
import ContractLexer.Proofs.LogFilters
import ContractLexer.Proofs.SessionCalls

/-!
# Runs that are logged

Log lines are put into the error output of a run that lists a file, and nothing else
changes.  They stand behind the warnings and in front of the report, and they tell the
stream of the text item by item.

**Contents.**  The lines for a file, for a token and for an error.

**Results.**
* `Command.logged_records`: the lines of the records of a run.
* `Command.seen_run_lex_logged`: what is seen of a run that is logged, beside the same run
  in silence.
-/

namespace ContractLexer
namespace Log

/-! ## The lines -/

/-- The line for a file of the given size. -/
def openedLine (path : Text) (bytes : Nat) : Text :=
  "DEBUG pactc::commands::lex: lexing file path=".toList ++ Quoted.text path ++
    " bytes=".toList ++ Text.decimal bytes ++ ['\n']

/-- The end of a line: what was met, and where. -/
def placedEnd (label : Text) (location : Location) : Text :=
  " kind=".toList ++ Quoted.text label ++
    " line=".toList ++ Text.decimal location.line ++
    " column=".toList ++ Text.decimal location.column ++ ['\n']

/-- The line for a token. -/
def tokenLine (t : Token) : Text :=
  "TRACE pact_lexer::scanner: token".toList ++ placedEnd t.kind.label t.location

/-- The line for the error that ends a stream. -/
def stoppedLine (e : LexicalError) : Text :=
  "DEBUG pact_lexer::scanner: lexing stopped: ".toList ++ e.cause.message.flatMap messageChar ++
    placedEnd e.cause.label e.location

namespace Record

theorem written_opened
    (path text : Text) :
    (opened path text).written = openedLine path (Text.byteSize text) := by
  -- What does not depend on the file is one fixed text.
  have hhead :
      List.leftpad Level.labelWidth ' ' Level.debug.label ++ [' '] ++
          "pactc::commands::lex".toList ++ ": ".toList ++
          "lexing file".toList.flatMap messageChar ++ ([' '] ++ "path".toList ++ ['=']) =
        "DEBUG pactc::commands::lex: lexing file path=".toList := by
    decide +kernel
  have hbytes : [' '] ++ "bytes".toList ++ ['='] = " bytes=".toList := by
    decide
  unfold written openedLine
  rw [← hhead, ← hbytes]
  simp only [opened, Value.written, List.flatMap_cons, List.flatMap_nil, List.append_assoc,
    List.append_nil]

/-- The values of an item, and the end of its line. -/
theorem written_placed
    (label : Text)
    (location : Location) :
    ((placed label location).flatMap fun v => [' '] ++ v.1 ++ ['='] ++ v.2.written) ++ ['\n'] =
      placedEnd label location := by
  have hkind : [' '] ++ "kind".toList ++ ['='] = " kind=".toList := by
    decide
  have hline : [' '] ++ "line".toList ++ ['='] = " line=".toList := by
    decide
  have hcolumn : [' '] ++ "column".toList ++ ['='] = " column=".toList := by
    decide
  unfold placedEnd
  rw [← hkind, ← hline, ← hcolumn]
  simp only [placed, Value.written, List.flatMap_cons, List.flatMap_nil, List.append_assoc,
    List.append_nil]

theorem written_token
    (t : Token) :
    (token t).written = tokenLine t := by
  have hhead :
      List.leftpad Level.labelWidth ' ' Level.trace.label ++ [' '] ++
          "pact_lexer::scanner".toList ++ ": ".toList ++ "token".toList.flatMap messageChar =
        "TRACE pact_lexer::scanner: token".toList := by
    decide +kernel
  unfold tokenLine
  rw [← hhead, ← written_placed, ← List.append_assoc]
  rfl

theorem written_stopped
    (e : LexicalError) :
    (stopped e).written = stoppedLine e := by
  have hhead :
      List.leftpad Level.labelWidth ' ' Level.debug.label ++ [' '] ++
          "pact_lexer::scanner".toList ++ ": ".toList ++
          "lexing stopped: ".toList.flatMap messageChar =
        "DEBUG pact_lexer::scanner: lexing stopped: ".toList := by
    decide +kernel
  unfold written stoppedLine
  rw [← hhead, ← written_placed]
  simp only [stopped, List.flatMap_append, List.append_assoc]

end Record

namespace Filter

/-- What the filter lets through of a record. -/
def shown (f : Filter) (r : Record) : Text :=
  if f.Enables r.level r.target then r.written else []

theorem shown_opened
    (f : Filter)
    (path text : Text) :
    f.shown (.opened path text) =
      if f.Enables .debug "pactc::commands::lex".toList then
        openedLine path (Text.byteSize text)
      else [] := by
  rw [← Record.written_opened]
  rfl

theorem shown_token
    (f : Filter)
    (t : Token) :
    f.shown (.token t) =
      if f.Enables .trace "pact_lexer::scanner".toList then tokenLine t else [] := by
  rw [← Record.written_token]
  rfl

theorem shown_stopped
    (f : Filter)
    (e : LexicalError) :
    f.shown (.stopped e) =
      if f.Enables .debug "pact_lexer::scanner".toList then stoppedLine e else [] := by
  rw [← Record.written_stopped]
  rfl

end Filter
end Log

namespace Command

/-! ## The lines of a run -/

theorem logged_some
    (f : Log.Filter)
    (records : List Log.Record) :
    logged (some f) records = records.flatMap f.shown := by
  unfold logged Output.ofRecords
  rw [List.flatMap_assoc]
  apply List.flatMap_congr
  intro r _
  simp only [Output.ofRecord, Log.Filter.admits_iff, Log.Filter.shown]
  split <;> simp [Output.onErr]

theorem flatMap_if
    {α : Type}
    (p : Prop)
    [Decidable p]
    (line : α → Text)
    (items : List α) :
    (items.flatMap fun item => if p then line item else []) =
      if p then items.flatMap line else [] := by
  split
  · rfl
  · induction items with
    | nil =>
        rfl
    | cons item items ih =>
        exact ih

/-- The lines of a run that lists a text: one for the file, one for every token of the
stream, and one for its error. -/
theorem logged_records
    (f : Log.Filter)
    (path : Text)
    {text : Text}
    {tokens : List Token}
    {stop : Option LexicalError}
    (hstream : Stream.ofText text = tokens.map .ok ++ stop.toList.map .error) :
    logged (some f) (records path text) =
      (if f.Enables .debug "pactc::commands::lex".toList then
        Log.openedLine path (Text.byteSize text) else []) ++
      (if f.Enables .trace "pact_lexer::scanner".toList then
        tokens.flatMap Log.tokenLine else []) ++
      (if f.Enables .debug "pact_lexer::scanner".toList then
        stop.toList.flatMap Log.stoppedLine else []) := by
  rw [logged_some, records, hstream]
  -- Whether an item has a line depends on its being a token or an error, and on no more.
  simp only [List.flatMap_cons, List.map_append, List.map_map, List.flatMap_append,
    List.flatMap_map, Function.comp_apply, Log.Record.ofItem, Log.Filter.shown_opened,
    Log.Filter.shown_token, Log.Filter.shown_stopped, flatMap_if, List.append_assoc]

/-- Log lines stand between the warnings and what follows them. -/
theorem err_perform_lex
    (read : Text → Except ReadFailure ByteArray)
    (path : Text)
    (flags : List Text)
    (value : Text) :
    let err := fun log => ((perform read (.lex path flags)).seen log).err
    let warnings := unlines (Listing.Options.standard.warnings flags)
    let lines :=
      match SourceFile.load read path with
      | .error _ => []
      | .ok text => logged (some (Log.Filter.ofText value)) (records path text)
    ∃ rest, err none = warnings ++ rest ∧ err (some value) = warnings ++ lines ++ rest := by
  intro err warnings lines
  have hsilent := seen_perform_lex read path flags none
  have hlogged := seen_perform_lex read path flags (some value)
  simp only [Option.map_none, logged_none, List.append_nil] at hsilent
  -- Both runs end in the same way, and the lines are the only difference.
  cases hload : SourceFile.load read path with
  | error failure =>
      simp only [hload] at hsilent hlogged
      refine ⟨unlines [failure.message path], congrArg Seen.err hsilent, ?_⟩
      simp only [lines, hload, List.append_nil]
      exact congrArg Seen.err hlogged
  | ok text =>
      simp only [hload] at hsilent hlogged
      simp only [lines, hload]
      cases htokens : tokenize text with
      | error e =>
          simp only [htokens] at hsilent hlogged
          exact ⟨unlines (report path e), congrArg Seen.err hsilent, congrArg Seen.err hlogged⟩
      | ok tokens =>
          simp only [htokens] at hsilent hlogged
          obtain ⟨_, -, hsilent⟩ := hsilent
          obtain ⟨_, -, hlogged⟩ := hlogged
          refine ⟨[], ?_, ?_⟩
          · rw [List.append_nil]
            exact congrArg Seen.err hsilent
          · rw [List.append_nil]
            exact congrArg Seen.err hlogged

/-- What is seen of a run that lists a file and is logged, beside the same run in silence.

The status and the listing are the same.  In the error output log lines are inserted
behind the warnings.  They are there only if the file is loaded, and then they are the
line for the file with the number of its bytes, one line for every token that a session
gives, trivia among them, in order, and one line for the error if there is one; each kind
of line only if the filter enables it. -/
theorem seen_run_lex_logged
    (read : Text → Except ReadFailure ByteArray)
    (arguments : List Text)
    (value : Text) :
    let silent := (run read ("lex".toList :: arguments)).seen none
    let seen := (run read ("lex".toList :: arguments)).seen (some value)
    let filter := Log.Filter.ofText value
    (∀ directives : Log.Filter,
      (∀ d ∈ directives, d.Plain) →
        value = directives.written →
        filter = directives) ∧
      seen.status = silent.status ∧
      seen.out = silent.out ∧
      ∃ front lines rest,
        silent.err = front ++ rest ∧
          seen.err = front ++ lines ++ rest ∧
          match arguments.find? isPath with
          | none => lines = []
          | some path =>
              (∃ warnings,
                Listing.Options.Warned 2 (arguments.eraseP isPath) warnings ∧
                  front = unlines warnings) ∧
                match SourceFile.load read path with
                | .error _ => lines = []
                | .ok text =>
                    ∃ (bytes : ByteArray) (tokens : List Token) (stop : Option LexicalError),
                      read path = .ok bytes ∧
                        (Session.ofText text).drain.1 =
                          tokens.map .ok ++ stop.toList.map .error ∧
                        (∀ ts, tokenize text = .ok ts ↔ stop = none ∧ tokens = ts) ∧
                        (∀ e, tokenize text = .error e ↔ stop = some e) ∧
                        lines =
                          (if filter.Enables .debug "pactc::commands::lex".toList then
                            Log.openedLine path bytes.size else []) ++
                          (if filter.Enables .trace "pact_lexer::scanner".toList then
                            tokens.flatMap Log.tokenLine else []) ++
                          (if filter.Enables .debug "pact_lexer::scanner".toList then
                            stop.toList.flatMap Log.stoppedLine else []) := by
  intro silent seen filter
  obtain ⟨hstatus, hout⟩ := steady_run read ("lex".toList :: arguments) (some filter)
  refine ⟨?_, hstatus, hout, ?_⟩
  · rintro directives hplain rfl
    exact Log.Filter.ofText_written hplain
  cases hpath : arguments.find? isPath with
  | none =>
      have hrun := run_lex_of_none read hpath
      refine ⟨silent.err, [], [], (List.append_nil _).symm, ?_, rfl⟩
      simp only [seen, silent, hrun, seen_lexNothing, List.append_nil]
  | some path =>
      have hrun := run_lex_of_some read hpath
      obtain ⟨rest, hsilent, hseen⟩ :=
        err_perform_lex read path (arguments.eraseP isPath) value
      rw [← hrun] at hsilent hseen
      have hwarned :=
        Listing.Options.warned_warnings Listing.Options.standard (arguments.eraseP isPath)
      refine ⟨_, _, rest, hsilent, hseen, ⟨_, hwarned, rfl⟩, ?_⟩
      cases hload : SourceFile.load read path with
      | error failure =>
          rfl
      | ok text =>
          have hstream := Stream.ofText_eq_tokens_append text
          have hlines := logged_records filter path hstream
          rw [← Text.size_utf8Encode] at hlines
          refine ⟨text.utf8Encode, Stream.tokens (Stream.ofText text),
            Stream.error? (Stream.ofText text), SourceFile.load_eq_ok_iff.1 hload, ?_, ?_, ?_,
            hlines⟩
          · rw [Session.drain_ofText]
            exact hstream
          · intro ts
            exact Stream.collect_eq_ok_iff
          · intro e
            exact Stream.collect_eq_error_iff

theorem seen_run_lex_logged_rejected :
    let read : Text → Except ReadFailure ByteArray := fun _ => .ok "é -".toList.utf8Encode
    let value := "pact_lexer=off,pactc=debug,pact_lexer::scanner=trace".toList
    ((run read ["lex".toList, "-q".toList, "a.pact".toList]).seen (some value)).err =
      unlines
        ["warning: unknown option '-q'".toList,
         "DEBUG pactc::commands::lex: lexing file path=\"a.pact\" bytes=4".toList,
         "TRACE pact_lexer::scanner: token kind=\"Identifier\" line=1 column=1".toList,
         "TRACE pact_lexer::scanner: token kind=\"Whitespace\" line=1 column=2".toList,
         ("DEBUG pact_lexer::scanner: lexing stopped: unexpected symbol '-' ".toList ++
           "kind=\"UnexpectedSymbol\" line=1 column=3".toList),
         "a.pact:1:3: error: unexpected symbol '-'".toList,
         "  help: `-` is only valid as part of `->`".toList] := by
  intro read value
  obtain ⟨hfilter, -, -, front, lines, rest, hsilent, hseen, hlines⟩ :=
    seen_run_lex_logged read ["-q".toList, "a.pact".toList] value
  have hdirectives :=
    hfilter
      [⟨"pact_lexer".toList, none⟩,
       ⟨"pactc".toList, some .debug⟩,
       ⟨"pact_lexer::scanner".toList, some .trace⟩]
      (by decide) (by decide)
  have hpath : ["-q".toList, "a.pact".toList].find? isPath = some "a.pact".toList := by
    decide
  have hload : SourceFile.load read "a.pact".toList = .ok "é -".toList :=
    SourceFile.load_eq_ok_iff.2 rfl
  simp only [hpath, hload] at hlines
  obtain ⟨⟨warnings, hwarned, rfl⟩, bytes, tokens, stop, hread, hstream, -, hstop, hlines⟩ :=
    hlines
  have hwarnings := hwarned.eq_warnings (o := Listing.Options.standard) rfl
  subst hwarnings
  cases hread
  have hitems :
      Stream.ofText "é -".toList =
        [⟨.identifier ['é'], ⟨1, 1⟩⟩, ⟨.whitespace [' '], ⟨1, 2⟩⟩].map .ok ++
          [.error ⟨.unexpectedSymbol '-', ⟨1, 3⟩⟩] := by
    decide +kernel
  have hreport :
      ((run read ["lex".toList, "-q".toList, "a.pact".toList]).seen none).err =
        unlines (Listing.Options.standard.warnings ["-q".toList]) ++
          unlines (report "a.pact".toList ⟨.unexpectedSymbol '-', ⟨1, 3⟩⟩) := by
    decide +kernel
  have herror : tokenize "é -".toList = .error ⟨.unexpectedSymbol '-', ⟨1, 3⟩⟩ := by
    rw [tokenize, hitems]
    rfl
  obtain rfl := (hstop _).1 herror
  have htokens :=
    List.append_cancel_right (hstream.symm.trans ((Session.drain_ofText _).trans hitems))
  obtain rfl := (List.map_inj_right fun _ _ => Except.ok.inj).1 htokens
  obtain rfl := List.append_cancel_left (hreport.symm.trans hsilent)
  rw [hseen, hlines, hdirectives, Text.size_utf8Encode]
  decide +kernel

end Command
end ContractLexer
