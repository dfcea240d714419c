import ContractLexer.Listing.Basic
import ContractLexer.SourceFile

/-!
# The command line

The program prints the listing of a source file, or an explanation of its use.

**Contents.**  What the arguments ask for, and the program that does it.  Its result
is the exit status.
-/

namespace ContractLexer

/-- What the arguments of the program ask for. -/
inductive Command where
  | help
  /-- List the tokens of the file at `path`. -/
  | lex (path : Text) (flags : List Text)
  /-- List the tokens of a file that is not named. -/
  | lexNothing
  | unknown (name : Text)
  deriving DecidableEq

namespace Command

/-- The first argument that does not start with a dash, and the other arguments
in order. -/
def splitPath : List Text → Option (Text × List Text)
  | [] => none
  | argument :: rest =>
      if argument.head? = some '-' then
        (splitPath rest).map fun found => (found.1, argument :: found.2)
      else some (argument, rest)

/-- What a list of arguments asks for. -/
def ofArguments : List Text → Command
  | [] => .help
  | name :: rest =>
      if name = "lex".toList then
        match splitPath rest with
        | some (path, flags) => .lex path flags
        | none => .lexNothing
      else if name = "help".toList ∨ name = "--help".toList ∨ name = "-h".toList then .help
      else .unknown name

/-- The lines of an explanation of the program. -/
def usageLines : List Text :=
  ["Pact - front-end tooling for the Pact contract language".toList,
   [],
   "Usage: pactc <command> [options]".toList,
   [],
   "Commands:".toList,
   "  lex <file>    Print the token stream of a source file".toList,
   "  help          Show this message".toList,
   [],
   "Lex options:".toList,
   "  --trivia            Include whitespace and comment tokens".toList,
   "  --indent=<n>        Spaces per brace level (default: 2)".toList,
   "  --locations         Show line:column for each token (default)".toList,
   "  --no-locations      Hide token locations".toList,
   [],
   "Set RUST_LOG (e.g. RUST_LOG=pact_lexer=trace) for debug logging.".toList]

/-- Lines, each ended by a line feed. -/
def unlines (lines : List Text) : Text :=
  lines.flatMap fun line => line ++ ['\n']

/-- The report of a lexical error in the file at `path`. -/
def report (path : Text) (e : LexicalError) : List Text :=
  (path ++ [':'] ++ e.location.written ++ ": error: ".toList ++ e.cause.message) ::
    (e.cause.help?.map fun help => "  help: ".toList ++ help).toList

/-- List the tokens of the file at `path`. -/
def lexFile
    (read : Text → Except ReadFailure ByteArray)
    (path : Text)
    (o : Listing.Options) :
    Program Nat :=
  match SourceFile.load read path with
  | .error failure => do
      Program.complain (unlines [failure.message path])
      return 1
  | .ok text => do
      Program.log (.opened path text)
      match ← Listing.ofTextLogged o text with
      | .ok listing =>
          Program.print listing
          return 0
      | .error e =>
          Program.complain (unlines (report path e))
          return 1

/-- Carry out a command, where `read` gives the bytes of a file. -/
def perform (read : Text → Except ReadFailure ByteArray) : Command → Program Nat
  | .help => do
      Program.print (unlines usageLines)
      return 0
  | .lex path flags => do
      Program.complain (unlines (Listing.Options.standard.warnings flags))
      lexFile read path (.ofArguments flags)
  | .lexNothing => do
      Program.complain
        (unlines
          ["error: missing file path".toList,
           "Usage: pactc lex <file.pact> [--trivia] [--indent=<n>] [--no-locations]".toList])
      return 1
  | .unknown name => do
      Program.complain (unlines ["Unknown command: ".toList ++ name, []])
      Program.print (unlines usageLines)
      return 1

/-- Run the program with a list of arguments. -/
def run (read : Text → Except ReadFailure ByteArray) (arguments : List Text) : Program Nat :=
  (ofArguments arguments).perform read

end Command
end ContractLexer
