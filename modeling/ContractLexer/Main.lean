import ContractLexer.Command

/-!
# The program

Reads the file that the arguments name and the log filter from the environment,
and writes what the command asks for.
-/

namespace ContractLexer

/-- The number of an operating-system error.  Some calls report it negated. -/
def errorNumber (code : UInt32) : Nat :=
  min code.toNat (0 - code).toNat

/-- The reason behind an error of the operating system. -/
def ReadFailure.ofError (e : IO.Error) : ReadFailure :=
  match e with
  | .noFileOrDirectory _ _ _ => .notFound
  | .permissionDenied _ _ _ => .permissionDenied
  | .inappropriateType _ code _ =>
      if errorNumber code = 21 then .isDirectory else .notDirectory
  | .invalidArgument _ code _ =>
      if errorNumber code = 36 then .nameTooLong else .other (toString e).toList
  | _ => .other (toString e).toList

/-- The bytes of a file on disk. -/
def readDisk (path : Text) : IO (Except ReadFailure ByteArray) := do
  try
    return .ok (← IO.FS.readBinFile (String.ofList path))
  catch e =>
    return .error (.ofError e)

/-- Write one thing. -/
def Output.write (o : Output) : IO Unit := do
  IO.print (String.ofList o.onOut)
  IO.eprint (String.ofList o.onErr)

end ContractLexer

open ContractLexer in
/-- Run the program. -/
def main (arguments : List String) : IO UInt32 := do
  let command := Command.ofArguments (arguments.map String.toList)
  let content ←
    match command with
    | .lex path _ => readDisk path
    | _ => pure (.error .notFound)
  let filter := (← IO.getEnv "RUST_LOG").map fun value => Log.Filter.ofText value.toList
  let (status, outputs) := command.perform (fun _ => content) filter
  for output in outputs do
    output.write
  return status.toUInt32
