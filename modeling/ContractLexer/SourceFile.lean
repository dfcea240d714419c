import ContractLexer.Text.Basic

/-!
# Source files

A source file holds the UTF-8 form of a text.  Loading it fails when the file
cannot be read and when its bytes are the UTF-8 form of no text; nothing is
replaced or left out.

**Contents.**  The reasons for a failure, their messages, and loading by means
of any function that reads the bytes of a file.
-/

namespace ContractLexer

/-- Why the bytes of a file cannot be had. -/
inductive ReadFailure where
  | notFound
  | permissionDenied
  | isDirectory
  | notDirectory
  | nameTooLong
  | nulInPath
  /-- Any other reason, in words. -/
  | other (reason : Text)
  deriving DecidableEq

/-- Why a source file cannot be loaded. -/
inductive LoadFailure where
  | unreadable (failure : ReadFailure)
  | invalidUtf8
  deriving DecidableEq

namespace LoadFailure

/-- The message shown to the user when the file at `path` cannot be loaded. -/
def message (path : Text) : LoadFailure → Text
  | unreadable .notFound => "cannot find file '".toList ++ path ++ ['\x27']
  | unreadable .permissionDenied =>
      "permission denied reading '".toList ++ path ++ ['\x27']
  | unreadable .isDirectory => because "Is a directory (os error 21)".toList
  | unreadable .notDirectory => because "Not a directory (os error 20)".toList
  | unreadable .nameTooLong => because "File name too long (os error 36)".toList
  | unreadable .nulInPath => because "file name contained an unexpected NUL byte".toList
  | unreadable (.other reason) => because reason
  | invalidUtf8 => ['\x27'] ++ path ++ "' contains invalid UTF-8 data".toList
where
  because (reason : Text) : Text :=
    "error reading '".toList ++ path ++ "': ".toList ++ reason

end LoadFailure

namespace SourceFile

/-- The text whose UTF-8 form the bytes are. -/
def decode? (bytes : ByteArray) : Option Text :=
  bytes.utf8Decode?.map Array.toList

/-- The text of the file at `path`, where `read` gives the bytes of a file. -/
def load
    (read : Text → Except ReadFailure ByteArray)
    (path : Text) :
    Except LoadFailure Text :=
  match read path with
  | .error failure => .error (.unreadable failure)
  | .ok bytes =>
      match decode? bytes with
      | some text => .ok text
      | none => .error .invalidUtf8

end SourceFile
end ContractLexer
