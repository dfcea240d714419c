import ContractLexer.SourceFile

/-!
# Working directories

A working directory in memory: files and directories, each under the names that
lead to it.  A path is followed name by name, as the names stand between its
slashes.  An empty name and `.` stay where they are, `..` leads to the directory
above.

Nothing is known of what lies outside the working directory but that there are
directories: `..` at the top and a leading slash lead there, and no name is found
there.
-/

namespace ContractLexer

/-- What a name stands for. -/
inductive Entry where
  | file (content : ByteArray)
  | directory

/-- The entries of a working directory, each under the names that lead to it. -/
structure WorkingDirectory where
  entries : List (List Text × Entry)

namespace WorkingDirectory

/-- The names of a path. -/
def names (path : Text) : List Text :=
  path.splitOn '/'

/-- A name that stays where it is. -/
def isIdle (name : Text) : Bool :=
  name == [] || name == ['.']

/-- The longest name there may be, in bytes. -/
def maxNameSize : Nat := 255

/-- The longest path there may be, in bytes. -/
def maxPathSize : Nat := 4095

/-- The working directory with the given entries, each under its path. -/
def ofEntries (entries : List (Text × Entry)) : WorkingDirectory :=
  { entries :=
      entries.map fun e => ((names e.1).filter fun name => !isIdle name, e.2) }

/-- What the names lead to.  Above every entry there are directories. -/
def entry? (w : WorkingDirectory) (names : List Text) : Option Entry :=
  match w.entries.find? fun e => e.1 == names with
  | some e => some e.2
  | none => if w.entries.any fun e => names.isPrefixOf e.1 then some .directory else none

/-- Where a path may lead. -/
inductive Place where
  /-- The directory under the given names. -/
  | inside (names : List Text)
  /-- A directory outside of the working directory. -/
  | outside
  /-- A file. -/
  | file (content : ByteArray)

/-- The directory above a directory. -/
def Place.above : Place → Place
  | .inside [] => .outside
  | .inside names => .inside names.dropLast
  | place => place

/-- Follow one name. -/
def follow (w : WorkingDirectory) (place : Place) (name : Text) :
    Except ReadFailure Place :=
  match place with
  | .file _ => .error .notDirectory
  | _ =>
      if isIdle name then .ok place
      else if name = ['.', '.'] then .ok place.above
      else if maxNameSize < Text.byteSize name then .error .nameTooLong
      else
        match place with
        | .inside names =>
            match w.entry? (names ++ [name]) with
            | some (.file content) => .ok (.file content)
            | some .directory => .ok (.inside (names ++ [name]))
            | none => .error .notFound
        | _ => .error .notFound

/-- Where a path starts. -/
def start (path : Text) : Place :=
  if path.head? = some '/' then .outside else .inside []

/-- The bytes of the file at a path. -/
def read (w : WorkingDirectory) (path : Text) : Except ReadFailure ByteArray :=
  if path.contains '\x00' then .error .nulInPath
  else if path = [] then .error .notFound
  else if maxPathSize < Text.byteSize path then .error .nameTooLong
  else
    match (names path).foldlM w.follow (start path) with
    | .error failure => .error failure
    | .ok (.file content) => .ok content
    | .ok _ => .error .isDirectory

end WorkingDirectory
end ContractLexer
