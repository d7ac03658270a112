/-!
# File errors

The ways in which a file named on the command line can fail to be read or written in a
fresh working directory: it, or a directory on its path, does not exist; it is a
directory; or a part of its path that should be a directory is a file.  Each has the
operating system's error number, kind and description.
-/

namespace MathUnicode

/-- Why the operating system refused to read or write a file. -/
inductive FileError
  /-- The file, or a directory on its path, does not exist. -/
  | notFound
  /-- The path names a directory. -/
  | isDirectory
  /-- A part of the path that should be a directory is a file. -/
  | notADirectory
  deriving DecidableEq, Repr, Inhabited

namespace FileError

/-- The operating system's error number. -/
def code : FileError → Nat
  | notFound => 2
  | isDirectory => 21
  | notADirectory => 20

/-- The name of the kind of error. -/
def kind : FileError → String
  | notFound => "NotFound"
  | isDirectory => "IsADirectory"
  | notADirectory => "NotADirectory"

/-- The operating system's description of the error. -/
def description : FileError → String
  | notFound => "No such file or directory"
  | isDirectory => "Is a directory"
  | notADirectory => "Not a directory"

/-- The description followed by the error number. -/
def message (e : FileError) : String :=
  s!"{e.description} (os error {e.code})"

/-- The error as a record of its number, kind and description. -/
def record (e : FileError) : String :=
  "Os \x7b code: " ++ toString e.code ++ ", kind: " ++ e.kind ++ ", message: \"" ++
    e.description ++ "\" \x7d"

end FileError

end MathUnicode
