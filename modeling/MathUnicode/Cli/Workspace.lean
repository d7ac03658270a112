import MathUnicode.Cli.Program
import MathUnicode.Text.Lines

/-!
# Runs in a working directory of known files

A working directory is given by the text files in it, each under a relative path.  The
directories are the working directory, the directories above it, and those that hold a
file.

Outside the working directory only the root, the directories above the working
directory, `/tmp` and the null device `/dev/null` are known; the null device reads as
empty and takes any write.

A path is resolved one part at a time from the working directory (or from the root, for
a path that starts with a slash): `.` stays, `..` goes up (and stays at the root), and any
other part goes down into the entry of that name.  Every part but the last must lead to
a directory: to a file, the lookup fails with `notADirectory`, and to nothing, with
`notFound`.

Reading a directory fails with `isDirectory`, and reading a file through a path that
ends with a slash fails with `notADirectory`.  Writing creates or replaces a file; it
fails with `isDirectory` on a directory and on any path that ends with a slash.

`Cli.runIn` runs the program in such a directory, reading the database file from it
and writing the report into it.
-/

namespace MathUnicode.Cli

/-- A location below the working directory, as the names on the way to it; `..` stands for
a directory above the working directory, and `/` for the root. -/
abbrev Location := List String

/-- The location one part further along: `.` stays, `..` goes up (the root is its own
parent), a name goes down. -/
def Location.enter (loc : Location) (part : String) : Location :=
  if part == "." then loc
  else if part == ".." then
    match loc.getLast? with
    | none => [".."]
    | some last =>
      if last == "/" then loc
      else if last == ".." then loc ++ [".."]
      else loc.dropLast
  else loc ++ [part]

/-- What a location holds. -/
inductive Entry
  /-- A directory. -/
  | directory
  /-- A file with this text. -/
  | file (text : String)
  /-- A device that reads as empty and takes any write. -/
  | device
  /-- Nothing. -/
  | missing
  deriving DecidableEq, Repr, Inhabited

/-- A working directory, given by its files and their texts. -/
structure Workspace where
  /-- Each file's location and text. -/
  files : List (Location × String) := []
  /-- Directories known outside the working directory. -/
  directories : List Location := [["/", "tmp"]]
  /-- Null devices known outside the working directory. -/
  devices : List Location := [["/", "dev", "null"]]
  deriving Repr, Inhabited

/-- A path as the parts between its slashes, without empty parts, and whether it must
name a directory. -/
structure PathParts where
  /-- The parts, in order. -/
  parts : List String
  /-- Where the resolution starts: the working directory or the root. -/
  start : Location
  /-- Whether the path ends with a slash, so that it must name a directory. -/
  directoryOnly : Bool

/-- Splits a path into its parts. -/
def PathParts.ofString (path : String) : PathParts :=
  let parts := (path.splitOn "/").filter fun p => !p.isEmpty
  { parts
    start := if path.startsWith "/" then ["/"] else []
    directoryOnly := path.endsWith "/" }

namespace Workspace

/-- The directory holding the files with these paths and texts. -/
def ofFiles (fs : List (String × String)) : Workspace :=
  { files := fs.map fun f => ((PathParts.ofString f.1).parts.foldl Location.enter [], f.2) }

/-- What a location holds. -/
def entry (w : Workspace) (loc : Location) : Entry :=
  if w.devices.contains loc then .device
  else
    match w.files.find? (fun f => f.1 == loc) with
    | some f => .file f.2
    | none =>
      if loc.all (fun p => p == ".." || p == "/") || w.directories.contains loc ||
          w.files.any (fun f => loc.isPrefixOf f.1) ||
          w.devices.any (fun d => loc.isPrefixOf d) then .directory
      else .missing

/-- Follows the parts from `loc`, each part but the last through a directory. -/
def walk (w : Workspace) (loc : Location) : List String → Except FileError Location
  | [] => .ok loc
  | [p] => .ok (loc.enter p)
  | p :: rest =>
    let next := loc.enter p
    match w.entry next with
    | .directory => w.walk next rest
    | .file _ | .device => .error .notADirectory
    | .missing => .error .notFound

/-- The location a path names, and whether it must be a directory. -/
def locate (w : Workspace) (path : String) : Except FileError (Location × Bool) :=
  if path.isEmpty then .error .notFound
  else
    let pp := PathParts.ofString path
    (w.walk pp.start pp.parts).map fun loc => (loc, pp.directoryOnly)

/-- Reads the file at `path` as bytes. -/
def read (w : Workspace) (path : String) : Except FileError (List UInt8) := do
  let (loc, directoryOnly) ← w.locate path
  match w.entry loc with
  | .directory => throw .isDirectory
  | .file text => if directoryOnly then throw .notADirectory else pure text.toUTF8.toList
  | .device => if directoryOnly then throw .notADirectory else pure []
  | .missing => throw .notFound

/-- The text of the file at `path`, if there is one. -/
def get? (w : Workspace) (path : String) : Option String := do
  let (loc, directoryOnly) ← (w.locate path).toOption
  match w.entry loc with
  | .file text => if directoryOnly then none else some text
  | .device => if directoryOnly then none else some ""
  | _ => none

/-- Writes the text to the file at `path`, replacing any earlier text. -/
def write (w : Workspace) (path text : String) : Except FileError Workspace := do
  let (loc, directoryOnly) ← w.locate path
  if directoryOnly then throw .isDirectory
  match w.entry loc with
  | .directory => throw .isDirectory
  | .device => pure w
  | .file _ | .missing =>
    pure { w with files := (w.files.filter fun f => f.1 != loc) ++ [(loc, text)] }

end Workspace

/-- Runs the program, built on the libraries `L`, on its arguments and standard input in the
directory `w`. -/
def runIn (L : Libraries) (args : List String) (stdin : String) (w : Workspace) :
    Transcript × Workspace :=
  let file := match L.readArgs args with
    | .ok (.run o) => o.unicodeData.map w.read
    | _ => none
  let p := plan L args file (Text.lines stdin)
  match p.report with
  | none => (p.complete (.ok ()), w)
  | some (path, text) =>
    match w.write path text with
    | .ok w' => (p.complete (.ok ()), w')
    | .error e => (p.complete (.error e), w)

end MathUnicode.Cli
