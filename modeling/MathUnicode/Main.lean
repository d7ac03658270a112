import MathUnicode.Cli.Arguments
import MathUnicode.Cli.Json
import MathUnicode.Cli.Program
import MathUnicode.Text.Lines

/-!
# The command-line program's entry point

Supplies the libraries the program is built on, reads what the run needs from the file
system and the standard input, runs it, prints its output and writes its report.
-/

open MathUnicode MathUnicode.Cli

/-- The argument reader and the JSON writer the program runs with. -/
def libraries : Libraries where
  readArgs := Request.ofArgs
  writeJson := Report.Value.pretty

/-- The file error that an operating-system error stands for. -/
def fileErrorOf (e : IO.Error) : FileError :=
  match e with
  | .inappropriateType _ code _ => if code == 20 then .notADirectory else .isDirectory
  | _ => .notFound

/-- Reads a file as bytes. -/
def readBytes (path : String) : IO (Except FileError (List UInt8)) := do
  try
    let bytes ← IO.FS.readBinFile path
    return .ok bytes.toList
  catch e =>
    return .error (fileErrorOf e)

/-- Writes a text file. -/
def writeText (path text : String) : IO (Except FileError Unit) := do
  try
    IO.FS.writeFile path text
    return .ok ()
  catch e =>
    return .error (fileErrorOf e)

/-- Reads the whole standard input. -/
partial def readInput (stream : IO.FS.Stream) (acc : String) : IO String := do
  let line ← stream.getLine
  if line.isEmpty then return acc else readInput stream (acc ++ line)

def main (args : List String) : IO UInt32 := do
  let (file, input) ← match libraries.readArgs args with
    | .ok (.run o) => do
      let file ← match o.unicodeData with
        | some path => some <$> readBytes path
        | none => pure none
      let input ← if o.readsInput then readInput (← IO.getStdin) "" else pure ""
      pure (file, input)
    | _ => pure (none, "")
  let p := plan libraries args file (Text.lines input)
  let written ← match p.report with
    | some (path, text) => writeText path text
    | none => pure (.ok ())
  let t := p.complete written
  IO.print t.stdout
  IO.eprint t.stderr
  return t.status.toUInt32
