import MathUnicode.Cli.Options
import MathUnicode.Cli.Report
import MathUnicode.Markup.Outline
import MathUnicode.Tables.Snapshot

/-!
# The command-line program

The program converts each expression (the arguments, or else each line of the standard
input) and prints one line per expression: the converted text, or the failure mark.
With `--strict` a failed expression is reported on the error stream instead, and the
program ends with status 1.  The commands `symbols`, `parse` and `info` print the
catalog, the outline of an expression, or the entry counts of the tables.

The program is built on two libraries: one reads its arguments (and writes the help text
and the usage errors), the other writes its report as JSON text.  Both are parameters
here (`Libraries`), supplied where the program starts.

The run is split at its two contacts with the file system.  `Cli.plan` takes the
arguments, the content of the database file if one is named, and the input lines, and
yields everything the program prints together with the report it still has to write;
`Plan.complete` adds what follows from writing that report.

With `--verbose` diagnostics go to the error stream: one line when the tables are built,
one for each character kept unchanged, and one for each failure that the failure mark
hides.  A conversion that falls back to the failure mark is run a second time, as the
mark is computed on its own, so its diagnostics appear twice.
-/

namespace MathUnicode.Cli

open Markup

/-- The libraries the program is built on. -/
structure Libraries where
  /-- Reads the arguments: what they ask for, or the text of a usage error. -/
  readArgs : List String → Except String Request
  /-- Writes a JSON document as text. -/
  writeJson : Report.Value → String

/-- The program's name and version, as `--version` prints them. -/
def versionLine : String := "latex-input 0.1.0"

/-- What the program printed, and its exit status. -/
structure Transcript where
  /-- The standard output. -/
  stdout : String := ""
  /-- The standard error stream. -/
  stderr : String := ""
  /-- The exit status. -/
  status : Nat := 0
  deriving DecidableEq, Repr, Inhabited

namespace Transcript

/-- Appends a line to the standard output. -/
def say (t : Transcript) (line : String) : Transcript :=
  { t with stdout := t.stdout ++ line ++ "\n" }

/-- Appends a line to the error stream. -/
def warn (t : Transcript) (line : String) : Transcript :=
  { t with stderr := t.stderr ++ line ++ "\n" }

/-- Appends a diagnostic at the given level, if diagnostics are on. -/
def log (t : Transcript) (on : Bool) (level message : String) : Transcript :=
  if on then t.warn ("[" ++ level ++ "] " ++ message) else t

end Transcript

/-- A run up to the writing of its report. -/
structure Plan where
  /-- What the run printed, with the status it ends with if the report is written. -/
  transcript : Transcript
  /-- The report file to write and its text. -/
  report : Option (String × String) := none
  deriving Repr, Inhabited

/-- The run's outcome once the report is written, or fails to be. -/
def Plan.complete (p : Plan) (written : Except FileError Unit) : Transcript :=
  match p.report, written with
  | none, _ => p.transcript
  | some (path, _), .ok () => p.transcript.warn ("✓ Report written to: " ++ path)
  | some _, .error e => { p.transcript.warn ("Error: " ++ e.record) with status := 1 }

/-- The diagnostic line for freshly built tables. -/
def builtLine (t : Tables) : String :=
  let s := t.stats
  s!"built Unicode tables: {s.superscripts} superscripts, {s.subscripts} subscripts, " ++
    s!"{s.variants} variants over {s.variantBases} base characters"

/-- The diagnostic line for a character kept unchanged. -/
def keptLine (w : Warning) : String :=
  "keeping '" ++ String.singleton w.character ++ "' unchanged: " ++ w.message

/-- One line of the symbol listing: backslash and name padded to 13 columns, glyph, code. -/
def symbolLine (e : String × Char) : String :=
  "\\" ++ e.1 ++ indent (12 - e.1.length) ++ " " ++ String.singleton e.2 ++ "  U+" ++
    Text.hex4 e.2.toNat

/-- The output of `info`. -/
def infoText (t : Tables) : List String :=
  let s := t.stats
  ["latex-input v0.1.0", "", "Tables:",
    s!"  superscripts:  {s.superscripts}",
    s!"  subscripts:    {s.subscripts}",
    s!"  font variants: {s.variants} ({s.variantBases} base characters)",
    s!"  symbols:       {Symbols.count}"]

/-- Runs a command. -/
def runCommand (tr : Transcript) (t : Tables) : Command → Transcript
  | .symbols start =>
    (Symbols.withPrefix (start.getD "")).foldl (fun tr e => tr.say (symbolLine e)) tr
  | .outline e =>
    match Formula.parse e with
    | .ok f => tr.say f.outline
    | .error err => { tr.warn ("Error: " ++ err.message) with status := 1 }
  | .info => (infoText t).foldl Transcript.say tr

/-- The state of the run while it converts expressions. -/
structure Progress where
  /-- What was printed so far. -/
  transcript : Transcript
  /-- The report entries so far. -/
  entries : List Report.Entry := []
  /-- Whether an expression failed. -/
  failed : Bool := false

/-- Converts one expression. -/
def convertOne (o : Options) (t : Tables) (s : Style) (p : Progress) (e : String) : Progress :=
  let logKept (tr : Transcript) (ws : List Warning) :=
    ws.foldl (fun tr w => tr.log o.verbose "DEBUG" (keptLine w)) tr
  let (tr, result) := match attempt t s e with
    | .error pe => (p.transcript, Except.error (ConversionError.parse pe))
    | .ok r =>
      let tr := logKept p.transcript r.warnings
      match r.stop with
      | none => (tr, .ok (Conversion.mk r.content r.warnings))
      | some name =>
        -- the failure mark is computed by a second conversion, which logs the same lines
        let tr := if o.strict then tr else logKept tr r.warnings
        (tr, .error (.unknownSymbol name))
  match result with
  | .ok c =>
    { p with transcript := tr.say c.content, entries := p.entries ++ [⟨e, s, .ok c⟩] }
  | .error err =>
    let stage := if err.isParseError then "Parse" else "Render"
    let tr :=
      if o.strict then
        tr.warn (stage ++ " error in " ++ Text.quote e ++ ": " ++ err.message)
      else
        (tr.log o.verbose "WARN" ("Failed to convert " ++ Text.quote e ++ ": " ++ err.message)).say
          failureMark
    { transcript := tr, entries := p.entries ++ [⟨e, s, .error err.message⟩], failed := true }

/-- The tables named by the options: the bundled ones, or those read from the contents of
the database file (its bytes, or why it could not be read). -/
def loadTables (file : Option (Except FileError (List UInt8))) : Except BuildError Tables :=
  match file with
  | none => .ok Tables.builtin
  | some (.error e) => .error (.unreadable e)
  | some (.ok bytes) => Tables.ofBytes bytes

/-- Whether the run reads its expressions from the standard input. -/
def Options.readsInput (o : Options) : Bool :=
  o.command.isNone && o.expressions.isEmpty

/-- A run with options `o`, given the contents of the database file if one is named, and
the lines of the standard input. -/
def runOptions (L : Libraries) (o : Options) (file : Option (Except FileError (List UInt8)))
    (input : List String) : Plan :=
  match loadTables file with
  | .error e => ⟨{ stderr := "Error: " ++ e.message ++ "\n", status := 1 }, none⟩
  | .ok t =>
    let tr := ({} : Transcript).log o.verbose "DEBUG" (builtLine t)
    match o.command with
    | some k => ⟨runCommand tr t k, none⟩
    | none =>
      let s := if o.math then Style.math else Style.plain
      let exprs := if o.expressions.isEmpty then input else o.expressions
      let p := exprs.foldl (convertOne o t s) { transcript := tr }
      let tr := { p.transcript with status := if p.failed && o.strict then 1 else 0 }
      ⟨tr, o.report.map fun path => (path, L.writeJson (Report.document p.entries))⟩

/-- A run of the program on its arguments, given the contents of the database file if one
is named, and the lines of the standard input. -/
def plan (L : Libraries) (args : List String) (file : Option (Except FileError (List UInt8)))
    (input : List String) : Plan :=
  match L.readArgs args with
  | .error usage => ⟨{ stderr := usage, status := 2 }, none⟩
  | .ok .version => ⟨({} : Transcript).say versionLine, none⟩
  | .ok (.help text) => ⟨{ stdout := text }, none⟩
  | .ok (.run o) => runOptions L o file input

end MathUnicode.Cli
