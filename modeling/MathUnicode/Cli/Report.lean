import MathUnicode.Convert

/-!
# The conversion report

The report lists each converted expression with its style and either its conversion or
its error, as a JSON document: an array with one object per expression.  This module
builds the document; a JSON library writes it out as text (`Cli.Libraries`).
-/

namespace MathUnicode.Report

/-- A JSON value made of the parts the report needs. -/
inductive Value
  | str (s : String)
  | bool (b : Bool)
  | arr (items : List Value)
  | obj (members : List (String × Value))
  deriving Repr, Inhabited

/-- A style as an object of its eight axes. -/
def styleValue (s : Style) : Value :=
  .obj [("bold", .bool s.bold), ("double_struck", .bool s.doubleStruck),
    ("fraktur", .bool s.fraktur), ("italic", .bool s.italic),
    ("sans_serif", .bool s.sansSerif), ("script", .bool s.script),
    ("subscript", .bool s.subscript), ("superscript", .bool s.superscript)]

/-- A warning as an object of its kind, character and message. -/
def warningValue (w : Warning) : Value :=
  .obj [("kind", .str w.kind.tag), ("character", .str (String.singleton w.character)),
    ("message", .str w.message)]

/-- One converted expression of the report. -/
structure Entry where
  /-- The expression as given. -/
  input : String
  /-- The style it was converted in. -/
  style : Style
  /-- Its conversion, or the message of its error. -/
  outcome : Except String Conversion

/-- The entry as an object: input, style, then output or error. -/
def Entry.value (e : Entry) : Value :=
  let last := match e.outcome with
    | .ok c => ("output", Value.obj [("content", .str c.content),
        ("warnings", .arr (c.warnings.map warningValue))])
    | .error msg => ("error", .str msg)
  .obj [("input", .str e.input), ("context", styleValue e.style), last]

/-- The report's document: the entries in order. -/
def document (entries : List Entry) : Value :=
  .arr (entries.map Entry.value)

end MathUnicode.Report
