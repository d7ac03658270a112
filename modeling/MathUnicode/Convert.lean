import MathUnicode.Markup.Parse
import MathUnicode.Render.Basic

/-!
# Converting markup to text

Conversion reads a formula and renders it.  It fails when the text is not a formula,
or when the formula names a symbol that the catalog does not have; otherwise it yields
the text and the warnings raised on the way.

Hosts that cannot take an error get `failureMark` instead.  No conversion yields it,
since its replacement characters are never allowed in the markup.

A `Converter` keeps the warnings of successive renderings until they are taken.  A
rendering that stops at an unknown symbol keeps the warnings raised before it.
-/

namespace MathUnicode

open Markup

/-- Why a text could not be converted. -/
inductive ConversionError
  /-- The text is not a formula. -/
  | parse (error : ParseError)
  /-- The formula names a symbol that the catalog does not have. -/
  | unknownSymbol (name : String)
  deriving DecidableEq, Repr, Inhabited

namespace ConversionError

/-- The wording of the error. -/
def message : ConversionError → String
  | parse e => e.message
  | unknownSymbol name => "Unsupported symbol '\\" ++ name ++ "'"

/-- Whether the error arose while reading the text, not while rendering it. -/
def isParseError : ConversionError → Bool
  | parse _ => true
  | unknownSymbol _ => false

end ConversionError

/-- A successful conversion: the text and the warnings, in order. -/
structure Conversion where
  /-- The converted text. -/
  content : String
  /-- The characters kept unchanged. -/
  warnings : List Warning
  deriving DecidableEq, Repr, Inhabited

/-- The outcome of a rendering: its text, or the unknown symbol that stopped it. -/
def Rendering.result (r : Rendering) : Except ConversionError String :=
  match r.stop with
  | some name => .error (.unknownSymbol name)
  | none => .ok r.content

/-- Reads and renders a text; a parse error comes before any rendering. -/
def attempt (t : Tables) (s : Style) (text : String) : Except ParseError Rendering :=
  (Formula.parse text).map (Formula.render t s)

/-- Converts a text in the style `s`. -/
def convert (t : Tables) (s : Style) (text : String) : Except ConversionError Conversion :=
  match attempt t s text with
  | .error e => .error (.parse e)
  | .ok r =>
    match r.stop with
    | some name => .error (.unknownSymbol name)
    | none => .ok ⟨r.content, r.warnings⟩

/-- Stands in for the text of a conversion that failed. -/
def failureMark : String := "�ERROR�"

/-- The converted text, or `failureMark` if the conversion fails. -/
def convertOrMark (t : Tables) (s : Style) (text : String) : String :=
  match convert t s text with
  | .ok c => c.content
  | .error _ => failureMark

/-- A renderer that keeps the warnings of its renderings until they are taken. -/
structure Converter where
  /-- The tables to render with. -/
  tables : Tables
  /-- Warnings not yet taken, in order. -/
  pending : List Warning := []

namespace Converter

/-- Renders a formula into a fresh text, with the converter's pending warnings as the
sink's warnings: those of a rendering that fails stay pending too. -/
def render (c : Converter) (f : Formula) (s : Style) :
    Except ConversionError String × Converter :=
  match (Node.renderNodes c.tables s f.nodes).run.run { warnings := c.pending } with
  | (.ok (), b) => (.ok b.output, { c with pending := b.warnings })
  | (.error name, b) => (.error (.unknownSymbol name), { c with pending := b.warnings })

/-- The pending warnings; the converter is left without any. -/
def takeWarnings (c : Converter) : List Warning × Converter :=
  (c.pending, { c with pending := [] })

end Converter

end MathUnicode
