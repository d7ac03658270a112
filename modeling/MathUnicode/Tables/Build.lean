import MathUnicode.Tables.Basic
import MathUnicode.Unicode.WhiteSpace
import MathUnicode.Text.Hex
import MathUnicode.Text.Lines
import MathUnicode.FileError

/-!
# Building the tables from the character database

The database has one record per line, with 15 fields separated by semicolons.  Three
fields matter: the code point (field 0, hexadecimal), the character name (field 1) and
the decomposition (field 5).  A decomposition `<super> 0061` says that the record's
character is the superscript form of U+0061; `<sub>` and `<font>` likewise give subscript
forms and styled variants.  Decompositions with another tag, without a tag, or onto more
than one character are skipped.

Reading stops at the first faulty line:

* an empty line is skipped;
* a line without exactly 15 fields is malformed;
* the code point must be a hexadecimal number of 32 bits, blanks around it allowed;
* for a kept decomposition, its base and the record's own code point must be scalar
  values.

A later record for the same base replaces an earlier superscript or subscript and adds
one more variant.  At the end, four Greek letters get the superscript forms that the
database assigns to Latin look-alikes.

Main statements: `ofString` and `ofBytes` read a text and a byte sequence line by line
with the same per-line step `Tables.addLine`.
-/

namespace MathUnicode

/-- Why the database could not be read into tables. -/
inductive BuildError
  /-- The line does not have 15 fields. -/
  | malformedRecord (line : Nat) (fields : Nat)
  /-- The text in the line is not a valid code point. -/
  | invalidCodePoint (line : Nat) (value : String)
  /-- A line of the byte sequence is not UTF-8. -/
  | invalidText
  /-- The database file could not be read. -/
  | unreadable (error : FileError)
  deriving DecidableEq, Repr, Inhabited

namespace BuildError

/-- The wording of the error. -/
def message : BuildError → String
  | malformedRecord l n => s!"Malformed Unicode data record at line {l}: expected 15 fields, found {n}"
  | invalidCodePoint l v => s!"Invalid code point '{v}' at line {l}"
  | invalidText => "IO error: stream did not contain valid UTF-8"
  | unreadable e => "IO error: " ++ e.message

end BuildError

/-- The number of fields of a database record. -/
def fieldCount : Nat := 15

/-- The fields of a database record that the tables need. -/
structure Record where
  /-- The code point of the record's character. -/
  codePoint : Nat
  /-- The character name. -/
  name : String
  /-- The decomposition field. -/
  decomposition : String
  deriving DecidableEq, Repr

/-- How a decomposition relates a character to its base. -/
inductive Layout
  | superscript
  | subscript
  | font
  deriving DecidableEq, Repr

/-- The layout named by a decomposition tag. -/
def Layout.ofTag? : String → Option Layout
  | "<super>" => some .superscript
  | "<sub>" => some .subscript
  | "<font>" => some .font
  | _ => none

namespace Record

/-- Reads a code point field: a hexadecimal number of 32 bits between blanks. -/
def parseCodePoint (line : Nat) (field : String) : Except BuildError Nat :=
  match Text.parseHex? (Unicode.trim field) with
  | some n => .ok n
  | none => .error (.invalidCodePoint line field)

/-- Reads a code point field that must name a scalar value. -/
def parseScalar (line : Nat) (field : String) : Except BuildError Char := do
  let n ← parseCodePoint line field
  match Text.scalar? n with
  | some c => pure c
  | none => throw (.invalidCodePoint line field)

/-- The fields of a record line, cut at every semicolon. -/
def fields (text : String) : List String :=
  (text.toList.splitOn ';').map String.ofList

/-- Splits a record line into its fields and reads the code point. -/
def parse (line : Nat) (text : String) : Except BuildError Record :=
  let fs := fields text
  if fs.length = fieldCount then do
    let n ← parseCodePoint line (fs.getD 0 "")
    pure ⟨n, fs.getD 1 "", fs.getD 5 ""⟩
  else
    .error (.malformedRecord line fs.length)

/-- The tag of a decomposition, up to its first space, and the text after that space; a
decomposition that does not start with `<` has no tag. -/
def splitTag (decomposition : String) : Option String × String :=
  if decomposition.toList.head? = some '<' then
    let (tag, rest) := decomposition.toList.span (· != ' ')
    (some (String.ofList tag), String.ofList (rest.drop 1))
  else
    (none, decomposition)

/-- The layout and base of a decomposition that maps the character onto exactly one base
character with one of the three tags. -/
def mapping? (r : Record) : Option (Layout × String) :=
  if r.decomposition.isEmpty then none
  else
    let (tag, rest) := splitTag r.decomposition
    match Unicode.words rest, tag.bind Layout.ofTag? with
    | [base], some layout => some (layout, base)
    | _, _ => none

end Record

namespace Tables

/-- Records one mapping of `glyph` onto `base`. -/
def addMapping (t : Tables) (layout : Layout) (base glyph : Char) (name : String) : Tables :=
  match layout with
  | .superscript => { t with superscripts := t.superscripts.insert base.toNat glyph }
  | .subscript => { t with subscripts := t.subscripts.insert base.toNat glyph }
  | .font =>
    let known := t.variants.getD base.toNat #[]
    { t with variants := t.variants.insert base.toNat (known.push (Variant.ofName glyph name)) }

/-- Reads one line of the database, numbered `line` from 1. -/
def addLine (t : Tables) (line : Nat) (text : String) : Except BuildError Tables :=
  if text.isEmpty then .ok t
  else do
    let r ← Record.parse line text
    match r.mapping? with
    | none => pure t
    | some (layout, baseField) =>
      let base ← Record.parseScalar line baseField
      match Text.scalar? r.codePoint with
      | none => throw (.invalidCodePoint line (Text.hex4 r.codePoint))
      | some glyph => pure (t.addMapping layout base glyph r.name)

/-- Greek letters whose superscript forms the database lists under Latin look-alikes. -/
def greekSuperscripts : List (Char × Char) :=
  [('α', 'ᵅ'), ('ϵ', 'ᵋ'), ('ι', 'ᶥ'), ('ϕ', 'ᶲ')]

/-- Adds the superscript forms of `greekSuperscripts`, replacing any others. -/
def finish (t : Tables) : Tables :=
  let sups := greekSuperscripts.foldl (fun m e => m.insert e.1.toNat e.2) t.superscripts
  { t with superscripts := sups }

/-- Reads numbered lines, stopping at the first fault. -/
def addLines (t : Tables) (lines : List (String × Nat)) : Except BuildError Tables :=
  lines.foldlM (fun t l => t.addLine l.2 l.1) t

/-- The tables of a database text. -/
def ofString (s : String) : Except BuildError Tables :=
  (({} : Tables).addLines ((Text.lines s).zipIdx 1)).map finish

/-- Reads one numbered line of bytes: it must be UTF-8. -/
def addByteLine (t : Tables) (l : List UInt8 × Nat) : Except BuildError Tables :=
  match String.fromUTF8? (ByteArray.mk l.1.toArray) with
  | some text => t.addLine l.2 text
  | none => .error .invalidText

/-- The tables of a database given as bytes, read line by line. -/
def ofBytes (bs : List UInt8) : Except BuildError Tables :=
  (((Text.byteLines bs).zipIdx 1).foldlM addByteLine ({} : Tables)).map finish

end Tables

end MathUnicode
