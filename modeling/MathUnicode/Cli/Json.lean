import MathUnicode.Cli.Report

/-!
# Writing JSON

The report is written as indented JSON text, the way the JSON library the program uses
writes it.  The program's logic takes the writer as a parameter (`Cli.Libraries`); this
module is the writer the program runs with.

The layout: two spaces of indentation per level; every member and element on its own
line; `"key": value` with one space after the colon; an empty array or object as `[]` or
`{}`.  Strings escape the double quote, the backslash, and every control character below
U+0020 (as `\b`, `\t`, `\n`, `\f`, `\r`, or `\u00XX` with lowercase digits); all other
characters stand for themselves.  The text ends without a line feed.
-/

namespace MathUnicode.Report

/-- A hexadecimal digit in lowercase. -/
def lowerHexDigit (n : Nat) : Char :=
  if n < 10 then Char.ofNat (48 + n) else Char.ofNat (87 + n)

/-- How one character is written inside a JSON string. -/
def escapeChar (c : Char) : List Char :=
  if c == '"' then ['\\', '"']
  else if c == '\\' then ['\\', '\\']
  else if c == '\x08' then ['\\', 'b']
  else if c == '\t' then ['\\', 't']
  else if c == '\n' then ['\\', 'n']
  else if c == '\x0c' then ['\\', 'f']
  else if c == '\r' then ['\\', 'r']
  else if c.toNat < 0x20 then
    ['\\', 'u', '0', '0', lowerHexDigit (c.toNat / 16), lowerHexDigit (c.toNat % 16)]
  else [c]

/-- A JSON string literal. -/
def quote (s : String) : String :=
  String.ofList ('"' :: s.toList.flatMap escapeChar ++ ['"'])

/-- `n` levels of indentation. -/
def pad (n : Nat) : String :=
  String.ofList (List.replicate (2 * n) ' ')

mutual

/-- The text of a value whose first line stands at indentation level `level`. -/
def Value.render (level : Nat) : Value → String
  | .str s => quote s
  | .bool b => if b then "true" else "false"
  | .arr [] => "[]"
  | .arr (x :: xs) => "[\n" ++ Value.renderItems (level + 1) (x :: xs) ++ "\n" ++ pad level ++ "]"
  | .obj [] => "\x7b\x7d"
  | .obj (m :: ms) =>
    "\x7b\n" ++ Value.renderMembers (level + 1) (m :: ms) ++ "\n" ++ pad level ++ "\x7d"

/-- Array elements at indentation level `level`, separated by commas and line feeds. -/
def Value.renderItems (level : Nat) : List Value → String
  | [] => ""
  | [x] => pad level ++ Value.render level x
  | x :: xs => pad level ++ Value.render level x ++ ",\n" ++ Value.renderItems level xs

/-- Object members at indentation level `level`, separated by commas and line feeds. -/
def Value.renderMembers (level : Nat) : List (String × Value) → String
  | [] => ""
  | [(k, v)] => pad level ++ quote k ++ ": " ++ Value.render level v
  | (k, v) :: ms =>
    pad level ++ quote k ++ ": " ++ Value.render level v ++ ",\n" ++ Value.renderMembers level ms

end

/-- The text of a JSON document. -/
def Value.pretty (v : Value) : String :=
  v.render 0

end MathUnicode.Report
