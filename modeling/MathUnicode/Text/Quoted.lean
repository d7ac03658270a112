import MathUnicode.Unicode.Printable

/-!
# Quoted strings

A string is shown between double quotes.  Inside them the NUL, tab, carriage return and
line feed are written `\0`, `\t`, `\r`, `\n`; the backslash and the double quote get a
backslash before them; a character that is not printable, or that only extends the one
before it, is written `\u` followed by its code in lowercase hexadecimal between braces;
every other character stands for itself.
-/

namespace MathUnicode.Text

/-- How one character is written inside a quoted string. -/
def quoteChar (c : Char) : List Char :=
  if c == '\x00' then ['\\', '0']
  else if c == '\t' then ['\\', 't']
  else if c == '\r' then ['\\', 'r']
  else if c == '\n' then ['\\', 'n']
  else if c == '\\' then ['\\', '\\']
  else if c == '"' then ['\\', '"']
  else if Unicode.isGraphemeExtend c || !Unicode.isPrintable c then
    ['\\', 'u', '\x7b'] ++ Nat.toDigits 16 c.toNat ++ ['\x7d']
  else [c]

/-- The text between double quotes, with its special characters escaped. -/
def quote (s : String) : String :=
  String.ofList ('"' :: s.toList.flatMap quoteChar ++ ['"'])

end MathUnicode.Text
