/-!
# Errors of the markup reader

Reading stops at the first fault.  Each fault records where it was found, as a byte
offset into the UTF-8 text, and `ParseError.message` gives its wording.
-/

namespace MathUnicode.Markup

/-- The deepest nesting of braced groups that the reader accepts. -/
def maxDepth : Nat := 128

/-- Why a text is not a formula. -/
inductive ParseError
  /-- A group, or an escaped brace `\{`, opened here is never closed. -/
  | unterminatedGroup (position : Nat)
  /-- The operator here (`^`, `_` or a backslash) has no operand. -/
  | danglingOperator (operator : Char) (position : Nat)
  /-- This character may not stand here. -/
  | unexpectedCharacter (found : Char) (position : Nat)
  /-- The group opened here lies deeper than `maxDepth` allows. -/
  | nestingTooDeep (maxDepth : Nat) (position : Nat)
  /-- A command with this name is applied to a group, but no command has that name. -/
  | unsupportedCommand (name : String)
  deriving DecidableEq, Repr, Inhabited

namespace ParseError

/-- The wording of the fault. -/
def message : ParseError → String
  | unterminatedGroup p => s!"Unterminated group opened at byte {p}"
  | danglingOperator op p => s!"Dangling '{op}' at byte {p}: expected an operand"
  | unexpectedCharacter c p => s!"Unexpected character '{c}' at byte {p}"
  | nestingTooDeep d p => s!"Group at byte {p} exceeds the maximum nesting depth ({d})"
  | unsupportedCommand name => "Unsupported macro '\\" ++ name ++ "'"

end ParseError

end MathUnicode.Markup
