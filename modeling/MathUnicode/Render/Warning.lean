import MathUnicode.Style
import MathUnicode.Text.Hex

/-!
# Warnings

When a character has no form for the style it should be rendered in, it is kept as it is
and a warning records the character, what was missing, and the style.
-/

namespace MathUnicode

/-- What a character was missing. -/
inductive WarningKind
  /-- It has no superscript form. -/
  | missingSuperscript
  /-- It has no subscript form. -/
  | missingSubscript
  /-- None of its variants fits the style. -/
  | missingVariant
  deriving DecidableEq, Repr, Inhabited

namespace WarningKind

/-- The kind in words. -/
def label : WarningKind → String
  | missingSuperscript => "missing superscript"
  | missingSubscript => "missing subscript"
  | missingVariant => "missing variant"

/-- The kind as one hyphenated word. -/
def tag : WarningKind → String
  | missingSuperscript => "missing-superscript"
  | missingSubscript => "missing-subscript"
  | missingVariant => "missing-variant"

/-- What the character lacks. -/
def reason : WarningKind → String
  | missingSuperscript => "no superscript form"
  | missingSubscript => "no subscript form"
  | missingVariant => "no matching variant"

end WarningKind

/-- A character kept unchanged because it has no form for its style. -/
structure Warning where
  /-- What was missing. -/
  kind : WarningKind
  /-- The character kept. -/
  character : Char
  /-- The style it should have been rendered in. -/
  style : Style
  deriving DecidableEq, Repr, Inhabited

namespace Warning

/-- What was missing, for which style. -/
def message (w : Warning) : String :=
  w.kind.reason ++ " for " ++ w.style.display

/-- The full line: kind, character, code point and message. -/
def display (w : Warning) : String :=
  "Warning [" ++ w.kind.label ++ "] '" ++ String.singleton w.character ++ "' (U+" ++
    Text.hex4 w.character.toNat ++ "): " ++ w.message

end Warning

end MathUnicode
