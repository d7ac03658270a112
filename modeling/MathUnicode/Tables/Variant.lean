import MathUnicode.Style

/-!
# Styled variants of a character

The character database lists, for many letters and digits, precomposed glyphs in other
fonts: `MATHEMATICAL BOLD CAPITAL A`, `BLACK-LETTER CAPITAL H`, and so on.  A glyph's
styling is read off the words of its name, and a glyph fits a style when the six font
axes agree; the two script positions play no part in the choice of a font.
-/

namespace MathUnicode

/-- A precomposed glyph for some base character, with the styling its name announces. -/
structure Variant where
  /-- The precomposed glyph. -/
  glyph : Char
  /-- The name says BOLD. -/
  bold : Bool := false
  /-- The name says DOUBLE-STRUCK. -/
  doubleStruck : Bool := false
  /-- The name says FRAKTUR or BLACK-LETTER. -/
  fraktur : Bool := false
  /-- The name says ITALIC. -/
  italic : Bool := false
  /-- The name says MATHEMATICAL; such glyphs are preferred among several that fit. -/
  mathematical : Bool := false
  /-- The name says MONOSPACE. -/
  monospace : Bool := false
  /-- The name says SANS-SERIF. -/
  sansSerif : Bool := false
  /-- The name says SCRIPT. -/
  script : Bool := false
  deriving DecidableEq, Repr, Inhabited

namespace Variant

/-- Records what one word of a character name says about the glyph. -/
def readWord (v : Variant) : String → Variant
  | "BOLD" => { v with bold := true }
  | "DOUBLE-STRUCK" => { v with doubleStruck := true }
  | "FRAKTUR" | "BLACK-LETTER" => { v with fraktur := true }
  | "ITALIC" => { v with italic := true }
  | "MATHEMATICAL" => { v with mathematical := true }
  | "MONOSPACE" => { v with monospace := true }
  | "SANS-SERIF" => { v with sansSerif := true }
  | "SCRIPT" => { v with script := true }
  | _ => v

/-- The styling of `glyph` read from its character name, split at single spaces. -/
def ofName (glyph : Char) (name : String) : Variant :=
  (name.splitOn " ").foldl readWord { glyph }

/-- Whether the glyph has exactly the font axes that the style asks for. -/
def fits (v : Variant) (s : Style) : Bool :=
  v.bold == s.bold && v.doubleStruck == s.doubleStruck && v.fraktur == s.fraktur &&
    v.italic == s.italic && v.sansSerif == s.sansSerif && v.script == s.script

end Variant

end MathUnicode
