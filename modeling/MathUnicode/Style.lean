import MathUnicode.Markup.Command

/-!
# Styles

A style says how the characters being rendered should look.  It has eight independent
boolean axes: six font axes (bold, double-struck, fraktur, italic, sans-serif, script)
and the two script positions (subscript, superscript).

Every command derives the style of its operands from the style around it by setting some
axes and then clearing others (`Style.apply`).  The font commands clear the axes that
cannot be combined with the one they set; the script commands only set their position.

Main statements: `get_apply` (the value of an axis after a command) and `apply_vector`.
-/

namespace MathUnicode

open Markup

/-- One axis of a style. -/
inductive Axis
  | bold
  | doubleStruck
  | fraktur
  | italic
  | sansSerif
  | script
  | subscript
  | superscript
  deriving DecidableEq, Repr, Inhabited

namespace Axis

/-- All axes, in the order in which they are listed. -/
def all : List Axis :=
  [bold, doubleStruck, fraktur, italic, sansSerif, script, subscript, superscript]

/-- The name of the axis in the description of a style. -/
def name : Axis → String
  | bold => "bold"
  | doubleStruck => "double-struck"
  | fraktur => "fraktur"
  | italic => "italic"
  | sansSerif => "sans-serif"
  | script => "script"
  | subscript => "subscript"
  | superscript => "superscript"

end Axis

/-- The styling requested for the characters being rendered. -/
structure Style where
  /-- Bold letters. -/
  bold : Bool := false
  /-- Double-struck letters. -/
  doubleStruck : Bool := false
  /-- Black-letter letters. -/
  fraktur : Bool := false
  /-- Italic letters. -/
  italic : Bool := false
  /-- Sans-serif letters. -/
  sansSerif : Bool := false
  /-- Script letters. -/
  script : Bool := false
  /-- Lowered characters. -/
  subscript : Bool := false
  /-- Raised characters. -/
  superscript : Bool := false
  deriving DecidableEq, Repr, Inhabited

namespace Style

/-- No axis set: text passes through unchanged. -/
def plain : Style := {}

/-- Math mode: letters are italic. -/
def math : Style := { italic := true }

/-- The value of one axis. -/
def get (s : Style) : Axis → Bool
  | .bold => s.bold
  | .doubleStruck => s.doubleStruck
  | .fraktur => s.fraktur
  | .italic => s.italic
  | .sansSerif => s.sansSerif
  | .script => s.script
  | .subscript => s.subscript
  | .superscript => s.superscript

/-- The style with one axis changed. -/
def set (s : Style) (v : Bool) : Axis → Style
  | .bold => { s with bold := v }
  | .doubleStruck => { s with doubleStruck := v }
  | .fraktur => { s with fraktur := v }
  | .italic => { s with italic := v }
  | .sansSerif => { s with sansSerif := v }
  | .script => { s with script := v }
  | .subscript => { s with subscript := v }
  | .superscript => { s with superscript := v }

/-- Whether no axis is set. -/
def isPlain (s : Style) : Bool :=
  Axis.all.all fun a => !s.get a

/-- The set axes joined by `+`, or `plain` when there are none. -/
def display (s : Style) : String :=
  if s.isPlain then "plain" else "+".intercalate ((Axis.all.filter s.get).map Axis.name)

/-- The axes that a command sets for its operands. -/
def sets : Command → List Axis
  | .superscript => [.superscript]
  | .subscript => [.subscript]
  | .vector => []
  | .doubleStruck => [.doubleStruck]
  | .calligraphic => [.script]
  | .fraktur => [.fraktur]
  | .bold => [.bold]
  | .italic => [.italic]
  | .boldItalic => [.bold, .italic]
  | .sansSerif => [.sansSerif]
  | .roman => []

/-- The axes that a command clears for its operands, after setting its own. -/
def clears : Command → List Axis
  | .superscript | .subscript | .vector => []
  | .doubleStruck => [.italic, .bold]
  | .calligraphic => [.italic]
  | .fraktur => [.italic]
  | .bold => [.doubleStruck]
  | .italic => [.fraktur, .script, .doubleStruck]
  | .boldItalic => [.doubleStruck, .fraktur, .script]
  | .sansSerif => [.doubleStruck, .fraktur, .script]
  | .roman => [.bold, .doubleStruck, .fraktur, .italic, .sansSerif, .script]

/-- The style of the operands of `k` inside `s`: first the axes of `sets k` are set, then
those of `clears k` are cleared. -/
def apply (s : Style) (k : Command) : Style :=
  (clears k).foldl (fun t a => t.set false a) ((sets k).foldl (fun t a => t.set true a) s)

theorem get_set (s : Style) (v : Bool) (a b : Axis) :
    (s.set v a).get b = if a = b then v else s.get b := by
  cases a <;> cases b <;> rfl

theorem get_foldl_set (s : Style) (v : Bool) (as : List Axis) (b : Axis) :
    (as.foldl (fun t a => t.set v a) s).get b = if b ∈ as then v else s.get b := by
  induction as generalizing s with
  | nil => simp
  | cons a as ih =>
    simp only [List.foldl_cons, ih, get_set, List.mem_cons]
    by_cases h : b ∈ as
    · simp [h]
    · by_cases hab : a = b
      · subst hab; simp
      · have : b ≠ a := fun e => hab e.symm
        simp [h, hab, this]

/-- An axis cleared by the command is off, one it sets is on, and any other keeps its value. -/
theorem get_apply (s : Style) (k : Command) (b : Axis) :
    (s.apply k).get b =
      if b ∈ clears k then false else if b ∈ sets k then true else s.get b := by
  simp [apply, get_foldl_set]

theorem apply_vector (s : Style) : s.apply .vector = s := rfl

end Style

end MathUnicode
