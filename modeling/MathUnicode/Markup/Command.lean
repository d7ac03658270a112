/-!
# Commands of the markup

A command takes a group of operands and changes how they are rendered: the two script
operators `^` and `_`, the vector arrow `\vec`, and the seven font commands.  Each
command has one canonical name; the font commands also answer to a few aliases
(`\mathbf` is `\b`, `\mathit` is `\i`, `\ib` is `\bi`).

Main statements: `ofName?_name` (a canonical font name reads back as its command) and
`ofOperator?_name` (so does a script operator).
-/

namespace MathUnicode.Markup

/-- A command that wraps a group of operands. -/
inductive Command
  /-- `^`: raise the operands. -/
  | superscript
  /-- `_`: lower the operands. -/
  | subscript
  /-- `\vec`: draw an arrow above the operands. -/
  | vector
  /-- `\mathbb`: double-struck letters. -/
  | doubleStruck
  /-- `\mathcal`: script letters. -/
  | calligraphic
  /-- `\mathfrak`: black-letter letters. -/
  | fraktur
  /-- `\b` or `\mathbf`: bold. -/
  | bold
  /-- `\i` or `\mathit`: italic. -/
  | italic
  /-- `\bi` or `\ib`: bold italic. -/
  | boldItalic
  /-- `\mathsf`: sans-serif. -/
  | sansSerif
  /-- `\mathrm`: upright roman, clearing every font axis. -/
  | roman
  deriving DecidableEq, Repr, Inhabited

namespace Command

/-- All commands, scripts first. -/
def all : List Command :=
  [superscript, subscript, vector, doubleStruck, calligraphic, fraktur, bold, italic,
    boldItalic, sansSerif, roman]

/-- The command written `\name{...}`, if `name` is one; the scripts have no such name. -/
def ofName? : String → Option Command
  | "vec" => some vector
  | "mathbb" => some doubleStruck
  | "mathcal" => some calligraphic
  | "mathfrak" => some fraktur
  | "b" | "mathbf" => some bold
  | "i" | "mathit" => some italic
  | "bi" | "ib" => some boldItalic
  | "mathsf" => some sansSerif
  | "mathrm" => some roman
  | _ => none

/-- The script command written with the operator `c`. -/
def ofOperator? : Char → Option Command
  | '^' => some superscript
  | '_' => some subscript
  | _ => none

/-- The canonical name: the operator for a script, the shortest alias otherwise. -/
def name : Command → String
  | superscript => "^"
  | subscript => "_"
  | vector => "vec"
  | doubleStruck => "mathbb"
  | calligraphic => "mathcal"
  | fraktur => "mathfrak"
  | bold => "b"
  | italic => "i"
  | boldItalic => "bi"
  | sansSerif => "mathsf"
  | roman => "mathrm"

/-- Whether the command is one of the two script operators. -/
def isScript : Command → Bool
  | superscript | subscript => true
  | _ => false

/-- How the command is written in markup: the bare operator, or a backslash and its name. -/
def display (k : Command) : String :=
  if k.isScript then k.name else "\\" ++ k.name

/-- The name of the command in the outline of a formula. -/
def outlineName : Command → String
  | superscript => "Superscript"
  | subscript => "Subscript"
  | vector => "Vector"
  | doubleStruck => "DoubleStruck"
  | calligraphic => "Calligraphic"
  | fraktur => "Fraktur"
  | bold => "Bold"
  | italic => "Italic"
  | boldItalic => "BoldItalic"
  | sansSerif => "SansSerif"
  | roman => "Roman"

theorem ofName?_name {k : Command} (h : k.isScript = false) : ofName? k.name = some k := by
  cases k <;> simp_all [isScript, name, ofName?]

theorem ofOperator?_eq_some_iff {c : Char} {k : Command} :
    ofOperator? c = some k ↔ k.isScript = true ∧ k.name = String.singleton c := by
  constructor
  · intro h
    unfold ofOperator? at h
    split at h <;> cases h <;> exact ⟨rfl, rfl⟩
  · rintro ⟨hs, hn⟩
    cases k <;> simp [isScript, name] at hs hn
    · have : c = '^' := by simpa using (String.singleton_inj.mp hn.symm)
      simp [this, ofOperator?]
    · have : c = '_' := by simpa using (String.singleton_inj.mp hn.symm)
      simp [this, ofOperator?]

end Command

end MathUnicode.Markup
