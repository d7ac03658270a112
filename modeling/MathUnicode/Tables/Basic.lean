import Std.Data.HashMap
import MathUnicode.Tables.Variant

/-!
# Character tables

Three tables, all read from the decomposition field of the character database: the
superscript form of a base character, its subscript form, and its styled variants in
the order of the database.

`Tables.selectVariant?` picks the glyph for a style.  It takes the first variant that fits
the style and keeps it if it is named MATHEMATICAL; otherwise it looks among the fitting
variants after it for one that is, and falls back to the first.
-/

namespace MathUnicode

/-- The lookup tables that rendering needs, each keyed by the code point of the base
character. -/
structure Tables where
  /-- Superscript form of a base character. -/
  superscripts : Std.HashMap Nat Char := {}
  /-- Subscript form of a base character. -/
  subscripts : Std.HashMap Nat Char := {}
  /-- Styled variants of a base character, in database order. -/
  variants : Std.HashMap Nat (Array Variant) := {}

/-- Entry counts of the tables. -/
structure Tables.Stats where
  /-- Base characters with a superscript form. -/
  superscripts : Nat
  /-- Base characters with a subscript form. -/
  subscripts : Nat
  /-- Base characters with at least one styled variant. -/
  variantBases : Nat
  /-- Styled variants over all base characters. -/
  variants : Nat
  deriving DecidableEq, Repr

namespace Tables

/-- The superscript form of `c`, if the database has one. -/
def superscript? (t : Tables) (c : Char) : Option Char :=
  t.superscripts[c.toNat]?

/-- The subscript form of `c`, if the database has one. -/
def subscript? (t : Tables) (c : Char) : Option Char :=
  t.subscripts[c.toNat]?

/-- The styled variants of `c`, in database order. -/
def variantsOf (t : Tables) (c : Char) : List Variant :=
  (t.variants.getD c.toNat #[]).toList

/-- The variant of `c` for the style `s`: the first one that fits, returned at once if it is
named MATHEMATICAL; otherwise the first MATHEMATICAL one among the fitting variants after
it, or else the first one after all. -/
def selectVariant? (t : Tables) (c : Char) (s : Style) : Option Char :=
  match (t.variantsOf c).filter (·.fits s) with
  | [] => none
  | first :: rest =>
    if first.mathematical then some first.glyph
    else some ((rest.find? (·.mathematical)).getD first).glyph

/-- Entry counts of the tables. -/
def stats (t : Tables) : Stats where
  superscripts := t.superscripts.size
  subscripts := t.subscripts.size
  variantBases := t.variants.size
  variants := t.variants.fold (fun n _ vs => n + vs.size) 0

end Tables

end MathUnicode
