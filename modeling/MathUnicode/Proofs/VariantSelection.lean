import MathUnicode.Tables.Basic

/-!
# Choosing a variant

`Tables.selectVariant?` takes the first variant that fits the style, returns it at once
when it is MATHEMATICAL, and otherwise searches only the fitting variants after it.  This
file states the choice without the early return and without the intermediate list: it is
the first variant that fits and is mathematical, or else the first variant that fits.
Fitting compares exactly the six font axes.

## Strategy

The early return loses nothing: a mathematical first candidate is also the first
mathematical one, and otherwise the search of the rest is the search of the whole list
(`List.find?_cons`).  So selection is one search for a mathematical variant with the
first fitting one as fallback (`selectVariant?_eq_orElse`).  Both searches over the
filtered list then become searches over the variant list itself (`List.find?_filter`,
`List.head?_filter`).
-/

namespace MathUnicode.Tables

/-- A variant fits a style exactly when the six font axes agree. -/
theorem fits_iff (v : Variant) (s : Style) :
    v.fits s = true ↔
      v.bold = s.bold ∧ v.doubleStruck = s.doubleStruck ∧ v.fraktur = s.fraktur ∧
        v.italic = s.italic ∧ v.sansSerif = s.sansSerif ∧ v.script = s.script := by
  simp [Variant.fits, Bool.and_assoc]

/-- Returning a mathematical first candidate at once, and otherwise searching the candidates
after it, is searching all the candidates, with the first as fallback. -/
theorem selectVariant?_eq_orElse (t : Tables) (b : Char) (s : Style) :
    t.selectVariant? b s =
      ((((t.variantsOf b).filter (·.fits s)).find? (·.mathematical)).orElse
        fun _ => ((t.variantsOf b).filter (·.fits s)).head?).map (·.glyph) := by
  unfold Tables.selectVariant?
  cases (t.variantsOf b).filter (·.fits s) with
  | nil => rfl
  | cons first rest =>
      by_cases hm : first.mathematical = true
      · -- the early return: the first candidate is also the first mathematical one
        simp [hm]
      · -- past a first candidate that is not mathematical, the search runs over the rest
        rw [List.find?_cons_of_neg (by simpa using hm)]
        simp only [hm, Bool.false_eq_true, if_false]
        cases rest.find? (·.mathematical) <;> rfl

/-- The chosen variant is one of the character's variants, and fits the style. -/
theorem exists_mem_variantsOf_of_selectVariant? {t : Tables} {x y : Char} {s : Style}
    (h : t.selectVariant? x s = some y) : ∃ v ∈ t.variantsOf x, v.fits s ∧ v.glyph = y := by
  rw [selectVariant?_eq_orElse, Option.map_eq_some_iff] at h
  obtain ⟨v, hv, rfl⟩ := h
  -- both searches run over the fitting variants
  have hfit : v ∈ (t.variantsOf x).filter (·.fits s) := by
    cases hfind : ((t.variantsOf x).filter (·.fits s)).find? (·.mathematical) with
    | some w =>
        rw [hfind, Option.orElse_some, Option.some.injEq] at hv
        exact hv ▸ List.mem_of_find?_eq_some hfind
    | none =>
        rw [hfind, Option.orElse_none] at hv
        exact List.mem_of_mem_head? hv
  rw [List.mem_filter] at hfit
  exact ⟨v, hfit.1, hfit.2, rfl⟩

/-- The chosen glyph is the first fitting mathematical variant's, else the first fitting
variant's. -/
theorem selectVariant?_eq_find? (t : Tables) (b : Char) (s : Style) :
    t.selectVariant? b s =
      match (t.variantsOf b).find? (fun v => v.fits s && v.mathematical) with
      | some v => some v.glyph
      | none => ((t.variantsOf b).find? (fun v => v.fits s)).map Variant.glyph := by
  rw [selectVariant?_eq_orElse, List.find?_filter, List.head?_filter]
  have hp : (fun v : Variant => decide (v.fits s = true ∧ v.mathematical = true)) =
      fun v => v.fits s && v.mathematical := by
    funext v
    simp
  rw [hp]
  cases (t.variantsOf b).find? (fun v => v.fits s && v.mathematical) <;> rfl

/-- Variant selection meets its specification: the first variant that fits the style and
is mathematical, else the first that fits, where fitting compares the six font axes. -/
theorem selectVariant?_first_mathematical (t : Tables) (b : Char) (s : Style) :
    t.selectVariant? b s =
        (match (t.variantsOf b).find? (fun v => v.fits s && v.mathematical) with
        | some v => some v.glyph
        | none => ((t.variantsOf b).find? (fun v => v.fits s)).map Variant.glyph) ∧
      ∀ v : Variant, v.fits s = true ↔
        v.bold = s.bold ∧ v.doubleStruck = s.doubleStruck ∧ v.fraktur = s.fraktur ∧
          v.italic = s.italic ∧ v.sansSerif = s.sansSerif ∧ v.script = s.script :=
  ⟨selectVariant?_eq_find? t b s, fun v => fits_iff v s⟩

end MathUnicode.Tables
