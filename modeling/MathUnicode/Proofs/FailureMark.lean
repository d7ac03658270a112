import MathUnicode.Proofs.ReaderSound
import MathUnicode.Proofs.RenderSemantics
import MathUnicode.Tables.Build
import MathUnicode.Proofs.VariantSelection

/-!
# Where the failure mark can come from

Hosts that cannot take an error get `failureMark`, the word `ERROR` between two replacement
characters U+FFFD, in place of a failed conversion.  The mark tells failure from success
only if no successful conversion writes it.

A successful conversion writes the characters of the slots of its formula, each in the form
the tables give it (`Markup.Formula.render_eq_slots`).  The character of a slot comes from
the markup alone (`Markup.isSourceChar`): an allowed or an escaped character of a literal, a
typographic mark that substitution writes in place of apostrophes, hyphens and slashes, or
the glyph of a catalogued symbol.  None of these is U+FFFD, and neither is the arrow of
`\vec`.  So U+FFFD reaches the output only as a form or a variant glyph of the tables:
tables that hold no such glyph (`Tables.Avoids`) never write the mark, and with them
`convertOrMark` yields it exactly when the conversion fails.

Tables read from a database may hold it, though: a `<super>` record whose own code point is
U+FFFD makes U+FFFD the superscript form of its base, and a formula then converts to the
mark (`convert_replacement_superscript`).

Main statements: `convert_content_not_mem` and `convertOrMark_eq_failureMark_iff`.
-/

namespace MathUnicode

open Markup

/-! ## Characters the markup writes -/

namespace Markup

/-- Whether the markup can put `c` into the output without the tables: an allowed or an
escaped character, a typographic mark, or the glyph of a catalogued symbol. -/
def isSourceChar (c : Char) : Bool :=
  isAllowed c || isEscapable c || Text.marks.contains c || (Symbols.catalog.map Prod.snd).contains c

theorem isSourceChar_of_isAllowed {c : Char} (h : isAllowed c = true) : isSourceChar c = true := by
  simp [isSourceChar, h]

theorem isSourceChar_of_isEscapable {c : Char} (h : isEscapable c = true) :
    isSourceChar c = true := by
  simp [isSourceChar, h]

theorem isSourceChar_of_lookup? {name : String} {g : Char} (h : Symbols.lookup? name = some g) :
    isSourceChar g = true := by
  obtain ⟨l₁, l₂, hcat, -⟩ := List.lookup_eq_some_iff.mp h
  have hmem : (name, g) ∈ Symbols.catalog := by
    rw [hcat]
    exact List.mem_append_right _ List.mem_cons_self
  simp only [isSourceChar, Bool.or_eq_true, List.contains_iff_mem, List.mem_map]
  exact .inr ⟨_, hmem, rfl⟩

/-- Substituting characters the markup can write gives characters it can write. -/
theorem isSourceChar_of_mem_substituteChars {c : Char} {cs : List Char}
    (hcs : ∀ x ∈ cs, isSourceChar x = true) (h : c ∈ Text.substituteChars cs) :
    isSourceChar c = true := by
  rcases Text.mem_substituteChars h with h | h
  · exact hcs c h
  · simp [isSourceChar, h]

theorem TextUnits.isSourceChar_of_mem {e e' : Nat} {u t : List Char} (h : TextUnits e u t e') :
    ∀ c ∈ t, isSourceChar c = true := by
  induction h with
  | nil => simp
  | plain _ hc ih =>
      intro x hx
      rcases List.mem_append.mp hx with hx | hx
      · exact ih x hx
      · rw [List.mem_singleton.mp hx]
        exact isSourceChar_of_isAllowed hc
  | escape _ hc _ ih =>
      intro x hx
      rcases List.mem_append.mp hx with hx | hx
      · exact ih x hx
      · rw [List.mem_singleton.mp hx]
        exact isSourceChar_of_isEscapable hc

/-- Every character slot of what is read holds a character the markup can write, inside
any commands. -/
theorem Reads.isSourceChar_of_slot {d e e' : Nat} {s r : List Char} {ns : List Node}
    (h : Reads d e s ns r e') :
    ∀ {around : List Command} {x : Char} {inner : List Command},
      Slot.char x inner ∈ Node.slotsList around ns → isSourceChar x = true := by
  induction h with
  | nil => simp [Node.slotsList]
  | text hu _ _ _ ih =>
      intro around x inner hx
      rw [Node.slotsList, List.mem_append] at hx
      rcases hx with hx | hx
      · simp only [Node.slots, String.toList_ofList, List.mem_map, Slot.char.injEq] at hx
        obtain ⟨y, hy, rfl, -⟩ := hx
        exact isSourceChar_of_mem_substituteChars hu.isSourceChar_of_mem hy
      · exact ih hx
  | script _ ha _ ih =>
      intro around x inner hx
      rw [Node.slotsList, List.mem_append] at hx
      rcases hx with hx | hx
      · simp only [Node.slotsList, Node.slots, List.append_nil, List.mem_append, List.mem_map,
          Slot.char.injEq] at hx
        rcases hx with ⟨y, hy, rfl, -⟩ | hx
        · refine isSourceChar_of_mem_substituteChars ?_ hy
          simpa using isSourceChar_of_isAllowed ha
        · split at hx <;> simp at hx
      · exact ih hx
  | symbol _ _ _ _ ih =>
      intro around x inner hx
      rw [Node.slotsList, List.mem_append] at hx
      rcases hx with hx | hx
      · unfold Node.slots at hx
        -- a symbol the catalog lacks has no character slot
        split at hx
        · rename_i g hg
          rw [List.mem_singleton, Slot.char.injEq] at hx
          exact hx.1 ▸ isSourceChar_of_lookup? hg
        · simp at hx
      · exact ih hx
  | group _ _ _ _ ihg ih =>
      intro around x inner hx
      rw [Node.slotsList, List.mem_append, Node.slots_apply, List.mem_append] at hx
      rcases hx with (hx | hx) | hx
      · exact ihg hx
      · split at hx <;> simp at hx
      · exact ih hx

theorem Formula.isSourceChar_of_slot {text : String} {f : Formula} (h : Formula.parse text = .ok f)
    {x : Char} {around : List Command} (hx : Slot.char x around ∈ f.slots) :
    isSourceChar x = true :=
  (Formula.reads_of_parse h).isSourceChar_of_slot hx

end Markup

/-! ## Glyphs the tables write -/

/-- Tables avoid `g` when `g` is no superscript form, no subscript form and no variant
glyph of theirs. -/
structure Tables.Avoids (t : Tables) (g : Char) : Prop where
  superscript : ∀ x, t.superscript? x ≠ some g
  subscript : ∀ x, t.subscript? x ≠ some g
  variant : ∀ x, ∀ v ∈ t.variantsOf x, v.glyph ≠ g

namespace Tables

theorem form?_ne {t : Tables} {g : Char} (ht : t.Avoids g) (e : Style) (x : Char) :
    t.form? e x ≠ some g := by
  unfold form?
  split_ifs
  · exact ht.superscript x
  · exact ht.subscript x
  · intro h
    obtain ⟨v, hv, -, hg⟩ := exists_mem_variantsOf_of_selectVariant? h
    exact ht.variant x v hv hg

/-- Styling a character other than `g` with tables that avoid `g` does not write `g`. -/
theorem shown_ne {t : Tables} {g : Char} (ht : t.Avoids g) (e : Style) {x : Char} (hx : x ≠ g) :
    t.shown e x ≠ g := by
  unfold shown
  split_ifs
  · exact hx
  · cases hform : t.form? e x with
    | none => exact hx
    | some y =>
        rw [Option.getD_some]
        rintro rfl
        exact form?_ne ht e x hform

end Tables

/-! ## Conversions -/

/-- A conversion that succeeds writes the text of the rendering of the formula read. -/
theorem convert_eq_ok {t : Tables} {s : Style} {text : String} {c : Conversion}
    (h : convert t s text = .ok c) :
    ∃ f, Formula.parse text = .ok f ∧ (f.render t s).stop = none ∧
      c.content = (f.render t s).content := by
  unfold convert attempt at h
  cases hparse : Formula.parse text with
  | error err => simp [hparse, Except.map] at h
  | ok f =>
      -- only a rendering that meets no unknown symbol succeeds
      cases hstop : (f.render t s).stop with
      | some name => simp [hparse, Except.map, hstop] at h
      | none =>
          simp only [hparse, Except.map, hstop, Except.ok.injEq] at h
          exact ⟨f, rfl, hstop, by rw [← h]⟩

/-- A conversion with tables that avoid a character which the markup cannot write, and which
is not the arrow of `\vec`, never writes that character. -/
theorem convert_content_not_mem {t : Tables} {g : Char} (ht : t.Avoids g)
    (hg : isSourceChar g = false) (harrow : g ≠ vectorArrow) {s : Style} {text : String}
    {c : Conversion} (h : convert t s text = .ok c) : g ∉ c.content.toList := by
  obtain ⟨f, hparse, -, hc⟩ := convert_eq_ok h
  rw [hc, Formula.render_eq_slots]
  simp only [String.toList_ofList, List.mem_filterMap, not_exists, not_and]
  intro sl hsl hout
  -- every slot writes its character styled, or the arrow
  cases sl with
  | char x around =>
      have hx : x ≠ g := by
        rintro rfl
        rw [Formula.isSourceChar_of_slot hparse (List.takeWhile_subset _ hsl)] at hg
        cases hg
      simp only [Slot.output, Option.some.injEq] at hout
      exact Tables.shown_ne ht _ hx hout
  | arrow =>
      simp only [Slot.output, Option.some.injEq] at hout
      exact harrow hout.symm
  | unknown name => cases hout

/-- With tables that avoid U+FFFD, no successful conversion writes the failure mark. -/
theorem convert_content_ne_failureMark {t : Tables} (ht : t.Avoids '\uFFFD') {s : Style}
    {text : String} {c : Conversion} (h : convert t s text = .ok c) : c.content ≠ failureMark := by
  intro heq
  have hmem : '\uFFFD' ∈ c.content.toList := by
    rw [heq]
    decide +kernel
  exact convert_content_not_mem ht (by decide +kernel) (by decide) h hmem

/-- With tables that avoid U+FFFD, the host-facing conversion yields the failure mark exactly
when the conversion fails. -/
theorem convertOrMark_eq_failureMark_iff {t : Tables} (ht : t.Avoids '\uFFFD') (s : Style)
    (text : String) : convertOrMark t s text = failureMark ↔ ∃ e, convert t s text = .error e := by
  unfold convertOrMark
  cases h : convert t s text with
  | ok c => simpa using convert_content_ne_failureMark ht h
  | error e => simp

/-- Tables with only the superscript form of `a` avoid U+FFFD, so `^a` yields the failure mark
exactly when it fails to convert. -/
theorem convertOrMark_eq_failureMark_iff_superscript_a :
    Tables.Avoids { superscripts := (∅ : Std.HashMap Nat Char).insert 'a'.toNat 'ᵃ' } '\uFFFD' ∧
      (convertOrMark { superscripts := (∅ : Std.HashMap Nat Char).insert 'a'.toNat 'ᵃ' } .plain
          "^a" = failureMark ↔
        ∃ e, convert { superscripts := (∅ : Std.HashMap Nat Char).insert 'a'.toNat 'ᵃ' } .plain
          "^a" = .error e) := by
  have ht : Tables.Avoids { superscripts := (∅ : Std.HashMap Nat Char).insert 'a'.toNat 'ᵃ' }
      '\uFFFD' := by
    refine ⟨fun x => ?_, fun x => by simp [Tables.subscript?], fun x => by simp [Tables.variantsOf]⟩
    -- the one superscript form is not U+FFFD
    simp only [Tables.superscript?, Std.HashMap.getElem?_insert]
    split <;> simp
  exact ⟨ht, convertOrMark_eq_failureMark_iff ht .plain "^a"⟩

/-! ## Tables that hold U+FFFD -/

/-- Tables that give U+FFFD as the superscript form of `x` write the failure mark for a
formula that converts. -/
theorem convert_superscript_replacement {t : Tables} (h : t.superscript? 'x' = some '\uFFFD') :
    convert t .plain "^xERROR^x" = .ok ⟨failureMark, []⟩ := by
  have hparse : Formula.parse "^xERROR^x" =
      .ok ⟨[.apply .superscript [.literal "x"], .literal "ERROR",
        .apply .superscript [.literal "x"]]⟩ := by
    rfl
  have hslots : Formula.slots
      ⟨[.apply .superscript [.literal "x"], .literal "ERROR", .apply .superscript [.literal "x"]]⟩ =
      [.char 'x' [.superscript], .char 'E' [], .char 'R' [], .char 'R' [], .char 'O' [],
        .char 'R' [], .char 'x' [.superscript]] := by
    rfl
  -- the two raised characters take the form the tables give, the plain ones are kept
  have hraised : Tables.shown t (Style.plain.within [.superscript]) 'x' = '\uFFFD' ∧
      Tables.missed t (Style.plain.within [.superscript]) 'x' = none := by
    have hkeep : (Style.plain.within [.superscript]).keeps 'x' = false := by decide
    have hup : (Style.plain.within [.superscript]).superscript = true := by decide
    simp [Tables.shown, Tables.missed, Tables.form?, hkeep, hup, h]
  have hplain : ∀ y, Tables.shown t Style.plain y = y ∧ Tables.missed t Style.plain y = none := by
    intro y
    have hkeep : Style.plain.keeps y = true := by
      have hp : Style.plain.isPlain = true := by decide
      simp [Style.keeps, hp]
    simp [Tables.shown, Tables.missed, hkeep]
  unfold convert attempt
  rw [hparse]
  simp only [Except.map, Formula.render_eq_slots, hslots, List.findSome?_cons, List.takeWhile_cons,
    List.filterMap_cons, List.filterMap_nil, List.findSome?_nil, List.takeWhile_nil, Slot.unknown?,
    Slot.isKnown, Slot.output, Slot.warning, hraised, Style.within_nil, hplain, ↓reduceIte]
  decide +kernel

/-- A `<super>` record whose own code point is U+FFFD makes U+FFFD the superscript form of
`x`, and then a formula that converts writes the failure mark. -/
theorem convert_replacement_superscript :
    ∃ T, Tables.ofString "FFFD;X;Lm;0;L;<super> 0078;;;;N;;;;;" = .ok T ∧
      convert T .plain "^xERROR^x" = .ok ⟨failureMark, []⟩ := by
  have h : Tables.ofString "FFFD;X;Lm;0;L;<super> 0078;;;;N;;;;;" =
      .ok (Tables.finish (({} : Tables).addMapping .superscript 'x' '\uFFFD' "X")) := by
    rfl
  refine ⟨_, h, convert_superscript_replacement ?_⟩
  simp only [Tables.finish, Tables.addMapping, Tables.superscript?, Tables.greekSuperscripts,
    List.foldl_cons, List.foldl_nil, Std.HashMap.getElem?_insert]
  simp

end MathUnicode
