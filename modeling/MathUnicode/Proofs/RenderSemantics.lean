import Mathlib.Data.List.TakeWhile
import MathUnicode.Proofs.RenderRun

/-!
# What a rendering writes

The renderer walks a formula once and threads the style down through its commands.  This
module describes the output without that walk.  A formula has a list of *slots*, in
document order: one for each character of its literal text (after the typographic
substitutions), one for each symbol, and one for the arrow after the operands of each
`\vec`.  The slot of a character records the commands around it, outermost first, and the
style it is rendered in is the starting style folded through all of them but `\vec`
(`Style.within`).

Each character is then rendered on its own (`Tables.shown`, `Tables.missed`).  White space,
and anything in the plain style, is kept.  Otherwise a raised character takes its
superscript form, else a lowered one its subscript form, else its variant for the style;
a character without that form is kept, with one warning.

Main statement: `Converter.render_eq_of_ok`.  A rendering that succeeds writes the
characters of the slots in order, and appends the warnings of the slots in the same
order.

## Strategy

`Node.pieces_eq_slots`, by structural recursion on the nodes: the pieces of a node
rendered in the style `c.within around` are its slots, each rendered on its own.  The one
real step is the command case, where threading `Style.apply` one level down is folding
one more command (`Style.within_append`), and `\vec` folds none (`Style.apply_vector`).
-/

namespace MathUnicode

open Markup

/-! ## One character -/

/-- The form the tables give `x` in the style `e`: the superscript form if `e` raises, else
the subscript form if `e` lowers, else the variant for `e`. -/
def Tables.form? (t : Tables) (e : Style) (x : Char) : Option Char :=
  if e.superscript then t.superscript? x
  else if e.subscript then t.subscript? x
  else t.selectVariant? x e

/-- What a character lacks when the tables have no form for it in the style `e`. -/
def Style.missing (e : Style) : WarningKind :=
  if e.superscript then .missingSuperscript
  else if e.subscript then .missingSubscript
  else .missingVariant

/-- Whether `x` is written as it is in the style `e`: white space is, and so is every
character in the plain style. -/
def Style.keeps (e : Style) (x : Char) : Bool :=
  Unicode.isWhiteSpace x || e.isPlain

/-- The character written for `x` in the style `e`. -/
def Tables.shown (t : Tables) (e : Style) (x : Char) : Char :=
  if e.keeps x then x else (t.form? e x).getD x

/-- The warning raised for `x` in the style `e`: one exactly when `x` is to be styled and
the tables have no form for it. -/
def Tables.missed (t : Tables) (e : Style) (x : Char) : Option Warning :=
  if e.keeps x || (t.form? e x).isSome then none else some ⟨e.missing, x, e⟩

/-- Styling a character writes `Tables.shown` and raises `Tables.missed`. -/
theorem Tables.styleChar_eq (t : Tables) (e : Style) (x : Char) :
    t.styleChar e x = .glyph (t.shown e x) (t.missed e x) := by
  unfold Tables.styleChar Tables.shown Tables.missed Style.keeps
  by_cases hkeep : (Unicode.isWhiteSpace x || e.isPlain) = true
  · simp [hkeep]
  · -- the three lookups share one shape: a found form is written, a missing one warns
    simp only [hkeep, Bool.false_eq_true, if_false, Bool.false_or]
    by_cases hsup : e.superscript = true
    · simp only [hsup, if_true, Tables.form?, Style.missing]
      cases t.superscript? x <;> rfl
    · by_cases hsub : e.subscript = true
      · simp only [hsup, hsub, if_true, if_false, Bool.false_eq_true, Tables.form?, Style.missing]
        cases t.subscript? x <;> rfl
      · simp only [hsup, hsub, if_false, Bool.false_eq_true, Tables.form?, Style.missing]
        cases t.selectVariant? x e <;> rfl

/-! ## Slots -/

/-- A place in the output of a formula. -/
inductive Slot
  /-- A character, with the commands around it, outermost first. -/
  | char (x : Char) (around : List Command)
  /-- The arrow after the operands of a `\vec`. -/
  | arrow
  /-- A symbol that the catalog does not have. -/
  | unknown (name : String)
  deriving DecidableEq, Repr

namespace Markup

mutual

/-- The slots of a node inside the commands `around`, in document order. -/
def Node.slots (around : List Command) : Node → List Slot
  | .literal text => (Text.substituteChars text.toList).map fun x => .char x around
  | .symbol name =>
    match Symbols.lookup? name with
    | some g => [.char g around]
    | none => [.unknown name]
  | .apply k ns => Node.slotsList (around ++ [k]) ns ++ if k = .vector then [.arrow] else []

/-- The slots of a sequence of nodes inside the commands `around`, in document order. -/
def Node.slotsList (around : List Command) : List Node → List Slot
  | [] => []
  | n :: ns => Node.slots around n ++ Node.slotsList around ns

end

/-- The slots of a formula, in document order. -/
def Formula.slots (f : Formula) : List Slot :=
  Node.slotsList [] f.nodes

end Markup

/-- The style inside the commands `around`, outermost first, when rendering starts in the
style `c`: `c` folded through every command but `\vec`. -/
def Style.within (c : Style) (around : List Command) : Style :=
  (around.filter (· != .vector)).foldl Style.apply c

@[simp] theorem Style.within_nil (c : Style) : c.within [] = c := rfl

/-- One more command around a character changes its style by that command. -/
theorem Style.within_append (c : Style) (around : List Command) (k : Command) :
    c.within (around ++ [k]) = (c.within around).apply k := by
  by_cases hk : k = .vector
  · subst hk
    simp [within, List.filter_append, Style.apply_vector]
  · simp [within, List.filter_append, hk]

namespace Slot

/-- The piece a slot renders to from the style `c`. -/
def piece (t : Tables) (c : Style) : Slot → Piece
  | char x around => t.styleChar (c.within around) x
  | arrow => .glyph vectorArrow none
  | unknown name => .unknown name

/-- The character a slot writes when rendering starts in the style `c`; an unknown symbol
writes none. -/
def output (t : Tables) (c : Style) : Slot → Option Char
  | char x around => some (t.shown (c.within around) x)
  | arrow => some vectorArrow
  | unknown _ => none

/-- The warning a slot raises when rendering starts in the style `c`. -/
def warning (t : Tables) (c : Style) : Slot → Option Warning
  | char x around => t.missed (c.within around) x
  | arrow | unknown _ => none

/-- The name of the unknown symbol a slot stands for. -/
def unknown? : Slot → Option String
  | char .. | arrow => none
  | unknown name => some name

/-- Whether a slot renders: it is no unknown symbol. -/
def isKnown : Slot → Bool
  | char .. | arrow => true
  | unknown _ => false

theorem output?_piece (t : Tables) (c : Style) (sl : Slot) :
    (sl.piece t c).output? = sl.output t c := by
  cases sl <;> simp [piece, output, Piece.output?, Tables.styleChar_eq]

theorem warning?_piece (t : Tables) (c : Style) (sl : Slot) :
    (sl.piece t c).warning? = sl.warning t c := by
  cases sl <;> simp [piece, warning, Piece.warning?, Tables.styleChar_eq]

theorem unknown?_piece (t : Tables) (c : Style) (sl : Slot) :
    (sl.piece t c).unknown? = sl.unknown? := by
  cases sl <;> simp [piece, unknown?, Piece.unknown?, Tables.styleChar_eq]

theorem unknown?_piece_isNone (t : Tables) (c : Style) (sl : Slot) :
    (sl.piece t c).unknown?.isNone = sl.isKnown := by
  cases sl <;>
    simp only [unknown?_piece, unknown?, isKnown, Option.isNone_none, Option.isNone_some]

end Slot

/-! ## The pieces of a formula are its slots -/

namespace Markup

theorem Node.slots_apply (around : List Command) (k : Command) (ns : List Node) :
    Node.slots around (.apply k ns) =
      Node.slotsList (around ++ [k]) ns ++ if k = .vector then [.arrow] else [] :=
  rfl

mutual

/-- The pieces of a node, rendered in the style inside the commands `around`, are its
slots, each rendered on its own. -/
theorem Node.pieces_eq_slots (t : Tables) (c : Style) :
    ∀ (around : List Command) (n : Node),
      Node.pieces t (c.within around) n = (n.slots around).map (Slot.piece t c)
  | around, .literal text => by
      simp [Node.pieces, Node.slots, Slot.piece]
  | around, .symbol name => by
      unfold Node.pieces Node.slots
      cases Symbols.lookup? name <;> rfl
  | around, .apply k ns => by
      -- the operands are rendered in the style of one more command
      have hinner := Node.piecesList_eq_slotsList t c (around ++ [k]) ns
      rw [Style.within_append] at hinner
      rw [Node.slots_apply]
      by_cases hk : k = .vector
      · subst hk
        rw [Style.apply_vector] at hinner
        rw [Node.pieces_apply_vector, hinner, if_pos rfl, List.map_append]
        rfl
      · rw [Node.pieces_apply_of_ne t _ ns hk, hinner, if_neg hk, List.append_nil]

/-- The pieces of a sequence of nodes are their slots, each rendered on its own. -/
theorem Node.piecesList_eq_slotsList (t : Tables) (c : Style) :
    ∀ (around : List Command) (ns : List Node),
      Node.piecesList t (c.within around) ns = (Node.slotsList around ns).map (Slot.piece t c)
  | _, [] => rfl
  | around, n :: ns => by
      rw [Node.piecesList, Node.slotsList, List.map_append, Node.pieces_eq_slots t c around n,
        Node.piecesList_eq_slotsList t c around ns]

end

theorem Formula.render_eq_ofPieces_slots (t : Tables) (c : Style) (f : Formula) :
    f.render t c = Rendering.ofPieces (f.slots.map (Slot.piece t c)) := by
  rw [Formula.render_eq_ofPieces, Formula.slots, ← Node.piecesList_eq_slotsList t c [] f.nodes,
    Style.within_nil]

end Markup

/-! ## Reading the slots -/

/-- A rendering stops exactly at its first unknown slot; its text and warnings are those of
the slots before it. -/
theorem Rendering.ofPieces_slots (t : Tables) (c : Style) (sls : List Slot) :
    Rendering.ofPieces (sls.map (Slot.piece t c)) =
      { content := String.ofList ((sls.takeWhile Slot.isKnown).filterMap (Slot.output t c))
        warnings := (sls.takeWhile Slot.isKnown).filterMap (Slot.warning t c)
        stop := sls.findSome? Slot.unknown? } := by
  have hknown : (fun p : Piece => p.unknown?.isNone) ∘ Slot.piece t c = Slot.isKnown :=
    funext (Slot.unknown?_piece_isNone t c)
  have houtput : Piece.output? ∘ Slot.piece t c = Slot.output t c :=
    funext (Slot.output?_piece t c)
  have hwarning : Piece.warning? ∘ Slot.piece t c = Slot.warning t c :=
    funext (Slot.warning?_piece t c)
  have hunknown : Piece.unknown? ∘ Slot.piece t c = Slot.unknown? :=
    funext (Slot.unknown?_piece t c)
  simp only [Rendering.ofPieces, List.takeWhile_map, hknown, List.filterMap_map, houtput,
    hwarning, List.findSome?_map, hunknown]

/-- A rendering reads the slots of the formula up to the first unknown one. -/
theorem Markup.Formula.render_eq_slots (t : Tables) (c : Style) (f : Formula) :
    f.render t c =
      { content := String.ofList ((f.slots.takeWhile Slot.isKnown).filterMap (Slot.output t c))
        warnings := (f.slots.takeWhile Slot.isKnown).filterMap (Slot.warning t c)
        stop := f.slots.findSome? Slot.unknown? } := by
  rw [Formula.render_eq_ofPieces_slots, Rendering.ofPieces_slots]

/-- A rendering that stops at no symbol has every slot known. -/
theorem Slot.takeWhile_isKnown_of_findSome?_eq_none {sls : List Slot}
    (h : sls.findSome? Slot.unknown? = none) : sls.takeWhile Slot.isKnown = sls := by
  rw [List.takeWhile_eq_self_iff]
  intro sl hsl
  have hnone := List.findSome?_eq_none_iff.mp h sl hsl
  cases sl with
  | char x around => rfl
  | arrow => rfl
  | unknown name => cases hnone

/-! ## Main statement -/

/-- A rendering that succeeds writes, for each slot of the formula in document order, the
character of the slot: each character of its literal text and the glyph of each symbol,
styled in the style of the commands around it, and the arrow after the operands of each
`\vec`.  It appends to the pending warnings those of the slots, in the same order. -/
theorem Converter.render_eq_of_ok {conv : Converter} {f : Formula} {c : Style} {out : String}
    (h : (conv.render f c).1 = .ok out) :
    out = String.ofList (f.slots.filterMap (Slot.output conv.tables c)) ∧
      (conv.render f c).2.pending =
        conv.pending ++ f.slots.filterMap (Slot.warning conv.tables c) := by
  have hr := Formula.render_eq_slots conv.tables c f
  rw [Converter.render_eq] at h ⊢
  simp only [Rendering.result, hr] at h ⊢
  -- only a rendering that meets no unknown symbol succeeds
  split at h
  · cases h
  · rename_i hstop
    rw [Slot.takeWhile_isKnown_of_findSome?_eq_none hstop] at h ⊢
    cases h
    exact ⟨rfl, rfl⟩

/-- Tables with only the superscript form of `a`: from the math style, `^{ab}` writes that
form for `a` and keeps `b`, with one warning for it. -/
theorem render_superscript_of_ok :
    (({ tables := { superscripts := (∅ : Std.HashMap Nat Char).insert 'a'.toNat 'ᵃ' } } :
        Converter).render ⟨[.apply .superscript [.literal "ab"]]⟩ .math).1 = .ok "ᵃb" ∧
      ("ᵃb" = String.ofList ((Formula.slots ⟨[.apply .superscript [.literal "ab"]]⟩).filterMap
          (Slot.output ({ tables := { superscripts := (∅ : Std.HashMap Nat Char).insert 'a'.toNat 'ᵃ' } } :
        Converter).tables .math)) ∧
        (({ tables := { superscripts := (∅ : Std.HashMap Nat Char).insert 'a'.toNat 'ᵃ' } } :
            Converter).render ⟨[.apply .superscript [.literal "ab"]]⟩ .math).2.pending =
          ({ tables := { superscripts := (∅ : Std.HashMap Nat Char).insert 'a'.toNat 'ᵃ' } } :
        Converter).pending ++ (Formula.slots ⟨[.apply .superscript [.literal "ab"]]⟩).filterMap
            (Slot.warning ({ tables := { superscripts := (∅ : Std.HashMap Nat Char).insert 'a'.toNat 'ᵃ' } } :
        Converter).tables .math)) := by
  have hslots : Formula.slots ⟨[.apply .superscript [.literal "ab"]]⟩ =
      [.char 'a' [.superscript], .char 'b' [.superscript]] :=
    rfl
  have hka : (Style.math.within [.superscript]).keeps 'a' = false := by decide
  have hkb : (Style.math.within [.superscript]).keeps 'b' = false := by decide
  have hup : (Style.math.within [.superscript]).superscript = true := by decide
  have h : (({ tables := { superscripts := (∅ : Std.HashMap Nat Char).insert 'a'.toNat 'ᵃ' } } :
        Converter).render ⟨[.apply .superscript [.literal "ab"]]⟩ .math).1 = .ok "ᵃb" := by
    have hfa : Tables.form? { superscripts := (∅ : Std.HashMap Nat Char).insert 'a'.toNat 'ᵃ' }
        (Style.math.within [.superscript]) 'a' = some 'ᵃ' := by
      simp [Tables.form?, hup, Tables.superscript?]
    have hfb : Tables.form? { superscripts := (∅ : Std.HashMap Nat Char).insert 'a'.toNat 'ᵃ' }
        (Style.math.within [.superscript]) 'b' = none := by
      simp [Tables.form?, hup, Tables.superscript?]
    rw [Converter.render_eq, Formula.render_eq_slots, hslots]
    simp only [Rendering.result, List.findSome?_cons, List.findSome?_nil, Slot.unknown?,
      List.takeWhile_cons, List.takeWhile_nil, Slot.isKnown, ↓reduceIte, List.filterMap_cons,
      List.filterMap_nil, Slot.output, Tables.shown, hka, hkb, hfa, hfb, Bool.false_eq_true,
      Option.getD_some, Option.getD_none]
  exact ⟨h, Converter.render_eq_of_ok h⟩

end MathUnicode
