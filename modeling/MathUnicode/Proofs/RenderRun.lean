import MathUnicode.Convert

/-!
# A run of the renderer

The renderer walks a formula node by node, threading a sink of text and warnings through
the walk and stopping at the first unknown symbol; the warnings it raised before stopping
stay in the sink, and so in the converter's buffer.  This module shows that such a run
writes the pieces of the formula one after the other (`Node.renderNodes_eq_forM`), and
that writing pieces from any sink appends to it the text and warnings of the pieces
before the first unknown symbol, and stops there (`Piece.run_forM_write`).

Main statements: `Formula.render_eq_ofPieces`, and `Converter.render_eq`, which says that a
rendering on a converter appends to its pending warnings those of the rendering.

## Strategy

The walk is structural on the nodes: a sequence of nodes writes the pieces of the first and
then those of the rest, which is `List.forM_append`, so the recursion of the renderer
becomes a single loop over the flat list of pieces.  That loop is then run by induction on
the list, one glyph or one unknown symbol at a time.
-/

namespace MathUnicode

open Markup

/-! ## The renderer writes the pieces -/

namespace Markup

mutual

/-- Rendering a node writes its pieces one after the other, up to the first unknown
symbol. -/
theorem Node.renderNode_eq_forM (t : Tables) (s : Style) :
    ∀ n : Node, Node.renderNode t s n = forM (n.pieces t s) Piece.write
  | .literal text => by
      simp only [Node.renderNode, Node.pieces, List.forM_map]
  | .symbol name => by
      unfold Node.renderNode Node.pieces
      cases Symbols.lookup? name with
      | some g => simp
      | none => simp [Piece.write]
  | .apply k ns => by
      by_cases hk : k = .vector
      · -- the arrow is written after the operands, in the same style
        subst hk
        simp only [Node.renderNode, Node.pieces, List.forM_append,
          Node.renderNodes_eq_forM t s ns]
        simp [Piece.write]
      · rw [Node.renderNode_apply_of_ne t s ns hk, Node.pieces_apply_of_ne t s ns hk,
          Node.renderNodes_eq_forM]

/-- Rendering a sequence of nodes writes their pieces one after the other, up to the first
unknown symbol. -/
theorem Node.renderNodes_eq_forM (t : Tables) (s : Style) :
    ∀ ns : List Node, Node.renderNodes t s ns = forM (Node.piecesList t s ns) Piece.write
  | [] => rfl
  | n :: ns => by
      rw [Node.renderNodes, Node.piecesList, List.forM_append, Node.renderNode_eq_forM t s n,
        Node.renderNodes_eq_forM t s ns]

end

end Markup

/-! ## Writing pieces -/

theorem Rendering.ofPieces_nil : Rendering.ofPieces [] = {} := rfl

theorem Rendering.ofPieces_glyph (c : Char) (w : Option Warning) (ps : List Piece) :
    Rendering.ofPieces (.glyph c w :: ps) =
      { content := String.singleton c ++ (Rendering.ofPieces ps).content
        warnings := w.toList ++ (Rendering.ofPieces ps).warnings
        stop := (Rendering.ofPieces ps).stop } := by
  simp only [Rendering.ofPieces, List.takeWhile_cons, Piece.unknown?, Option.isNone_none,
    if_true, List.filterMap_cons, Piece.output?, Piece.warning?, List.findSome?_cons]
  cases w <;> simp [String.ofList_cons]

theorem Rendering.ofPieces_unknown (name : String) (ps : List Piece) :
    Rendering.ofPieces (.unknown name :: ps) = { stop := some name } := by
  simp only [Rendering.ofPieces, List.takeWhile_cons, Piece.unknown?, Option.isNone_some,
    List.findSome?_cons]
  rfl

/-- A glyph is written, and the rendering goes on. -/
theorem Piece.run_write_glyph_bind (c : Char) (w : Option Warning) (k : Unit → RenderM Unit)
    (b : Sink) : ((Piece.glyph c w).write >>= k).run.run b = (k ()).run.run (b.push c w) :=
  rfl

/-- An unknown symbol stops the rendering, with what was written so far. -/
theorem Piece.run_write_unknown_bind (name : String) (k : Unit → RenderM Unit) (b : Sink) :
    ((Piece.unknown name).write >>= k).run.run b = (.error name, b) :=
  rfl

/-- Writing pieces into a sink appends the text and the warnings of the pieces before the
first unknown symbol, and stops with that symbol. -/
theorem Piece.run_forM_write (ps : List Piece) (b : Sink) :
    (forM ps Piece.write : RenderM Unit).run.run b =
      ((match (Rendering.ofPieces ps).stop with
        | some name => .error name
        | none => .ok ()),
       { output := b.output ++ (Rendering.ofPieces ps).content
         warnings := b.warnings ++ (Rendering.ofPieces ps).warnings }) := by
  induction ps generalizing b with
  | nil =>
      rw [Rendering.ofPieces_nil]
      simp only [String.append_empty, List.append_nil]
      rfl
  | cons p ps ih =>
      cases p with
      | glyph c w =>
          rw [Rendering.ofPieces_glyph, List.forM_cons, Piece.run_write_glyph_bind, ih]
          simp only [Sink.push, String.push_eq_append, String.append_assoc, List.append_assoc]
      | unknown name =>
          rw [Rendering.ofPieces_unknown, List.forM_cons, Piece.run_write_unknown_bind]
          simp only [String.append_empty, List.append_nil]

/-! ## Renderings -/

/-- The renderer writes the pieces of the formula up to the first unknown symbol. -/
theorem Markup.Formula.render_eq_ofPieces (t : Tables) (s : Style) (f : Formula) :
    f.render t s = Rendering.ofPieces (Node.piecesList t s f.nodes) := by
  rw [Formula.render, Node.renderNodes_eq_forM, Piece.run_forM_write]
  generalize Rendering.ofPieces (Node.piecesList t s f.nodes) = r
  cases r with
  | mk content warnings stop => cases stop <;> simp

/-- A rendering on a converter has the outcome of the formula's rendering, and appends the
warnings that rendering raised to the pending ones, whether it fails or not. -/
theorem Converter.render_eq (conv : Converter) (f : Formula) (s : Style) :
    conv.render f s =
      ((f.render conv.tables s).result,
        { conv with pending := conv.pending ++ (f.render conv.tables s).warnings }) := by
  rw [Converter.render, Formula.render_eq_ofPieces, Node.renderNodes_eq_forM,
    Piece.run_forM_write]
  -- the sink starts with no text and with the pending warnings
  generalize Rendering.ofPieces (Node.piecesList conv.tables s f.nodes) = r
  cases r with
  | mk content warnings stop => cases stop <;> simp [Rendering.result]

end MathUnicode
