import MathUnicode.Markup.Command

/-!
# Formulas

A formula is a sequence of nodes.  A node is a run of literal text, a named symbol
such as `\alpha`, or a command applied to a group of operands, which are nodes again.
-/

namespace MathUnicode.Markup

/-- One element of a formula. -/
inductive Node
  /-- A run of text, with escapes already resolved. -/
  | literal (text : String)
  /-- A symbol written `\name`, looked up in the catalog when rendered. -/
  | symbol (name : String)
  /-- A command applied to its operands. -/
  | apply (command : Command) (operands : List Node)
  deriving BEq, Repr, Inhabited

/-- A parsed formula: its nodes in order. -/
structure Formula where
  /-- The top-level nodes. -/
  nodes : List Node
  deriving BEq, Repr, Inhabited

namespace Formula

/-- Whether the formula has no nodes at all. -/
def isEmpty (f : Formula) : Bool :=
  f.nodes.isEmpty

end Formula

end MathUnicode.Markup
