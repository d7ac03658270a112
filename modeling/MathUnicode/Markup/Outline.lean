import MathUnicode.Markup.Formula
import MathUnicode.Text.Quoted

/-!
# The outline of a formula

The outline shows the tree of a formula, one element per line, indented by four spaces
per level.  A literal and a symbol are shown as `Literal(` or `Symbol(`, their quoted
text on the next line, and a closing parenthesis; a command as `Function {` with the
lines `kind: Name,` and `operands: [...]`; a list with elements puts each on its own
lines and ends each with a comma, and an empty list is `[]`.
-/

namespace MathUnicode.Markup

/-- `n` spaces. -/
def indent (n : Nat) : String :=
  String.ofList (List.replicate n ' ')

/-- A name followed by one field in parentheses, the field on its own line. -/
def wrapped (pad : Nat) (name body : String) : String :=
  name ++ "(\n" ++ indent (pad + 4) ++ body ++ ",\n" ++ indent pad ++ ")"

mutual

/-- The outline of a node whose first line stands at indentation `pad`. -/
def Node.outline (pad : Nat) : Node → String
  | .literal t => wrapped pad "Literal" (Text.quote t)
  | .symbol n => wrapped pad "Symbol" (Text.quote n)
  | .apply k ns =>
    "Function \x7b\n" ++ indent (pad + 4) ++ "kind: " ++ k.outlineName ++ ",\n" ++
      indent (pad + 4) ++ "operands: " ++ Node.outlineList (pad + 4) ns ++ ",\n" ++
      indent pad ++ "\x7d"

/-- The outline of a list of nodes whose bracket stands at indentation `pad`. -/
def Node.outlineList (pad : Nat) : List Node → String
  | [] => "[]"
  | n :: ns => "[\n" ++ Node.outlineItems (pad + 4) (n :: ns) ++ indent pad ++ "]"

/-- The elements of a list, each on its own lines at indentation `pad`, ended by a comma. -/
def Node.outlineItems (pad : Nat) : List Node → String
  | [] => ""
  | n :: ns => indent pad ++ Node.outline pad n ++ ",\n" ++ Node.outlineItems pad ns

end

/-- The outline of a formula. -/
def Formula.outline (f : Formula) : String :=
  "Formula \x7b\n    nodes: " ++ Node.outlineList 4 f.nodes ++ ",\n\x7d"

end MathUnicode.Markup
