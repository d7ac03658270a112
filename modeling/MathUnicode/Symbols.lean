/-!
# The symbol catalog

Symbols are written `\name`: Greek letters, Hebrew letters, logical and set-theoretic
signs, operators, arrows, blackboard letters for the number sets, and a few musical
signs.  The catalog lists each name with its glyph, sorted by name; names are
case-sensitive.
-/

namespace MathUnicode.Symbols

/-- Every symbol name with its glyph, sorted by name. -/
def catalog : List (String × Char) := [
  ("Alpha", 'Α'), ("Beta", 'Β'), ("Chi", 'Χ'), ("Complex", 'ℂ'), ("Delta", 'Δ'),
  ("Epsilon", 'Ε'), ("Eta", 'Η'), ("Gamma", 'Γ'), ("Im", 'ℑ'), ("Iota", 'Ι'), ("Kappa", 'Κ'),
  ("Lambda", 'Λ'), ("Mu", 'Μ'), ("N", 'ℕ'), ("Nu", 'Ν'), ("Omega", 'Ω'), ("Omicron", 'Ο'),
  ("Phi", 'Φ'), ("Pi", 'Π'), ("Psi", 'Ψ'), ("Q", 'ℚ'), ("R", 'ℝ'), ("Re", 'ℜ'), ("Rho", 'Ρ'),
  ("Sigma", 'Σ'), ("Tau", 'Τ'), ("Theta", 'Θ'), ("Upsilon", 'Υ'), ("Xi", 'Ξ'), ("Z", 'ℤ'),
  ("Zeta", 'Ζ'), ("aleph", 'ℵ'), ("alpha", 'α'), ("approx", '≈'), ("because", '∵'),
  ("beta", 'β'), ("beth", 'ℶ'), ("cdot", '⋅'), ("chi", 'χ'), ("coda", '𝄌'), ("dalet", 'ℸ'),
  ("delta", 'δ'), ("div", '÷'), ("epsilon", 'ϵ'), ("equiv", '≡'), ("eta", 'η'),
  ("exists", '∃'), ("false", '⊥'), ("flat", '♭'), ("forall", '∀'), ("gamma", 'γ'),
  ("gimel", 'ℷ'), ("iff", '⟺'), ("iiint", '∭'), ("iint", '∬'), ("implies", '⟹'), ("in", '∈'),
  ("infty", '∞'), ("int", '∫'), ("iota", 'ι'), ("kappa", 'κ'), ("lambda", 'λ'), ("land", '∧'),
  ("langle", '⟨'), ("lor", '∨'), ("models", '⊨'), ("mp", '∓'), ("mu", 'μ'), ("nabla", '∇'),
  ("natural", '♮'), ("neg", '¬'), ("neq", '≠'), ("nmodels", '⊭'), ("nu", 'ν'), ("oiiint", '∰'),
  ("oiint", '∯'), ("oint", '∮'), ("omega", 'ω'), ("omicron", 'ο'), ("oplus", '⊕'),
  ("otimes", '⊗'), ("partial", '∂'), ("phi", 'ϕ'), ("pi", 'π'), ("pm", '±'), ("psi", 'ψ'),
  ("rangle", '⟩'), ("rho", 'ρ'), ("segno", '𝄋'), ("sharp", '♯'), ("sigma", 'σ'),
  ("square", '□'), ("tau", 'τ'), ("therefore", '∴'), ("theta", 'θ'), ("times", '×'),
  ("true", '⊤'), ("upsilon", 'υ'), ("varepsilon", 'ε'), ("varnothing", '∅'), ("varphi", 'φ'),
  ("varpi", 'ϖ'), ("varrho", 'ϱ'), ("varsigma", 'ς'), ("vartheta", 'ϑ'), ("xi", 'ξ'),
  ("zeta", 'ζ')
]

/-- The glyph of the symbol `name`, if the catalog has it. -/
def lookup? (name : String) : Option Char :=
  catalog.lookup name

/-- The entries whose names start with `prefixText`, sorted by name. -/
def withPrefix (prefixText : String) : List (String × Char) :=
  catalog.filter fun e => prefixText.toList.isPrefixOf e.1.toList

/-- The number of symbols in the catalog. -/
def count : Nat :=
  catalog.length

end MathUnicode.Symbols
