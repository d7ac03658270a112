import MathUnicode.Unicode.Alphanumeric

/-!
# Character classes of the markup

Plain text may hold letters and digits of any script, the space, and a fixed set of
punctuation.  Five characters have a meaning of their own and stand for themselves only
after a backslash: the backslash, the two script operators and the two braces.
-/

namespace MathUnicode.Markup

/-- Punctuation that may stand in plain text. -/
def punctuation : List Char :=
  ['=', '!', '-', '+', '(', ')', '[', ']', '<', '>', '/', '\'', ',', '.', ':', ';', '|',
    '*', '?']

/-- Whether `c` may stand unescaped in a run of text. -/
def isAllowed (c : Char) : Bool :=
  Unicode.isAlphanumeric c || c == ' ' || punctuation.contains c

/-- Whether a backslash before `c` stands for `c` itself. -/
def isEscapable (c : Char) : Bool :=
  c == '\\' || c == '^' || c == '_' || c == '{' || c == '}'

theorem isAllowed_of_isEscapable {c : Char} (h : isEscapable c = true) : isAllowed c = false := by
  simp only [isEscapable, Bool.or_eq_true, beq_iff_eq] at h
  rcases h with (((h | h) | h) | h) | h <;> subst h <;> decide

end MathUnicode.Markup
