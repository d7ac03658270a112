/-!
# White space

The Unicode property White_Space holds of 25 code points: the ASCII controls from
tab to carriage return, the space, next line, no-break space, and the spaces and
separators of the General Punctuation and CJK blocks.  Core's `Char.isWhitespace`
knows only the ASCII ones.

On top of the class this file defines the two text operations that the database reader
needs: trimming both ends of a field, and cutting a field into its blank-separated words.
-/

namespace MathUnicode.Unicode

/-- Whether `c` has the Unicode property White_Space. -/
def isWhiteSpace (c : Char) : Bool :=
  let n := c.toNat
  (0x09 ≤ n && n ≤ 0x0D) || n == 0x20 || n == 0x85 || n == 0xA0 || n == 0x1680 ||
    (0x2000 ≤ n && n ≤ 0x200A) || n == 0x2028 || n == 0x2029 || n == 0x202F ||
    n == 0x205F || n == 0x3000

/-- Drops white space from both ends of a list of characters. -/
def trimChars (cs : List Char) : List Char :=
  ((cs.dropWhile isWhiteSpace).reverse.dropWhile isWhiteSpace).reverse

/-- Drops white space from both ends of a string. -/
def trim (s : String) : String :=
  String.ofList (trimChars s.toList)

/-- One step of `wordsOf`: white space ends the current word, anything else extends it. -/
def wordsStep (acc : List (List Char) × List Char) (c : Char) : List (List Char) × List Char :=
  if isWhiteSpace c then
    (if acc.2.isEmpty then acc.1 else acc.1 ++ [acc.2], [])
  else
    (acc.1, acc.2 ++ [c])

/-- The maximal runs of characters without white space, in order. -/
def wordsOf (cs : List Char) : List (List Char) :=
  let (done, current) := cs.foldl wordsStep ([], [])
  if current.isEmpty then done else done ++ [current]

/-- The words of a string: its maximal runs without white space, in order. -/
def words (s : String) : List String :=
  (wordsOf s.toList).map String.ofList

end MathUnicode.Unicode
