/-!
# Lines of a text

A text is cut into lines at each line feed.  The line feed ends its line and is dropped,
together with one carriage return right before it; a carriage return anywhere else is
kept.  A line feed at the very end opens no new line, and the empty text has no lines.

The same rule cuts a sequence of bytes, so that each line can be decoded on its own.
-/

namespace MathUnicode.Text

/-- Drops one carriage return at the end of a line that a line feed ended. -/
def dropCarriageReturn {α : Type} (cr : α) [BEq α] (line : List α) : List α :=
  if line.getLast? == some cr then line.dropLast else line

/-- The pieces between line feeds, with the last piece dropped when it is empty. -/
def splitLines {α : Type} [BEq α] (lf cr : α) (xs : List α) : List (List α) :=
  let pieces := xs.splitOn lf
  let ended := pieces.dropLast.map (dropCarriageReturn cr)
  match pieces.getLast? with
  | some last => if last.isEmpty then ended else ended ++ [last]
  | none => ended

/-- The lines of a text. -/
def lines (s : String) : List String :=
  (splitLines '\n' '\r' s.toList).map String.ofList

/-- The lines of a sequence of bytes. -/
def byteLines (bs : List UInt8) : List (List UInt8) :=
  splitLines 10 13 bs

end MathUnicode.Text
