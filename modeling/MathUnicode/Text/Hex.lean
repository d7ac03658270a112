/-!
# Hexadecimal numbers

Code points are written in uppercase hexadecimal with at least four digits, and read
from hexadecimal digits of either case, with an optional leading plus sign, as a number
that fits in 32 bits.
-/

namespace MathUnicode.Text

/-- The uppercase form of a hexadecimal digit. -/
def upperDigit (c : Char) : Char :=
  if 'a' ≤ c && c ≤ 'f' then Char.ofNat (c.toNat - 32) else c

/-- `n` in uppercase hexadecimal, padded with zeros to at least four digits. -/
def hex4 (n : Nat) : String :=
  let ds := (Nat.toDigits 16 n).map upperDigit
  String.ofList (List.replicate (4 - ds.length) '0' ++ ds)

/-- The value of one hexadecimal digit of either case. -/
def hexDigit? (c : Char) : Option Nat :=
  if '0' ≤ c && c ≤ '9' then some (c.toNat - '0'.toNat)
  else if 'a' ≤ c && c ≤ 'f' then some (c.toNat - 'a'.toNat + 10)
  else if 'A' ≤ c && c ≤ 'F' then some (c.toNat - 'A'.toNat + 10)
  else none

/-- The largest number that fits in 32 bits. -/
def maxWord : Nat := 4294967295

/-- Reads digits onto the value `acc`, failing on a non-digit or on a value past 32 bits. -/
def readHexDigits (acc : Nat) : List Char → Option Nat
  | [] => some acc
  | c :: cs =>
    match hexDigit? c with
    | none => none
    | some d =>
      let v := acc * 16 + d
      if v ≤ maxWord then readHexDigits v cs else none

/-- Reads a hexadecimal number of 32 bits: at least one digit, after an optional `+`. -/
def parseHex? (s : String) : Option Nat :=
  match s.toList with
  | [] => none
  | ['+'] => none
  | '+' :: ds => readHexDigits 0 ds
  | ds => readHexDigits 0 ds

/-- The character with code point `n`, if `n` is a Unicode scalar value. -/
def scalar? (n : Nat) : Option Char :=
  if h : n.isValidChar then some (Char.ofNatAux n h) else none

end MathUnicode.Text
