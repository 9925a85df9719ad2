/-!
# Escapes by code

A code written by its number: a backslash, a letter, and as many hexadecimal digits as the letter
announces.
-/

namespace ClusterLineage.Text

/-- The hexadecimal digits of a number in small letters, the last `width` of them. -/
def hexDigits : Nat → Nat → List Char
  | 0, _ => []
  | width + 1, n => hexDigits width (n / 16) ++ [Nat.digitChar (n % 16)]

/-- The escape of a code below 256. -/
def byteEscape (code : Nat) : List Char :=
  '\\' :: 'x' :: hexDigits 2 code

/-- The escape of a code below 65536. -/
def unitEscape (code : Nat) : List Char :=
  '\\' :: 'u' :: hexDigits 4 code

/-- The escape of any code. -/
def longEscape (code : Nat) : List Char :=
  '\\' :: 'U' :: hexDigits 8 code

end ClusterLineage.Text
