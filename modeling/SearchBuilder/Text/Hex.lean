/-!
# Hexadecimal digits
-/

namespace SearchBuilder

/-- The digit of a value below sixteen, with small letters. -/
def hexDigit (n : Nat) : Char := Nat.digitChar (n % 16)

/-- The last `width` hexadecimal digits of a number, with small letters. -/
def hexText (width n : Nat) : List Char :=
  match width with
  | 0 => []
  | width + 1 => hexText width (n / 16) ++ [hexDigit n]

/-- The value of a hexadecimal digit of either case. -/
def hexValue? (c : Char) : Option Nat :=
  if c.isDigit then some (c.toNat - '0'.toNat)
  else if 'a' ≤ c && c ≤ 'f' then some (c.toNat - 'a'.toNat + 10)
  else if 'A' ≤ c && c ≤ 'F' then some (c.toNat - 'A'.toNat + 10)
  else none

/-- The value of a text of hexadecimal digits. -/
def hexNumber? (digits : List Char) : Option Nat :=
  digits.foldlM (fun value c => (value * 16 + ·) <$> hexValue? c) 0

end SearchBuilder
