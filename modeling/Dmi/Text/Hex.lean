/-
**Hexadecimal numbers.**

A number in base sixteen with at least the given count of digits, zeros in front. `lower` uses the
letters a to f, `upper` A to F, and `literal` puts `0x` before the fewest digits.
-/

namespace Dmi.Hex

/-- The digits with zeros in front up to `width`. -/
def padded (width : Nat) (digits : List Char) : String :=
  String.ofList (List.leftpad width '0' digits)

/-- The number in small letters, at least `width` digits. -/
def lower (width number : Nat) : String :=
  padded width (Nat.toDigits 16 number)

/-- The number in capital letters, at least `width` digits. -/
def upper (width number : Nat) : String :=
  padded width ((Nat.toDigits 16 number).map Char.toUpper)

/-- The number as `0x` and the fewest digits. -/
def literal (number : Nat) : String :=
  "0x" ++ lower 1 number

end Dmi.Hex
