/-!
# `SocketGate.Text.Hex`: hexadecimal numbers
-/

set_option autoImplicit false

namespace SocketGate.Text

/-- A number in base sixteen, digits above nine as small letters. -/
def hexLower (n : Nat) : String :=
  String.ofList (Nat.toDigits 16 n)

/-- A number in base sixteen, digits above nine as capital letters. -/
def hexUpper (n : Nat) : String :=
  String.ofList ((Nat.toDigits 16 n).map Char.toUpper)

/-- A number in base sixteen with at least `width` small digits. -/
def hexPadded (width n : Nat) : String :=
  let digits := Nat.toDigits 16 n
  String.ofList (List.replicate (width - digits.length) '0' ++ digits)

end SocketGate.Text
