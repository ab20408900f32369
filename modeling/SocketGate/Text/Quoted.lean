import SocketGate.Text.Hex
import SocketGate.Text.Printable

/-!
# `SocketGate.Text.Quoted`: texts as they are shown in diagnostics

A text is shown between quotation marks. The quotation mark, the backslash and
the common control characters have a short escape; every other character that
would not be visible on its own is shown by its number in hexadecimal.
-/

set_option autoImplicit false

namespace SocketGate.Text

/-- A character between quotation marks. -/
def escapeQuoted (c : Char) : String :=
  match c.toNat with
  | 0x00 => "\\0"
  | 0x09 => "\\t"
  | 0x0A => "\\n"
  | 0x0D => "\\r"
  | 0x22 => "\\\""
  | 0x5C => "\\\\"
  | n =>
    if isVisible c then c.toString else "\\u\x7b" ++ hexLower n ++ "\x7d"

/-- A text between quotation marks. -/
def quoted (text : String) : String :=
  "\"" ++ String.join (text.toList.map escapeQuoted) ++ "\""

end SocketGate.Text
