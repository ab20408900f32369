import SocketGate.Text.Hex

/-!
# `SocketGate.Json.Writer`: JSON texts of flat objects

Texts in the grammar of RFC 8259 without any white space. A string escapes the
quotation mark, the backslash and the control characters, with the short form
where there is one; everything else stands for itself.
-/

set_option autoImplicit false

namespace SocketGate.Json

/-- A character inside a string. -/
def escape (c : Char) : String :=
  match c.toNat with
  | 0x08 => "\\b"
  | 0x09 => "\\t"
  | 0x0A => "\\n"
  | 0x0C => "\\f"
  | 0x0D => "\\r"
  | 0x22 => "\\\""
  | 0x5C => "\\\\"
  | n => if n < 0x20 then "\\u" ++ Text.hexPadded 4 n else c.toString

/-- A string. -/
def quote (text : String) : String :=
  "\"" ++ String.join (text.toList.map escape) ++ "\""

/-- An object whose values are strings, in this order. -/
def writeObject (fields : List (String × String)) : String :=
  let members := fields.map fun (name, value) => quote name ++ ":" ++ quote value
  "\x7b" ++ ",".intercalate members ++ "\x7d"

end SocketGate.Json
