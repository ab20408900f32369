import SocketGate.Json.Number
import SocketGate.Text.Quoted

/-!
# `SocketGate.Json.Fault`: what can be wrong with a JSON text

A text can break the grammar, or it can be well formed and not say what was
asked for. A fault has a cause and, as a rule, the place where it was noticed.
-/

set_option autoImplicit false

namespace SocketGate.Json

/-- What a value is, as far as diagnostics tell. -/
inductive Datum where
  | null
  | bool (value : Bool)
  | number (value : Number)
  | string (value : String)
  | array
  | object

/-- How a value is named in diagnostics. -/
def Datum.describe : Datum → String
  | .null => "null"
  | .bool value => s!"boolean `{value}`"
  | .number (.unsigned value) => s!"integer `{value.toNat}`"
  | .number (.negative value) => s!"integer `{value}`"
  | .number (.float value) => "floating point `" ++ floatText value ++ "`"
  | .string value => "string " ++ Text.quoted value
  | .array => "sequence"
  | .object => "map"

/-- What is wrong. -/
inductive Cause where
  /-- The text ends where a value should be, or inside one. -/
  | endInValue
  | endInArray
  | endInObject
  | endInString
  | expectedColon
  /-- After an element, neither a comma nor the end of the array. -/
  | expectedArrayEnd
  /-- After a member, neither a comma nor the end of the object. -/
  | expectedObjectEnd
  /-- A word begins like `null`, `true` or `false` and goes on otherwise. -/
  | expectedIdent
  | expectedValue
  | invalidEscape
  | invalidNumber
  | numberOutOfRange
  /-- A bare control character in a string. -/
  | controlCharacter
  | keyNotString
  | loneSurrogate
  | trailingComma
  | trailingCharacters
  | unfinishedPair
  | tooDeep
  | invalidType (found : Datum) (expected : String)
  /-- A value of the right type that is not allowed. -/
  | invalidValue (found : Datum) (expected : String)
  | invalidLength (length : Nat) (expected : String)
  /-- A name that is none of the known ones. -/
  | unknownVariant (name expected : String)
  | duplicateField (name : String)
  | missingField (name : String)

/-- The wording of a cause. -/
def Cause.message : Cause → String
  | .endInValue => "EOF while parsing a value"
  | .endInArray => "EOF while parsing a list"
  | .endInObject => "EOF while parsing an object"
  | .endInString => "EOF while parsing a string"
  | .expectedColon => "expected `:`"
  | .expectedArrayEnd => "expected `,` or `]`"
  | .expectedObjectEnd => "expected `,` or `\x7d`"
  | .expectedIdent => "expected ident"
  | .expectedValue => "expected value"
  | .invalidEscape => "invalid escape"
  | .invalidNumber => "invalid number"
  | .numberOutOfRange => "number out of range"
  | .controlCharacter => "control character (\\u0000-\\u001F) found while parsing a string"
  | .keyNotString => "key must be a string"
  | .loneSurrogate => "lone leading surrogate in hex escape"
  | .trailingComma => "trailing comma"
  | .trailingCharacters => "trailing characters"
  | .unfinishedPair => "unexpected end of hex escape"
  | .tooDeep => "recursion limit exceeded"
  | .invalidType found expected => "invalid type: " ++ found.describe ++ ", expected " ++ expected
  | .invalidValue found expected => "invalid value: " ++ found.describe ++ ", expected " ++ expected
  | .invalidLength length expected => s!"invalid length {length}, expected {expected}"
  | .unknownVariant name expected => s!"unknown variant `{name}`, expected {expected}"
  | .duplicateField name => s!"duplicate field `{name}`"
  | .missingField name => s!"missing field `{name}`"

/-- A place in a text. -/
structure Place where
  /-- The line, counted from one. -/
  line : Nat
  /-- How many bytes of the line stand before the place. -/
  column : Nat
  deriving DecidableEq

/-- Something wrong with a text. -/
structure Fault where
  /-- What is wrong. -/
  cause : Cause
  /-- Where it was noticed, if that is known. -/
  place : Option Place

/-- The wording of a fault. -/
def Fault.message (fault : Fault) : String :=
  match fault.place with
  | none => fault.cause.message
  | some place => fault.cause.message ++ s!" at line {place.line} column {place.column}"

end SocketGate.Json
