import SocketGate.Json.Scalar

/-!
# `SocketGate.Json.Value`: arrays, objects and whole values

`elements` and `members` walk through an array or an object and hand each
element or member to a step. `ignore` skips a value of any depth; `datum` reads
one, up to a limit of nesting, and keeps what diagnostics tell of it. `require`
reads a value of a given kind and names any other in its fault.
-/

set_option autoImplicit false

namespace SocketGate.Json.Parse

/-! ### Walking through arrays and objects -/

/-- Whether another element follows. -/
def hasElement (first : Bool) : Parse Bool := do
  match ← peekPastBlanks with
  | none => failNext .endInArray
  | some 0x5D => return false
  | some b =>
    if first then return true
    else if b = 0x2C then
      skip
      match ← peekPastBlanks with
      | some 0x5D => failNext .trailingComma
      | some _ => return true
      | none => failNext .endInValue
    else failNext .expectedArrayEnd

/-- The name of the next member, if another one follows. -/
def memberName? (first : Bool) : Parse (Option String) := do
  match ← peekPastBlanks with
  | none => failNext .endInObject
  | some 0x7D => return none
  | some b =>
    if first then
      if b = 0x22 then skip; return some (← string)
      else failNext .keyNotString
    else if b = 0x2C then
      skip
      match ← peekPastBlanks with
      | some 0x22 => skip; return some (← string)
      | some 0x7D => failNext .trailingComma
      | some _ => failNext .keyNotString
      | none => failNext .endInValue
    else failNext .expectedObjectEnd

/-- The colon between the name and the value of a member. -/
def colon : Parse Unit := do
  match ← peekPastBlanks with
  | some 0x3A => skip
  | some _ => failNext .expectedColon
  | none => failNext .endInObject

/-- Walk through the elements of an array, after its bracket. -/
def elements {σ : Type} (step : σ → Parse σ) : (fuel : Nat) → (first : Bool) → σ → Parse σ
  | 0, _, s => return s
  | fuel + 1, first, s => do
    if ← hasElement first then elements step fuel false (← step s) else return s

/-- Walk through the members of an object, after its brace. The step gets the
name and reads the colon and the value. -/
def members {σ : Type} (step : σ → String → Parse σ) :
    (fuel : Nat) → (first : Bool) → σ → Parse σ
  | 0, _, s => return s
  | fuel + 1, first, s => do
    match ← memberName? first with
    | some name => members step fuel false (← step s name)
    | none => return s

/-- The end of an array. -/
def endArray : Parse Unit := do
  match ← peekPastBlanks with
  | some 0x5D => skip
  | some 0x2C =>
    skip
    match ← peekPastBlanks with
    | some 0x5D => failNext .trailingComma
    | _ => failNext .trailingCharacters
  | some _ => failNext .trailingCharacters
  | none => failNext .endInArray

/-- The end of an object. -/
def endObject : Parse Unit := do
  match ← peekPastBlanks with
  | some 0x7D => skip
  | some 0x2C => failNext .trailingComma
  | some _ => failNext .trailingCharacters
  | none => failNext .endInObject

/-- Fail about a whole array or object: past its closing bracket if that comes
next, else past the white space. -/
def failAfter {α : Type} (close : UInt8) (cause : Cause) : Parse α := do
  if (← peekPastBlanks) = some close then skip
  fail cause

/-! ### Values of any kind -/

/-- Close open brackets, of which the innermost is the first, until another element
or member follows. At the beginning `comma` says whether a comma may come next;
after a bracket that was closed, it may. What is left are the open ones. -/
def closeBrackets : (comma : Bool) → List UInt8 → Parse (List UInt8)
  | _, [] => return []
  | comma, frame :: outer => do
    match ← peekPastBlanks with
    | none => failNext (if frame = 0x5B then .endInArray else .endInObject)
    | some b =>
      if b = 0x2C ∧ comma then
        skip
        return frame :: outer
      else if (b = 0x5D ∧ frame = 0x5B) ∨ (b = 0x7D ∧ frame = 0x7B) then
        skip
        closeBrackets true outer
      else if comma then
        failNext (if frame = 0x5B then .expectedArrayEnd else .expectedObjectEnd)
      else return frame :: outer

/-- Skip the name of a member and its colon. -/
def ignoreName : Parse Unit := do
  match ← peekPastBlanks with
  | some 0x22 => skip
  | some _ => failNext .keyNotString
  | none => failNext .endInObject
  ignoreString
  colon

/-- Skip a scalar, or the bracket that begins an array or object; that bracket. -/
def ignoreHead : Parse (Option UInt8) := do
  match ← peekPastBlanks with
  | none => failNext .endInValue
  | some b =>
    -- The three words, a minus sign, a quotation mark, and the two opening brackets.
    match b.toNat with
    | 0x6E => skip; word [0x75, 0x6C, 0x6C]; return none
    | 0x74 => skip; word [0x72, 0x75, 0x65]; return none
    | 0x66 => skip; word [0x61, 0x6C, 0x73, 0x65]; return none
    | 0x2D => skip; ignoreNumber; return none
    | 0x22 => skip; ignoreString; return none
    | 0x5B | 0x7B => skip; return some b
    | _ =>
      if isDigit b then ignoreNumber; return none
      else failNext .expectedValue

/-- Skip values until no bracket is open; `frames` are the open ones. -/
def ignoreFrom : (fuel : Nat) → List UInt8 → Parse Unit
  | 0, _ => return
  | fuel + 1, frames => do
    let bracket ← ignoreHead
    -- After a scalar a comma may come, but not after a bracket that was just opened.
    let frames ← closeBrackets bracket.isNone (bracket.toList ++ frames)
    match frames with
    | [] => return
    | frame :: _ =>
      if frame = 0x7B then ignoreName
      ignoreFrom fuel frames

/-- Skip a value. The grammar is checked, but not the depth. -/
def ignore : Parse Unit := do
  ignoreFrom (← fuel) []

/-- Read a value with less than `room` levels of arrays and objects. -/
def datum : (room : Nat) → Parse Datum
  | 0 => failNext .tooDeep
  | room + 1 => do
    match ← peekPastBlanks with
    | none => failNext .endInValue
    | some b =>
      match b.toNat with
      | 0x6E => skip; word [0x75, 0x6C, 0x6C]; return .null
      | 0x74 => skip; word [0x72, 0x75, 0x65]; return .bool true
      | 0x66 => skip; word [0x61, 0x6C, 0x73, 0x65]; return .bool false
      | 0x2D => skip; return .number (← number false)
      | 0x22 => skip; return .string (← string)
      -- The depth is checked before the bracket is read, so the fault is at the bracket.
      | 0x5B =>
        if room = 0 then failNext .tooDeep
        else
          skip
          elements (fun _ => do let _ ← datum room) (← fuel) true ()
          endArray
          return .array
      | 0x7B =>
        if room = 0 then failNext .tooDeep
        else
          skip
          members (fun _ _ => do colon; let _ ← datum room) (← fuel) true ()
          endObject
          return .object
      | _ =>
        if isDigit b then return .number (← number true)
        else failNext .expectedValue

/-! ### Values of a given kind -/

/-- Name the value that comes next in a fault. A scalar is read first; an array or
an object is not. -/
def failType {α : Type} (expected : String) : Parse α := do
  match ← peek with
  | some 0x5B => fail (.invalidType .array expected)
  | some 0x7B => fail (.invalidType .object expected)
  | _ => fail (.invalidType (← datum 1) expected)

/-- Read a number and accept or refuse it. -/
def requireNumber {α : Type} (expected : String) (accept : Number → Except Cause α) :
    Parse α := do
  let positive? ← match ← peekPastBlanks with
    | none => failNext .endInValue
    | some b =>
      if b = 0x2D then
        skip
        pure (some false)
      else pure (if isDigit b then some true else none)
  match positive? with
  | none => failType expected
  | some positive =>
    match accept (← number positive) with
    | .ok value => return value
    | .error cause => fail cause

/-- Read an integer from zero up to `max`. -/
def natural (expected : String) (max : Nat) : Parse Nat :=
  requireNumber expected fun
    | .unsigned value =>
      if value.toNat ≤ max then .ok value.toNat
      else .error (.invalidValue (.number (.unsigned value)) expected)
    | .negative value => .error (.invalidValue (.number (.negative value)) expected)
    | .float value => .error (.invalidType (.number (.float value)) expected)

/-- Read a string. -/
def requireString (expected : String) : Parse String := do
  match ← peekPastBlanks with
  | none => failNext .endInValue
  | some 0x22 => skip; string
  | some _ => failType expected

/-- The end of the text. -/
def endOfText : Parse Unit := do
  if (← peekPastBlanks).isSome then failNext .trailingCharacters

/-- Read a whole text. -/
def run {α : Type} (parse : Parse α) (text : Bytes) : Except Fault α :=
  let whole : Parse α := do
    let value ← parse
    endOfText
    return value
  (whole (Cursor.start text)).map (·.1)

end SocketGate.Json.Parse
