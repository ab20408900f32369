import SocketGate.Json.Value

/-!
# `SocketGate.Chat.Request`: what a member of the room asks for

A request is a JSON object with the tag `type`, which may stand anywhere in it,
and the one member its type asks for. Other members are skipped. The tag and the
member may also come as an array of two elements.
-/

set_option autoImplicit false

namespace SocketGate.Chat

open Json (Datum Cause Parse)

/-- What a member asks for. -/
inductive Request where
  | setName (name : String)
  | say (content : String)
  deriving DecidableEq

/-- The types of request. -/
inductive Tag where
  | setName
  | chat
  deriving DecidableEq

namespace Tag

/-- The tag with this name. -/
def ofName? : String → Except Cause Tag
  | "set_name" => .ok .setName
  | "chat" => .ok .chat
  | name => .error (.unknownVariant name "`set_name` or `chat`")

/-- The name of the member that a request of this type needs. -/
def member : Tag → String
  | .setName => "name"
  | .chat => "content"

/-- How the type is named in diagnostics. -/
def label : Tag → String
  | .setName => "struct variant ChatRequest::SetName with 1 element"
  | .chat => "struct variant ChatRequest::Chat with 1 element"

/-- The request of this type with this text. -/
def request : Tag → String → Request
  | .setName, name => .setName name
  | .chat, content => .say content

end Tag

/-- What a request holds beside its tag. -/
inductive Content where
  | members (members : List (String × Datum))
  | elements (elements : List Datum)

/-- The string a value is. -/
def textOf : Datum → Except Cause String
  | .string text => .ok text
  | other => .error (.invalidType other "a string")

/-- The text of the member `name`, which has to be there once; `found` is what was
there before. -/
def memberText (name : String) : List (String × Datum) → (found : Option String) →
    Except Cause String
  | [], some text => .ok text
  | [], none => .error (.missingField name)
  | (key, value) :: rest, found =>
    if key ≠ name then memberText name rest found
    else if found.isSome then .error (.duplicateField name)
    else match textOf value with
      | .error cause => .error cause
      | .ok text => memberText name rest (some text)

/-- The text that a request of this type needs. -/
def contentText (tag : Tag) : Content → Except Cause String
  | .members members => memberText tag.member members none
  | .elements [] => .error (.invalidLength 0 tag.label)
  | .elements (value :: rest) =>
    match textOf value with
    | .error cause => .error cause
    | .ok text =>
      if rest.isEmpty then .ok text
      else .error (.invalidLength (rest.length + 1) "1 element in sequence")

/-- How deeply the parts of a request may be nested. -/
def maxDepth : Nat := 127

/-- Read a tag. -/
def parseTag : Parse Tag := do
  match Tag.ofName? (← Parse.requireString "variant identifier") with
  | .ok tag => return tag
  | .error cause => Parse.fail cause

/-- Read one member of a request: the tag, or another one. -/
def parseMember (state : Option Tag × List (String × Datum)) (name : String) :
    Parse (Option Tag × List (String × Datum)) := do
  let (tag, members) := state
  if name = "type" then
    if tag.isSome then Parse.failAfter 0x7D (.duplicateField "type")
    else
      Parse.colon
      return (some (← parseTag), members)
  else
    Parse.colon
    return (tag, members ++ [(name, ← Parse.datum maxDepth)])

/-- Read an object as a tag and other members. -/
def parseObject : Parse (Tag × Content) := do
  Parse.skip
  let (tag, members) ← Parse.members parseMember (← Parse.fuel) true (none, [])
  match tag with
  | none => Parse.failAfter 0x7D (.missingField "type")
  | some tag =>
    Parse.endObject
    return (tag, .members members)

/-- Read an array as a tag and other elements. -/
def parseArray : Parse (Tag × Content) := do
  Parse.skip
  if ← Parse.hasElement true then
    let tag ← parseTag
    let elements ← Parse.elements
      (fun read => do return read ++ [← Parse.datum maxDepth]) (← Parse.fuel) false []
    Parse.endArray
    return (tag, .elements elements)
  else Parse.failAfter 0x5D (.missingField "type")

/-- Read a request. -/
def parseRequest : Parse Request := do
  let (tag, content) ← match ← Parse.peekPastBlanks with
    | none => Parse.failNext .endInValue
    | some 0x5B => parseArray
    | some 0x7B => parseObject
    | some _ => Parse.failType "internally tagged enum ChatRequest"
  match contentText tag content with
  | .ok text => return tag.request text
  | .error cause => Parse.failNowhere cause

/-- The request a text stands for. -/
def Request.ofText? (text : String) : Except Json.Fault Request :=
  Parse.run parseRequest (Bytes.ofText text)

end SocketGate.Chat
