import SocketGate.Http.Request
import SocketGate.Source
import SocketGate.Text.Utf8

/-!
# `SocketGate.Http.Head`: reading request heads off a stream

`Request.read` takes one request head off the front of a stream. It uses at most
16384 bytes and accepts at most 100 headers; the bytes after the empty line stay
unread. While the stream may still bring more bytes and the head is incomplete,
the answer is `none`.
-/

set_option autoImplicit false

namespace SocketGate

namespace Http

/-- The largest head. -/
def maxHead : Nat := 16384

/-- The largest number of headers. -/
def maxHeaders : Nat := 100

/-- The failure of a stream that ends inside a head. -/
def closedInsideHead : IoFault := ⟨.unexpectedEnd, "connection closed inside request head"⟩

/-- The failure of a head that breaks a rule. -/
def malformed (message : String) : IoFault := ⟨.invalidData, message⟩

/-- The text of a line of the head. Of several faults the first of these counts:
it is not UTF-8; it has no line feed because of the limit; it has none because
the stream ended. Nothing at all is the empty text. -/
def headLine (limit : Nat) (line : Bytes) : Except IoFault String :=
  match Text.Utf8.fault? line with
  | some fault => .error (malformed fault.message)
  | none =>
    if line.getLast? = some 0x0A then .ok ((Bytes.toText? line).getD "")
    -- Reading has stopped at the limit, or the stream has ended.
    else if line.length = limit then .error (malformed "request head too large")
    else if line.isEmpty then .ok ""
    else .error closedInsideHead

/-- Read a line of the head, with `limit` bytes of the head left: the text, and
how many bytes are left after it. -/
def readHeadLine (limit : Nat) (source : Source) : Source.Reading (String × Nat) :=
  match source.takeLine limit with
  | none => none
  | some (.error fault, source) => some (.error fault, source)
  | some (.ok line, source) =>
    some ((headLine limit line).map fun text => (text, limit - line.length), source)

/-- The header on a line that is not empty. -/
def readHeader (line : String) : Except IoFault (String × String) :=
  match Text.splitOnce? ':' line with
  | none => .error (malformed "malformed header line")
  | some (name, value) => .ok (Text.trim name, Text.trim value)

/-- A line without the line feeds and carriage returns at its end. -/
def stripLineEnd (line : String) : String :=
  String.ofList (Text.dropEndWhile (fun c => c == '\r' || c == '\n') line.toList)

/-- The header on a line with its line end, or none on the empty line behind the
headers. -/
def readHeader? (text : String) : Except IoFault (Option (String × String)) :=
  if text.isEmpty then .error closedInsideHead
  else
    let line := stripLineEnd text
    if line.isEmpty then .ok none else (readHeader line).map some

/-- Read header lines up to the first empty one. There is room for `room`
headers more, and `headers` are the ones before, last one first. -/
def readHeaders (room limit : Nat) (headers : List (String × String)) (source : Source) :
    Source.Reading (List (String × String)) :=
  match readHeadLine limit source with
  | none => none
  | some (.error fault, source) => some (.error fault, source)
  | some (.ok (text, limit), source) =>
    match readHeader? text with
    | .error fault => some (.error fault, source)
    | .ok none => some (.ok headers.reverse, source)
    | .ok (some header) =>
      -- A header too many has to be well formed to count as one.
      match room with
      | 0 => some (.error (malformed "too many headers"), source)
      | room + 1 => readHeaders room limit (header :: headers) source

/-- The method, the target and the version of a request line. Anything after
them is ignored. -/
def requestLine? (line : String) : Option (String × String × String) :=
  match Text.words line with
  | method :: target :: version :: _ => some (method, target, version)
  | _ => none

/-- Take one request head off a stream; no request if the stream ends before its
first byte. -/
def Request.read (source : Source) : Source.Reading (Option Request) :=
  match readHeadLine maxHead source with
  | none => none
  | some (.error fault, source) => some (.error fault, source)
  | some (.ok (text, limit), source) =>
    if text.isEmpty then some (.ok none, source)
    else match requestLine? text with
      | none => some (.error (malformed "malformed request line"), source)
      | some (method, target, version) =>
        match readHeaders maxHeaders limit [] source with
        | none => none
        | some (.error fault, source) => some (.error fault, source)
        | some (.ok headers, source) =>
          some (.ok (some { method, target, version, headers }), source)

end Http

end SocketGate
