import SocketGate.Bytes
import SocketGate.Text.Blank

/-!
# `SocketGate.Http.Request`: request heads

A request is its request line and its headers, in order. Header names are
matched without regard to case, and the first header of a name counts.
-/

set_option autoImplicit false

namespace SocketGate.Http

/-- A request head. -/
structure Request where
  method : String
  /-- The target as sent, with its query. -/
  target : String
  version : String := "HTTP/1.1"
  headers : List (String × String) := []
  deriving DecidableEq

namespace Request

/-- The first value of a header. -/
def header? (request : Request) (name : String) : Option String :=
  (request.headers.find? fun header => Text.eqIgnoringCase header.1 name).map (·.2)

/-- The target without its query. -/
def path (request : Request) : String :=
  Text.before '?' request.target

/-- Whether the request asks for an upgrade to WebSocket at all. -/
def isUpgrade (request : Request) : Bool :=
  match request.header? "upgrade" with
  | some value => Text.eqIgnoringCase (Text.trim value) "websocket"
  | none => false

end Request

end SocketGate.Http
