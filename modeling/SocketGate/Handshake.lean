import SocketGate.Base64
import SocketGate.Http.Request
import SocketGate.Http.Response
import SocketGate.Sha1

/-!
# `SocketGate.Handshake`: the opening handshake

The server's side of RFC 6455, section 4.2. `Handshake.ofRequest?` checks a
request and gives what the server answers with, or the first rule that the
request breaks; `Handshake.response` and `Refusal.response` are the two answers
as bytes.
-/

set_option autoImplicit false

namespace SocketGate

open Http (Request responseHead textResponse)

/-- Why a request is no opening handshake. -/
inductive Refusal where
  | wrongMethod (method : String)
  | missingHeader (name : String)
  | wrongUpgrade (value : String)
  /-- The connection header does not name the upgrade. -/
  | wrongConnection (value : String)
  /-- The key is not sixteen bytes in base64. -/
  | invalidKey
  /-- The version of the protocol is not 13. -/
  | unsupportedVersion (version : String)
  deriving DecidableEq

namespace Refusal

/-- The wording of a refusal. -/
def message : Refusal → String
  | .wrongMethod method => s!"method must be GET, got '{method}'"
  | .missingHeader name => s!"missing header: {name}"
  | .wrongUpgrade value => s!"Upgrade header must be 'websocket', got '{value}'"
  | .wrongConnection value => s!"Connection header must contain 'Upgrade', got '{value}'"
  | .invalidKey => "Sec-WebSocket-Key must be 16 base64-encoded bytes"
  | .unsupportedVersion version => s!"unsupported WebSocket version: {version}"

/-- The answer to a refused request. -/
def response (refusal : Refusal) : Bytes :=
  textResponse "400 Bad Request" refusal.message

end Refusal

/-- What the server answers an opening handshake with. -/
structure Handshake where
  /-- The proof that the key was read. -/
  accept : String
  /-- The subprotocol agreed on, if the client offered one. -/
  subprotocol : Option String
  deriving DecidableEq

namespace Handshake

/-- The text that is appended to every key. -/
def guid : String := "258EAFA5-E914-47DA-95CA-C5AB0DC85B11"

/-- The answer to a key. -/
def acceptKey (key : String) : String :=
  Base64.encode (Sha1.hash (Bytes.ofText key ++ Bytes.ofText guid))

/-- A header that has to be there. -/
def required (request : Request) (name : String) : Except Refusal String :=
  match request.header? name with
  | some value => .ok value
  | none => .error (.missingHeader name)

/-- The upgrade has to be to WebSocket. -/
def checkUpgrade (value : String) : Except Refusal Unit :=
  if Text.eqIgnoringCase (Text.trim value) "websocket" then .ok ()
  else .error (.wrongUpgrade value)

/-- The upgrade has to be among the connection options. -/
def checkConnection (value : String) : Except Refusal Unit :=
  if (Text.commaList value).any (Text.eqIgnoringCase · "upgrade") then .ok ()
  else .error (.wrongConnection value)

/-- The key has to stand for sixteen bytes. -/
def checkKey (key : String) : Except Refusal Unit :=
  match Base64.decode? key with
  | some bytes => if bytes.length = 16 then .ok () else .error .invalidKey
  | none => .error .invalidKey

/-- The version has to be 13. -/
def checkVersion (version : String) : Except Refusal Unit :=
  if version = "13" then .ok () else .error (.unsupportedVersion version)

/-- The first subprotocol the client offers that is not empty. -/
def offeredSubprotocol (request : Request) : Option String :=
  match request.header? "Sec-WebSocket-Protocol" with
  | some offered => (Text.commaList offered).find? (!·.isEmpty)
  | none => none

/-- Check an opening handshake: the method, the upgrade, the connection options,
the key and the version, in this order. -/
def ofRequest? (request : Request) : Except Refusal Handshake := do
  if request.method ≠ "GET" then throw (.wrongMethod request.method)
  checkUpgrade (← required request "Upgrade")
  checkConnection (← required request "Connection")
  let key := Text.trim (← required request "Sec-WebSocket-Key")
  checkKey key
  let version := Text.trim (← required request "Sec-WebSocket-Version")
  checkVersion version
  return { accept := acceptKey key, subprotocol := offeredSubprotocol request }

/-- The answer that completes the handshake. -/
def response (handshake : Handshake) : Bytes :=
  responseHead <|
    ["HTTP/1.1 101 Switching Protocols", "Upgrade: websocket", "Connection: Upgrade",
      "Sec-WebSocket-Accept: " ++ handshake.accept] ++
    (handshake.subprotocol.map ("Sec-WebSocket-Protocol: " ++ ·)).toList

end Handshake

end SocketGate
