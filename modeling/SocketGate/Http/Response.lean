import SocketGate.Bytes

/-!
# `SocketGate.Http.Response`: response heads

A response head is a list of lines, each ended by CR LF, and an empty line.
-/

set_option autoImplicit false

namespace SocketGate.Http

/-- The head made of these lines. -/
def responseHead (lines : List String) : Bytes :=
  Bytes.ofText (String.join (lines.map (· ++ "\r\n")) ++ "\r\n")

/-- A plain text under a status line, for a connection that is closed after
it. -/
def textResponse (status body : String) : Bytes :=
  responseHead
    ["HTTP/1.1 " ++ status, "Connection: close", "Content-Type: text/plain",
      s!"Content-Length: {body.utf8ByteSize}"] ++ Bytes.ofText body

end SocketGate.Http
