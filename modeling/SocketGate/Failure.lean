import SocketGate.Frame.Violation
import SocketGate.Handshake
import SocketGate.IoFault
import SocketGate.Session.Outbox

/-!
# `SocketGate.Failure`: what can end a connection early
-/

set_option autoImplicit false

namespace SocketGate

/-- Why a connection failed. -/
inductive Failure where
  /-- The request was no opening handshake. -/
  | handshake (refusal : Refusal)
  | protocol (violation : Violation)
  /-- The byte stream failed. -/
  | io (fault : IoFault)
  /-- Something could not be sent. -/
  | send (refusal : SendRefusal)
  deriving DecidableEq

/-- The wording of a failure. -/
def Failure.message : Failure → String
  | .handshake refusal => "Handshake error: " ++ refusal.message
  | .protocol violation => "Protocol error: " ++ violation.message
  | .io fault => "IO error: " ++ fault.message
  | .send refusal => "Send error: " ++ refusal.message

end SocketGate
