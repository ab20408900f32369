import SocketGate.Session.Basic
import SocketGate.Text.Quoted

/-!
# `SocketGate.Session.Describe`: sessions as they are shown in diagnostics
-/

set_option autoImplicit false

namespace SocketGate

/-- A state as it is shown in diagnostics. -/
def SessionState.describe : SessionState → String
  | .handshakeDone => "HandshakeDone"
  | .opened => "Open"
  | .closing => "Closing"
  | .closed => "Closed"

/-- A session as it is shown in diagnostics: its id, its path and its state. -/
def Session.describe (session : Session) : String :=
  "Session \x7b id: SessionId(" ++ session.id.text ++ "), path: " ++ Text.quoted session.path ++
    ", state: " ++ session.state.describe ++ " \x7d"

end SocketGate
