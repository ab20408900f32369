import SocketGate.Frame.CloseReason
import SocketGate.Message.Basic
import SocketGate.Session.Outbox
import SocketGate.Session.State

/-!
# `SocketGate.Session.Basic`: sessions

A session is the application's end of one upgraded connection: its state, its
outbox, and what the keepalive needs to know. Every operation is a function of
the session alone; time is passed in as a number of milliseconds. Once the state
is no longer writable, nothing but one close frame and one request to shut down
enters the outbox.
-/

set_option autoImplicit false

namespace SocketGate

/-- What an application asks of a session. -/
inductive Call where
  | send (message : Message)
  | ping
  | close (code : CloseCode) (text : String)

/-- One session. -/
structure Session where
  id : SessionId
  path : String
  frameLimit : Nat
  state : SessionState := .handshakeDone
  /-- What waits for the writer. -/
  outbox : Outbox
  /-- Whether the request to shut down has been queued. -/
  shutdownQueued : Bool := false
  /-- When the last data frame came in. -/
  lastActivity : Nat
  /-- How many keepalive pings went out since the last frame came in. -/
  missedPings : UInt32 := 0
  /-- The reason of a forced close, which is reported in place of any other. -/
  forcedReason : Option CloseReason := none
  /-- Whether reading has to stop. -/
  cancelled : Bool := false
  deriving DecidableEq

namespace Session

/-- The session of a connection whose opening handshake has just been completed. -/
def fresh (id : SessionId) (path : String) (frameLimit queueLimit now : Nat) : Session where
  id := id
  path := path
  frameLimit := frameLimit
  outbox := { limit := queueLimit }
  lastActivity := now

/-- Milliseconds since the last data frame. -/
def idle (session : Session) (now : Nat) : Nat := now - session.lastActivity

/-! ### What the application calls -/

/-- Queue frames if the state allows it. A refusal changes nothing. -/
def offer (session : Session) (frames : List Frame) : Except SendRefusal Unit × Session :=
  if !session.state.isWritable then (.error .sessionClosed, session)
  else match session.outbox.push frames with
    | .error refusal => (.error refusal, session)
    | .ok outbox => (.ok (), { session with outbox })

/-- Queue a message, cut into frames. -/
def send (session : Session) (message : Message) : Except SendRefusal Unit × Session :=
  session.offer (message.fragments session.frameLimit)

/-- Queue a control frame. -/
def sendControl (session : Session) (frame : Frame) : Except SendRefusal Unit × Session :=
  if maxControlPayload < frame.payload.length then
    (.error (.controlTooLarge frame.payload.length), session)
  else session.offer [frame]

/-- Queue an empty ping. -/
def ping (session : Session) : Except SendRefusal Unit × Session :=
  session.sendControl (Frame.ping [])

/-- Queue the close frame of a reason, in the headroom if need be. -/
def putClose (session : Session) (reason : CloseReason) : Session :=
  { session with outbox := session.outbox.put (.frame (Frame.close reason)) }

/-- Begin the closing handshake. A session that is closing or closed is left
alone. -/
def close (session : Session) (code : CloseCode) (text : String) : Session :=
  if !session.state.isWritable then session
  else { session with state := .closing }.putClose (CloseReason.of code text)

/-- Carry out a call. Closing is never refused. -/
def call (session : Session) : Call → Except SendRefusal Unit × Session
  | .send message => session.send message
  | .ping => session.ping
  | .close code text => (.ok (), session.close code text)

/-! ### What the connection reports -/

/-- The session is announced: messages may come in from now on. -/
def announce (session : Session) : Session :=
  if session.state = .handshakeDone then { session with state := .opened } else session

/-- A frame came in. Any frame answers the pings so far; only a data frame counts
as activity. -/
def recordInbound (session : Session) (now : Nat) (data : Bool) : Session :=
  { session with
    missedPings := 0
    lastActivity := if data then now else session.lastActivity }

/-- Queue the answer to a ping, if the session can still send. -/
def answerPing (session : Session) (payload : Bytes) : Session :=
  (session.offer [Frame.pong payload]).2

/-- Ask the writer to shut down, once. -/
def queueShutdown (session : Session) : Session :=
  if session.shutdownQueued then session
  else { session with shutdownQueued := true, outbox := session.outbox.put .shutdown }

/-- The peer sent a close frame: answer it with the same code, unless it was the
answer to ours. -/
def acknowledgeClose (session : Session) (reason : CloseReason) : Session :=
  match session.state with
  -- The answer has no text, and a code that may not be sent is left out of it.
  | .handshakeDone | .opened =>
    ({ session with state := .closing }.putClose (CloseReason.of reason.code "")).queueShutdown
  | .closing => session.queueShutdown
  | .closed => session

/-- Say why and shut down, without waiting for the peer. -/
def breakOff (session : Session) (reason : CloseReason) : Session :=
  let session := if session.state.isWritable then session.putClose reason else session
  if session.state = .closed then session
  else { session with state := .closing }.queueShutdown

/-- Break off, have the reading stop, and have this reason reported. The first
reason given this way stands. -/
def forceClose (session : Session) (reason : CloseReason) : Session :=
  if session.state = .closed then session
  else
    -- The state may be closing already, and then no second close frame is sent.
    { session.breakOff reason with
      forcedReason := some (session.forcedReason.getD reason)
      cancelled := true }

/-- The connection is gone. -/
def markClosed (session : Session) : Session :=
  { session with state := .closed }.queueShutdown

/-! ### Keepalive -/

/-- Queue a keepalive ping and count it, if the session is open and has room. The
answer says whether it was queued. -/
def keepalive (session : Session) (payload : Bytes) : Bool × Session :=
  if session.state ≠ .opened then (false, session)
  else match session.outbox.push [Frame.ping payload] with
    | .error _ => (false, session)
    | .ok outbox =>
      (true, { session with outbox, missedPings := session.missedPings + 1 })

end Session

end SocketGate
