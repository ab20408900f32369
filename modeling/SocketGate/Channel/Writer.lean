import SocketGate.Channel.Basic
import SocketGate.Frame.Wire

/-!
# `SocketGate.Channel.Writer`: the writing side of a channel

The writer takes one item at a time off the outbox. A frame is written whole and
flushed before the next one is taken. After a close frame the writer waits for
the request to shut down; if that does not come in time, the session is
cancelled. `Channel.write` is one step and `none` while the writer has to wait.
-/

set_option autoImplicit false

namespace SocketGate.Channel

/-- The writer ends, and nothing can be queued any more. -/
def endWriter (channel : Channel) (result : Except Failure Unit) : Channel :=
  { channel with
    session := { channel.session with outbox := channel.session.outbox.detach }
    writer := .ended result }

/-- Take an item off the outbox. -/
def takeItem (channel : Channel) : Option (Outbound × Channel) :=
  channel.session.outbox.take?.map fun (item, outbox) =>
    (item, { channel with session := { channel.session with outbox } })

/-- Take the next item to write. -/
def writeNext (channel : Channel) : Option Channel :=
  match channel.takeItem with
  | none => none
  | some (.shutdown, channel) => some { channel with writer := .finishing }
  | some (.frame frame, channel) =>
    match frame.write with
    | .error violation => some (channel.endWriter (.error (.protocol violation)))
    | .ok bytes => some { channel with writer := .sending bytes (frame.opcode = .close) }

/-- Write what is left of a frame. When nothing is left, flush; after a close
frame the time of the peer begins. -/
def writeFrame (channel : Channel) (now : Moment) (unsent : Bytes) (isClose : Bool) :
    Option Channel :=
  if unsent.isEmpty then
    match channel.transport.flush with
    | .error fault => some (channel.endWriter (.error (.io fault)))
    | .ok () =>
      -- A close frame is the last one that is sent.
      let writer :=
        if isClose then .awaitingShutdown now (now.time + channel.closeTimeout) else .idle
      some { channel with writer }
  else if channel.transport.isBlocked then none
  else match channel.transport.write unsent with
    | .error fault => some (channel.endWriter (.error (.io fault)))
    | .ok (unsent, transport) =>
      some { channel with transport, writer := .sending unsent isClose }

/-- Wait for the request to shut down. Whatever else was queued is dropped; when
the time is over, the session is cancelled. -/
def awaitShutdown (channel : Channel) (time deadline : Nat) : Option Channel :=
  match channel.takeItem with
  | some (.shutdown, channel) => some { channel with writer := .finishing }
  | some (.frame _, channel) => some channel
  | none =>
    -- The peer has not answered in time, so the reader is stopped too.
    if deadline ≤ time then
      some { channel with
        session := { channel.session with cancelled := true }
        writer := .finishing }
    else none

/-- Flush and shut the sending side down. -/
def finishWriting (channel : Channel) : Channel :=
  match channel.transport.flush with
  | .error fault => channel.endWriter (.error (.io fault))
  | .ok () =>
    let (result, transport) := channel.transport.shutdown
    { channel with transport }.endWriter (result.mapError Failure.io)

/-- One step of the writer. -/
def write (channel : Channel) (now : Moment) : Option Channel :=
  match channel.writer with
  | .idle => channel.writeNext
  | .sending unsent isClose => channel.writeFrame now unsent isClose
  | .awaitingShutdown _ deadline => channel.awaitShutdown now.time deadline
  | .finishing => some channel.finishWriting
  | .ended _ | .aborted => none

end SocketGate.Channel
