import SocketGate.Channel.Basic

/-!
# `SocketGate.Channel.Reader`: the reading side of a channel

While it reads, the reader waits for three things at once: the session is
cancelled, the writer ends, or the source has something to say. Which of the
ready ones it takes is a choice made outside; `Channel.read` is the step for one
choice, and it is `none` if that choice is not ready. A step reports at most one
event. The loop is left in two further steps: the session is marked closed, and
after the writer has ended or run out of time the close is reported.
-/

set_option autoImplicit false

namespace SocketGate

/-- What the reader can wait for. -/
inductive Wakeup where
  | cancelled
  | writerEnded
  /-- A frame, a violation, a failure, or the end of the stream. -/
  | inbound
  /-- The loop has been left, or the wait for the writer is over. -/
  | wrapUp
  deriving DecidableEq

/-- Every wakeup, in the order in which they are tried. -/
def Wakeup.all : List Wakeup := [.cancelled, .writerEnded, .inbound, .wrapUp]

namespace Channel

/-- The outcome of a step: the channel after it, and an event to report. -/
abbrev Step := Channel × Option Event

/-- Leave the loop, and report an event if there is one. -/
def leave (channel : Channel) (reason : CloseReason) (event : Option Event) : Step :=
  ({ channel with reader := .leaving reason }, event)

/-- The reason to report where no other is known: that of a forced close, or that
the connection was lost. -/
def lossReason (channel : Channel) : CloseReason :=
  channel.session.forcedReason.getD CloseReason.abnormal

/-- The peer broke a rule: say so in a close frame and leave. -/
def rejectPeer (channel : Channel) (violation : Violation) : Step :=
  let reason := CloseReason.of violation.closeCode violation.message
  { channel with session := channel.session.breakOff reason }.leave reason
    (some (.failed (.protocol violation)))

/-- A close frame came in. -/
def receiveClose (channel : Channel) (time : Nat) (payload : Bytes) : Step :=
  match CloseReason.ofPayload? payload with
  | .error violation => channel.rejectPeer violation
  | .ok reason =>
    let session := (channel.session.recordInbound time false).acknowledgeClose reason
    { channel with session }.leave reason none

/-- A data frame came in. After the closing handshake has begun it is dropped. -/
def receiveData (channel : Channel) (time : Nat) (frame : Frame) : Step :=
  let channel := { channel with session := channel.session.recordInbound time true }
  -- Frames that come in after a close frame went out count as activity, but are dropped.
  if channel.session.state ≠ .opened then (channel, none)
  else
    let (result, assembler) := channel.assembler.push frame
    let channel := { channel with assembler }
    match result with
    | .error violation => channel.rejectPeer violation
    | .ok message => (channel, message.map .received)

/-- A frame came in. -/
def receive (channel : Channel) (time : Nat) (frame : Frame) : Step :=
  match frame.opcode with
  | .ping =>
    let session := (channel.session.recordInbound time false).answerPing frame.payload
    ({ channel with session }, none)
  | .pong => ({ channel with session := channel.session.recordInbound time false }, none)
  | .close => channel.receiveClose time frame.payload
  | .text | .binary | .continuation => channel.receiveData time frame

/-- Move what has arrived into the decoder. -/
def absorb (channel : Channel) : Channel :=
  { channel with
    decoder := channel.decoder.feed channel.transport.source.bytes
    transport :=
      { channel.transport with source := { channel.transport.source with bytes := [] } } }

/-- Take the next thing the source has to say: a frame or a violation, else the
failure or the end of the stream. -/
def readSource (channel : Channel) (time : Nat) : Option Step :=
  let channel := channel.absorb
  match channel.transport.source.ending, channel.decoder.next with
  | _, (.error violation, decoder) => some ({ channel with decoder }.rejectPeer violation)
  | _, (.ok (some frame), decoder) => some ({ channel with decoder }.receive time frame)
  | .unfinished, (.ok none, _) => none
  | .failed fault, (.ok none, decoder) =>
    some ({ channel with decoder }.leave CloseReason.abnormal (some (.failed (.io fault))))
  | .ended, (.ok none, decoder) =>
    -- A stream may end between two frames, but not inside one.
    let event := if decoder.buffer.isEmpty then none else some (.failed (.io .leftover))
    some ({ channel with decoder }.leave CloseReason.abnormal event)

/-- React to the end of the writer. -/
def readWriterEnd (channel : Channel) : Option Step :=
  match channel.writer with
  | .ended (.ok ()) => some (channel.leave channel.lossReason none)
  | .ended (.error failure) =>
    some (channel.leave CloseReason.abnormal (some (.failed failure)))
  | _ => none

/-- After the loop: mark the session closed and begin to wait for the writer. The
reason of a forced close outranks any other. -/
def beginDrain (channel : Channel) (now : Moment) (reason : CloseReason) : Step :=
  let reason := channel.session.forcedReason.getD reason
  ({ channel with
      session := channel.session.markClosed
      reader := .draining reason now (now.time + channel.closeTimeout) }, none)

/-- Report the close once the writer has ended; one that takes too long is
stopped. -/
def endDrain (channel : Channel) (time : Nat) (reason : CloseReason) (deadline : Nat) :
    Option Step :=
  match channel.writer with
  | .ended _ => some ({ channel with reader := .finished }, some (.closed reason))
  | _ =>
    if deadline ≤ time then
      some ({ channel with
          session := { channel.session with outbox := channel.session.outbox.detach }
          writer := .aborted
          reader := .finished }, some (.closed reason))
    else none

/-- One step of the reader. -/
def read (channel : Channel) (now : Moment) (wakeup : Wakeup) : Option Step :=
  match channel.reader, wakeup with
  | .reading, .cancelled =>
    if channel.session.cancelled then some (channel.leave channel.lossReason none) else none
  | .reading, .writerEnded => channel.readWriterEnd
  | .reading, .inbound => channel.readSource now.time
  | .leaving reason, .wrapUp => some (channel.beginDrain now reason)
  | .draining reason _ deadline, .wrapUp => channel.endDrain now.time reason deadline
  -- No reader waits for anything else.
  | _, _ => none

end Channel

end SocketGate
