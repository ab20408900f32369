import SocketGate.Source

/-!
# `SocketGate.Channel.Transport`: both sides of a byte stream

A transport is a source to read from and a sink to write to. The peer grants a
window: so many bytes are accepted before a writer has to wait. Every operation
of the sink can be made to fail.
-/

set_option autoImplicit false

namespace SocketGate

/-- A byte stream to and from a peer. -/
structure Transport where
  source : Source := {}
  /-- How many bytes more are accepted, or any number. -/
  window : Option Nat := none
  writeFault : Option IoFault := none
  flushFault : Option IoFault := none
  /-- The failure of the shutdown of the sending side. -/
  shutdownFault : Option IoFault := none
  /-- The bytes that were accepted and not collected yet. -/
  sent : Bytes := []
  isShutdown : Bool := false
  deriving DecidableEq

/-- What a peer, or the network, does to a transport. -/
inductive PeerStep where
  | receive (bytes : Bytes)
  /-- The peer stops sending. -/
  | finish
  /-- Reading fails after what has arrived. -/
  | failRead (fault : IoFault)
  | failWrite (fault : IoFault)
  | failFlush (fault : IoFault)
  | failShutdown (fault : IoFault)
  | setWindow (size : Option Nat)

namespace Transport

/-- One step of the peer. -/
def apply (transport : Transport) : PeerStep → Transport
  | .receive bytes => { transport with source := transport.source.receive bytes }
  | .finish => { transport with source := transport.source.finish }
  | .failRead fault => { transport with source := transport.source.fail fault }
  | .failWrite fault => { transport with writeFault := some fault }
  | .failFlush fault => { transport with flushFault := some fault }
  | .failShutdown fault => { transport with shutdownFault := some fault }
  | .setWindow size => { transport with window := size }

/-- How many of `count` bytes the window lets through. -/
def room (transport : Transport) (count : Nat) : Nat :=
  match transport.window with
  | none => count
  | some size => min size count

/-- Write as many bytes as the window lets through, and give back the others. -/
def write (transport : Transport) (bytes : Bytes) : Except IoFault (Bytes × Transport) :=
  match transport.writeFault with
  | some fault => .error fault
  | none =>
    let count := transport.room bytes.length
    .ok (bytes.drop count,
      { transport with
        window := transport.window.map (· - count)
        sent := transport.sent ++ bytes.take count })

/-- Whether a writer with something to write has to wait. -/
def isBlocked (transport : Transport) : Bool :=
  transport.writeFault.isNone && transport.window = some 0

/-- Pass on what was written. -/
def flush (transport : Transport) : Except IoFault Unit :=
  match transport.flushFault with
  | some fault => .error fault
  | none => .ok ()

/-- Shut the sending side down. It counts as shut down even if that fails. -/
def shutdown (transport : Transport) : Except IoFault Unit × Transport :=
  (match transport.shutdownFault with
    | some fault => .error fault
    | none => .ok (),
    { transport with isShutdown := true })

/-- Collect the bytes that were accepted. -/
def collect (transport : Transport) : Bytes × Transport :=
  (transport.sent, { transport with sent := [] })

end Transport

end SocketGate
