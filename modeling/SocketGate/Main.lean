import SocketGate.Server.Clock
import SocketGate.Startup

/-!
# `SocketGate.Main`: a server for one connection

The program reads its arguments and its settings, and then serves one connection:
the peer's bytes come in on the standard input, and what the server sends goes to
the standard output. It is meant to be started by a listener that hands it an
accepted connection. The clock is looked at whenever the peer sends something.
-/

set_option autoImplicit false

namespace SocketGate

/-- The bytes of a file, if it can be read. -/
def readFile? (path : String) : IO (Option Bytes) := do
  try
    return some (← IO.FS.readBinFile path).data.toList
  catch _ =>
    return none

/-- Sixty-four random bits. -/
def randomWord : IO UInt64 := do
  return UInt64.ofNat (Bytes.toNatBE (← IO.getRandomBytes 8).data.toList)

/-- Ids that carry the version and the variant of random ones. -/
def idFrom (high low : UInt64) (number : Nat) : SessionId where
  high := ((high + UInt64.ofNat number) &&& 0xFFFFFFFFFFFF0FFF) ||| 0x4000
  low := (low &&& 0x3FFFFFFFFFFFFFFF) ||| 0x8000000000000000

/-- Write what the server has sent. -/
def writeSent (server : Server Hall) : IO (Server Hall) := do
  let (sent, server) := server.collect
  let output ← IO.getStdout
  for bytes in sent do
    output.write ⟨bytes.toArray⟩
  output.flush
  return server

/-- Serve the connection until it is done or the peer stops sending. -/
partial def serve (site : Site Hall) (began : Nat) (server : Server Hall) : IO Unit := do
  let server ← writeSent server
  if server.connections.all Connection.isDone then return
  let bytes ← (← IO.getStdin).read 4096
  let passed := (← IO.monoMsNow) - began - server.now.time
  let server := server.elapse site passed
  if bytes.isEmpty then
    let server := (server.applyPeer 0 .finish).settle site
    let _ ← writeSent (server.elapse site site.config.closeTimeout.toNat)
  else
    serve site began ((server.applyPeer 0 (.receive bytes.data.toList)).settle site)

end SocketGate

open SocketGate in
/-- Start, and serve one connection. -/
def main (arguments : List String) : IO UInt32 := do
  let content ← match arguments with
    | _ :: path :: _ => readFile? path
    | _ => pure none
  match Startup.prepare arguments fun _ => content with
  | .error fault =>
    IO.eprint fault.report
    return 1
  | .ok config =>
    let newId := idFrom (← randomWord) (← randomWord)
    let site := Startup.siteWith config Startup.router Startup.index newId
    let server : Server Hall := { services := Startup.hall }
    serve site (← IO.monoMsNow) ((server.connect {}).start site)
    return 0
