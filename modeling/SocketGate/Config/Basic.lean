import SocketGate.Channel.Basic

/-!
# `SocketGate.Config.Basic`: the settings of a server

Every setting has a default. `Config.check` refuses the settings a server cannot
run with.
-/

set_option autoImplicit false

namespace SocketGate

/-- The settings of a server. Times are in milliseconds, sizes in bytes. -/
structure Config where
  bindAddress : String := "127.0.0.1:8080"
  workerThreads : UInt64 := 4
  pingInterval : UInt64 := 5000
  /-- A session without data for longer than this is expired. -/
  expiry : UInt64 := 20000
  /-- A session that left so many pings unanswered is expired. -/
  pingFailureThreshold : UInt32 := 3
  maxFrameSize : UInt64 := 16777216
  maxMessageSize : UInt64 := 67108864
  /-- How long either side of a closing handshake is waited for. -/
  closeTimeout : UInt64 := 5000
  /-- How many frames of a session may wait for its writer. -/
  maxQueuedFrames : UInt64 := 1024
  deriving DecidableEq

namespace Config

/-- What is wrong with the settings, the first thing first, or nothing. -/
def flaw? (config : Config) : Option String :=
  if config.workerThreads = 0 then some "worker_threads must be at least 1"
  else if config.pingInterval = 0 then some "ping_interval_ms must be positive"
  else if config.expiry = 0 then some "expiry_ms must be positive"
  else if config.pingFailureThreshold = 0 then some "ping_failure_threshold must be at least 1"
  else if config.maxFrameSize = 0 ∨ config.maxMessageSize = 0 then
    some "size limits must be positive"
  else if config.maxQueuedFrames = 0 then some "max_queued_frames must be at least 1"
  else none

/-- The limits of the channels of a server. -/
def limits (config : Config) : Limits where
  frame := config.maxFrameSize.toNat
  message := config.maxMessageSize.toNat
  queue := config.maxQueuedFrames.toNat
  closeTimeout := config.closeTimeout.toNat

/-- The size of the pool of worker threads: one at least. -/
def poolSize (config : Config) : Nat := max 1 config.workerThreads.toNat

end Config

end SocketGate
