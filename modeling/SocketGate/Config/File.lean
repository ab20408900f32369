import SocketGate.Config.Basic
import SocketGate.Json.Value

/-!
# `SocketGate.Config.File`: settings from a JSON text

A file of settings is a JSON object whose members are settings. Members with
other names are skipped, settings that are not there keep their default, and a
setting that is there twice is a fault. An array is read as well: its elements
are the settings in their order.
-/

set_option autoImplicit false

namespace SocketGate

/-- Why there are no settings. -/
inductive ConfigFault where
  /-- The file cannot be read. -/
  | io (fault : IoFault)
  /-- The text does not say settings. -/
  | json (fault : Json.Fault)
  /-- A server cannot run with the settings. -/
  | invalid (flaw : String)

/-- The wording of a fault. -/
def ConfigFault.message : ConfigFault → String
  | .io fault => "IO error: " ++ fault.message
  | .json fault => "JSON error: " ++ fault.message
  | .invalid flaw => "invalid config: " ++ flaw

namespace Config

open Json (Parse)

/-- A setting: its name, and how its value is read and stored. -/
structure Setting where
  name : String
  read : Config → Parse Config

/-- An integer of 64 bits. -/
def word (expected : String) (store : Config → UInt64 → Config) (config : Config) :
    Parse Config := do
  return store config (UInt64.ofNat (← Parse.natural expected (UInt64.size - 1)))

/-- The address. -/
def address (config : Config) : Parse Config := do
  return { config with bindAddress := ← Parse.requireString "a string" }

/-- The number of unanswered pings, an integer of 32 bits. -/
def threshold (config : Config) : Parse Config := do
  let n ← Parse.natural "u32" (UInt32.size - 1)
  return { config with pingFailureThreshold := UInt32.ofNat n }

/-- Every setting, in order. -/
def settings : List Setting :=
  [⟨"bind_addr", address⟩,
    ⟨"worker_threads", word "usize" fun config n => { config with workerThreads := n }⟩,
    ⟨"ping_interval_ms", word "u64" fun config n => { config with pingInterval := n }⟩,
    ⟨"expiry_ms", word "u64" fun config n => { config with expiry := n }⟩,
    ⟨"ping_failure_threshold", threshold⟩,
    ⟨"max_frame_size", word "usize" fun config n => { config with maxFrameSize := n }⟩,
    ⟨"max_message_size", word "usize" fun config n => { config with maxMessageSize := n }⟩,
    ⟨"close_timeout_ms", word "u64" fun config n => { config with closeTimeout := n }⟩,
    ⟨"max_queued_frames", word "usize" fun config n => { config with maxQueuedFrames := n }⟩]

/-- Read one member; `seen` are the names of the settings before. -/
def readMember (state : Config × List String) (name : String) :
    Parse (Config × List String) := do
  let (config, seen) := state
  match settings.find? (·.name = name) with
  | none =>
    Parse.colon
    Parse.ignore
    return state
  | some setting =>
    if seen.contains name then Parse.failAfter 0x7D (.duplicateField name)
    else
      Parse.colon
      return (← setting.read config, name :: seen)

/-- Read elements for the settings that are left. -/
def readElements : List Setting → (first : Bool) → Config → Parse Config
  | [], _, config => return config
  | setting :: left, first, config => do
    if ← Parse.hasElement first then readElements left false (← setting.read config)
    else return config

/-- Read settings in either form. -/
def parse : Parse Config := do
  match ← Parse.peekPastBlanks with
  | none => Parse.failNext .endInValue
  | some 0x5B =>
    Parse.skip
    let config ← readElements settings true {}
    Parse.endArray
    return config
  | some 0x7B =>
    Parse.skip
    let (config, _) ← Parse.members readMember (← Parse.fuel) true ({}, [])
    Parse.endObject
    return config
  | some _ => Parse.failType "struct ServerConfig"

/-- The settings in the content of a file. -/
def ofBytes? (content : Bytes) : Except ConfigFault Config :=
  if (Bytes.toText? content).isNone then
    .error (.io ⟨.invalidData, "stream did not contain valid UTF-8"⟩)
  else match Parse.run parse content with
    | .error fault => .error (.json fault)
    | .ok config =>
      match config.flaw? with
      | some flaw => .error (.invalid flaw)
      | none => .ok config

end Config

end SocketGate
