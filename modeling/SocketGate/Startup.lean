import SocketGate.Config.File
import SocketGate.Server.Basic
import SocketGate.Server.Router
import SocketGate.Service.Builtin

/-!
# `SocketGate.Startup`: what a server is started with

A server is started with at most two arguments: the address to listen on, and
the path of a file of settings. An address among the arguments counts instead of
the one in the file. Whatever is wrong is reported in one line, and the file is
looked at before the address.
-/

set_option autoImplicit false

namespace SocketGate.Startup

/-! ### Settings and address -/

/-- Why a server cannot be started. -/
inductive Fault where
  | config (fault : ConfigFault)
  | address (fault : IoFault)

/-- The failure to open a file that does not exist. -/
def fileNotFound : IoFault := ⟨.notFound, "No such file or directory (os error 2)"⟩

/-- The settings in a file, of which this is the content if it exists. -/
def settingsIn? (content : Option Bytes) : Except ConfigFault Config :=
  match content with
  | none => .error (.io fileNotFound)
  | some content => Config.ofBytes? content

/-- The settings that the arguments stand for. -/
def settings? (arguments : List String) (read : String → Option Bytes) :
    Except ConfigFault Config :=
  match arguments with
  | [] => .ok {}
  | [address] => .ok { bindAddress := address }
  | address :: path :: _ =>
    (settingsIn? (read path)).map fun config => { config with bindAddress := address }

/-- The number that decimal digits stand for; a plus sign may come before
them. -/
def decimal? (text : List Char) : Option Nat :=
  let digits :=
    match text with
    | '+' :: digits => digits
    | digits => digits
  if digits.isEmpty || !digits.all Char.isDigit then none
  else some (digits.foldl (fun n c => 10 * n + (c.toNat - '0'.toNat)) 0)

/-- The text after the last colon, if there is a colon. -/
def afterLastColon? (address : String) : Option (List Char) :=
  if address.toList.contains ':' then
    some (address.toList.reverse.takeWhile (· ≠ ':')).reverse
  else none

/-- An address needs a colon, and after the last one a number of sixteen bits. -/
def checkAddress (address : String) : Except IoFault Unit :=
  match afterLastColon? address with
  | none => .error ⟨.invalidInput, "invalid socket address"⟩
  | some digits =>
    if (decimal? digits).any (· < UInt16.size) then .ok ()
    else .error ⟨.invalidInput, "invalid port value"⟩

/-- The settings to start with. -/
def prepare (arguments : List String) (read : String → Option Bytes) : Except Fault Config :=
  match settings? arguments read with
  | .error fault => .error (.config fault)
  | .ok config =>
    match checkAddress config.bindAddress with
    | .error fault => .error (.address fault)
    | .ok () => .ok config

/-! ### Reports -/

/-- The name of a kind of failure. -/
def kindName : IoKind → String
  | .invalidData => "InvalidData"
  | .unexpectedEnd => "UnexpectedEof"
  | .connectionReset => "ConnectionReset"
  | .brokenPipe => "BrokenPipe"
  | .notFound => "NotFound"
  | .invalidInput => "InvalidInput"
  | .other => "Other"

/-- A failure in a report. One of the operating system is shown by its number. -/
def describeIo (fault : IoFault) : String :=
  if fault = fileNotFound then
    "Os \x7b code: 2, kind: NotFound, message: \"No such file or directory\" \x7d"
  else
    "Error \x7b kind: " ++ kindName fault.kind ++ ", message: " ++ Text.quoted fault.message ++
      " \x7d"

/-- A fault of a JSON text in a report. -/
def describeJson (fault : Json.Fault) : String :=
  let place := fault.place.getD ⟨0, 0⟩
  "Error(" ++ Text.quoted fault.cause.message ++ s!", line: {place.line}, column: {place.column})"

/-- A fault in a report. -/
def Fault.describe : Fault → String
  | .config (.io fault) => "Io(" ++ describeIo fault ++ ")"
  | .config (.json fault) => "Json(" ++ describeJson fault ++ ")"
  | .config (.invalid flaw) => "Invalid(" ++ Text.quoted flaw ++ ")"
  | .address fault => describeIo fault

/-- The report of a fault. -/
def Fault.report (fault : Fault) : String :=
  "Error: " ++ fault.describe ++ "\n"

/-! ### What is served -/

/-- The services: an echo and a room. -/
def hall : Hall := [.echo, .chat []]

/-- The paths of the services. -/
def router : Router := .byPath [("/echo", 0), ("/chat", 1)] none

/-- The page for everything else. -/
def index : String := "WebSocket endpoints: /echo, /chat\n"

/-- A site that answers with one page whatever goes to no service. -/
def siteWith (config : Config) (router : Router) (page : String) (newId : Nat → SessionId) :
    Site Hall where
  config := config
  route := router.route
  page := fun _ => Http.textResponse "200 OK" page
  application := Hall.application
  newId := newId

end SocketGate.Startup
