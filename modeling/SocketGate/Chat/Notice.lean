import SocketGate.Json.Writer

/-!
# `SocketGate.Chat.Notice`: what the room tells its members
-/

set_option autoImplicit false

namespace SocketGate.Chat

/-- What a member is told. -/
inductive Notice where
  /-- You are in, under this name. -/
  | welcome (sessionId name : String)
  | joined (name : String)
  | renamed (previous current : String)
  | said (name content : String)
  | left (name : String)
  /-- Your message was not understood. -/
  | refused (message : String)
  deriving DecidableEq

/-- The JSON object of a notice: its type first, then its members. -/
def Notice.text : Notice → String
  | .welcome sessionId name =>
    Json.writeObject [("type", "welcome"), ("session_id", sessionId), ("name", name)]
  | .joined name => Json.writeObject [("type", "joined"), ("name", name)]
  | .renamed previous current =>
    Json.writeObject [("type", "renamed"), ("from", previous), ("to", current)]
  | .said name content =>
    Json.writeObject [("type", "chat"), ("from", name), ("content", content)]
  | .left name => Json.writeObject [("type", "left"), ("name", name)]
  | .refused message => Json.writeObject [("type", "error"), ("message", message)]

end SocketGate.Chat
