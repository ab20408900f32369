/-!
# `SocketGate.IoFault`: failures of a byte stream
-/

set_option autoImplicit false

namespace SocketGate

/-- The kinds of failure of a byte stream. -/
inductive IoKind where
  /-- The bytes are not what was expected. -/
  | invalidData
  | unexpectedEnd
  | connectionReset
  /-- The peer does not read any more. -/
  | brokenPipe
  | notFound
  /-- A parameter makes no sense. -/
  | invalidInput
  | other
  deriving DecidableEq

/-- A failure of a byte stream. -/
structure IoFault where
  kind : IoKind
  message : String
  deriving DecidableEq

/-- The stream of frames ended inside a frame. -/
def IoFault.leftover : IoFault := ⟨.other, "bytes remaining on stream"⟩

end SocketGate
