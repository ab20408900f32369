import SocketGate.Http.Request

/-!
# `SocketGate.Server.Router`: which service a request goes to

Services are known by their number. A request that is routed to a service is
taken as an opening handshake; every other request is answered with a page. The
first two kinds of router look at upgrade requests only.
-/

set_option autoImplicit false

namespace SocketGate

open Http (Request)

/-- A rule that picks services for requests. -/
inductive Router where
  /-- Every upgrade request goes to one service. -/
  | direct (service : Nat)
  /-- An upgrade request goes to the service of its path; of equal paths the last
  one counts. The other upgrade requests go to the fallback, if there is one. -/
  | byPath (routes : List (String × Nat)) (fallback : Option Nat)
  /-- Every request whose target starts like this goes to one service, be it an
  upgrade request or not. -/
  | byTarget (start : String) (service : Nat)
  deriving DecidableEq

namespace Router

/-- The service of the last route with this path. -/
def lookUp (routes : List (String × Nat)) (path : String) : Option Nat :=
  (routes.reverse.find? (·.1 = path)).map (·.2)

/-- The service a request goes to. -/
def route (router : Router) (request : Request) : Option Nat :=
  match router with
  | .direct service => if request.isUpgrade then some service else none
  | .byPath routes fallback =>
    if request.isUpgrade then (lookUp routes request.path).or fallback else none
  | .byTarget start service =>
    if start.toList.isPrefixOf request.target.toList then some service else none

end Router

end SocketGate
