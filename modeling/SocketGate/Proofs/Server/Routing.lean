import SocketGate.Proofs.Handshake.Response
import SocketGate.Proofs.Handshake.Upgrade
import SocketGate.Proofs.Server.Page
import SocketGate.Server.Router

/-!
# `SocketGate.Proofs.Server.Routing`: which way a request goes

Two parts of a server decide on their own what an upgrade request is: the router, which sends it to
a service, and the check of the handshake. They agree, so a client with a valid handshake is never
shown the page, and a request that goes to a service is never refused for its upgrade header.

The router by path takes the last route with the path of the request. `Router.Chooses` says so
about the target and the headers as they are written.

* `Router.lookUp_eq_some_iff`: of equal paths the last one counts.
* `Router.route_byPath_iff`: what a router by path does with any request.
* `Server.handled_of_run`: the two ways a request can go, after any actions on the server.
* `Server.routing_exact`: the router, the two ways and the handshake.
-/

set_option autoImplicit false

namespace SocketGate

open Http (Request)
open Text (eqIgnoringCase)

/-! ### Requests -/

namespace Http.Request

/-- The first header named upgrade is there, and it asks for WebSocket. -/
def CarriesUpgrade (request : Request) : Prop :=
  ∃ name value before behind, request.headers = before ++ (name, value) :: behind ∧
    eqIgnoringCase name "upgrade" = true ∧
    (∀ header ∈ before, eqIgnoringCase header.1 "upgrade" = false) ∧
    eqIgnoringCase (Text.trim value) "websocket" = true

theorem isUpgrade_iff_carriesUpgrade {request : Request} :
    request.isUpgrade = true ↔ request.CarriesUpgrade := by
  unfold isUpgrade
  constructor
  · intro h
    cases hvalue : request.header? "upgrade" with
    | none => simp [hvalue] at h
    | some value =>
      simp only [hvalue] at h
      obtain ⟨name, before, behind, hheaders, hname, hbefore⟩ := exists_of_header? hvalue
      exact ⟨name, value, before, behind, hheaders, hname, hbefore, h⟩
  · rintro ⟨name, value, before, behind, hheaders, hname, hbefore, hvalue⟩
    have hfind : request.headers.find? (fun header => eqIgnoringCase header.1 "upgrade") =
        some (name, value) :=
      List.find?_eq_some_iff_append.mpr
        ⟨hname, before, behind, hheaders, fun header hmem => by simp [hbefore header hmem]⟩
    simpa [header?, hfind] using hvalue

/-- The path is what stands before the first question mark of the target. -/
def HasPath (request : Request) (path : String) : Prop :=
  '?' ∉ path.toList ∧ (request.target = path ∨ ∃ query, request.target = path ++ "?" ++ query)

theorem hasPath_iff {request : Request} {path : String} :
    request.HasPath path ↔ request.path = path :=
  Text.before_eq_iff.symm

end Http.Request

/-! ### Routers -/

namespace Router

/-- Of equal paths the last one counts. -/
theorem lookUp_eq_some_iff {routes : List (String × Nat)} {path : String} {service : Nat} :
    lookUp routes path = some service ↔
      ∃ earlier later, routes = earlier ++ (path, service) :: later ∧
        ∀ route ∈ later, route.1 ≠ path := by
  rw [lookUp, Option.map_eq_some_iff]
  constructor
  · rintro ⟨⟨_, _⟩, hfind, rfl⟩
    obtain ⟨hpath, before, behind, hroutes, hbefore⟩ := List.find?_eq_some_iff_append.mp hfind
    obtain rfl : _ = path := of_decide_eq_true hpath
    refine ⟨behind.reverse, before.reverse, ?_, fun route hmem => ?_⟩
    · rw [← List.reverse_reverse routes, hroutes]
      simp
    · simpa using hbefore route (List.mem_reverse.mp hmem)
  · rintro ⟨earlier, later, rfl, hlater⟩
    refine ⟨(path, service), List.find?_eq_some_iff_append.mpr
      ⟨decide_eq_true rfl, later.reverse, earlier.reverse, by simp, fun route hmem => ?_⟩, rfl⟩
    simpa using hlater route (List.mem_reverse.mp hmem)

theorem lookUp_eq_none_iff {routes : List (String × Nat)} {path : String} :
    lookUp routes path = none ↔ ∀ route ∈ routes, route.1 ≠ path := by
  simp [lookUp]

/-- What a router by path does with a request. -/
inductive Chooses (routes : List (String × Nat)) (fallback : Option Nat) (request : Request) :
    Option Nat → Prop where
  /-- A request that does not carry an upgrade goes to no service. -/
  | plain (upgrade : ¬ request.CarriesUpgrade) : Chooses routes fallback request none
  /-- Of the routes with its path, an upgrade request takes the last one. -/
  | route (path : String) (service : Nat) (earlier later : List (String × Nat))
      (upgrade : request.CarriesUpgrade) (hasPath : request.HasPath path)
      (mem : routes = earlier ++ (path, service) :: later)
      (last : ∀ route ∈ later, route.1 ≠ path) : Chooses routes fallback request (some service)
  /-- Without such a route it goes to the fallback, if there is one. -/
  | otherwise (path : String) (upgrade : request.CarriesUpgrade) (hasPath : request.HasPath path)
      (unknown : ∀ route ∈ routes, route.1 ≠ path) : Chooses routes fallback request fallback

theorem route_byPath_iff {routes : List (String × Nat)} {fallback : Option Nat}
    {request : Request} {chosen : Option Nat} :
    (byPath routes fallback).route request = chosen ↔ Chooses routes fallback request chosen := by
  have hroute : (byPath routes fallback).route request =
      if request.isUpgrade then (lookUp routes request.path).or fallback else none := rfl
  constructor
  · rintro rfl
    rw [hroute]
    by_cases hupgrade : request.isUpgrade = true
    · rw [if_pos hupgrade]
      have hcarries := Request.isUpgrade_iff_carriesUpgrade.mp hupgrade
      have hpath : request.HasPath request.path := Request.hasPath_iff.mpr rfl
      cases hfound : lookUp routes request.path with
      | none => exact .otherwise _ hcarries hpath (lookUp_eq_none_iff.mp hfound)
      | some service =>
        obtain ⟨earlier, later, hroutes, hlater⟩ := lookUp_eq_some_iff.mp hfound
        exact .route _ service earlier later hcarries hpath hroutes hlater
    · rw [if_neg hupgrade]
      exact .plain (mt Request.isUpgrade_iff_carriesUpgrade.mpr hupgrade)
  · rintro (hplain | ⟨path, service, earlier, later, hcarries, hpath, hroutes, hlater⟩ |
      ⟨path, hcarries, hpath, hunknown⟩)
    · rw [hroute, if_neg (mt Request.isUpgrade_iff_carriesUpgrade.mp hplain)]
    · rw [hroute, if_pos (Request.isUpgrade_iff_carriesUpgrade.mpr hcarries),
        Request.hasPath_iff.mp hpath, lookUp_eq_some_iff.mpr ⟨earlier, later, hroutes, hlater⟩,
        Option.some_or]
    · rw [hroute, if_pos (Request.isUpgrade_iff_carriesUpgrade.mpr hcarries),
        Request.hasPath_iff.mp hpath, lookUp_eq_none_iff.mpr hunknown, Option.none_or]

/-- An upgrade request whose path has two routes. -/
example : (byPath [("/echo", 0), ("/chat", 1), ("/echo", 2)] (some 3)).route
    { method := "GET", target := "/echo?x=1", headers := [("UPGRADE", " WebSocket ")] } =
      some 2 := by
  decide

/-- Every upgrade request goes to the one service there is. -/
theorem route_direct_iff {service chosen : Nat} {request : Request} :
    (direct service).route request = some chosen ↔ request.isUpgrade = true ∧ service = chosen := by
  show (if request.isUpgrade then some service else none) = some chosen ↔ _
  cases request.isUpgrade <;> simp

/-- Only upgrade requests are sent to a service by their path. -/
theorem isUpgrade_of_byPath {routes : List (String × Nat)} {fallback : Option Nat} {chosen : Nat}
    {request : Request} (h : (byPath routes fallback).route request = some chosen) :
    request.isUpgrade = true := by
  rw [Request.isUpgrade_iff_carriesUpgrade]
  generalize hchosen : some chosen = result at h
  cases route_byPath_iff.mp h with
  | plain => cases hchosen
  | route _ _ _ _ upgrade => exact upgrade
  | otherwise _ upgrade => exact upgrade

end Router

/-! ### The two ways -/

namespace Server

variable {σ : Type}

/-- The answer that begins when a request is handed to a service. -/
def dispatchTo (transport : Transport) (request : Request) (service : Nat) : Connection :=
  match Handshake.ofRequest? request with
  | .ok handshake => .replying transport (.upgrade request service) handshake.response
  | .error refusal => .replying transport (.refusal refusal) refusal.response

/-- Which way a request goes that a connection has sent, when some actions have been done since.
Both ways begin with the request as it is and the stream behind it. -/
inductive Handled (site : Site σ) (request : Request) (transport : Transport) (start : History σ)
    (actions : List Action) (slot : Nat) (connection : Connection) : Prop where
  /-- It goes to a service, and it is never shown the page. -/
  | service (number : Nat) (chosen : site.route request = some number)
      (begins : answer site transport request = dispatchTo transport request number)
      (stage : Stage site request number transport.sent
        (fun fault => start.Finds site slot actions (Connection.WriteFails fault))
        (fun fault => start.Finds site slot actions (Connection.FlushFails fault)) connection)
      (unpaged : ∀ sender unsent, connection ≠ .replying sender .page unsent)
  /-- It is shown the page. No session begins and no refusal is sent, and nobody hears of it. -/
  | page (unclaimed : site.route request = none)
      (begins : answer site transport request = .replying transport .page (site.page request))
      (stage : PageStage site request transport.sent connection)
      (untold : (start.run site actions).server.callbacks slot = start.server.callbacks slot)
      (unregistered : ∀ id, (id, slot) ∈ (start.run site actions).server.registry →
        (id, slot) ∈ start.server.registry)

/-- A request goes to the service that is chosen for it, or it is shown the page, whatever else is
done to the server. -/
theorem handled_of_run (site : Site σ) (history : History σ) {slot : Nat} {transport : Transport}
    {request : Request}
    (hanswer : history.server.connections[slot]? = some (answer site transport request))
    (actions : List Action) :
    ∃ connection, (history.run site actions).server.connections[slot]? = some connection ∧
      Handled site request transport history actions slot connection := by
  cases hroute : site.route request with
  | none =>
    obtain ⟨connection, hconnection, hstage, huntold, hunregistered⟩ :=
      page_of_run site history hroute hanswer actions
    refine ⟨connection, hconnection, .page hroute ?_ hstage huntold hunregistered⟩
    rw [answer, hroute]
  | some number =>
    obtain ⟨connection, hconnection, hstage⟩ := history.stage_of_run site hroute hanswer actions
    refine ⟨connection, hconnection, .service number hroute ?_ hstage ?_⟩
    · rw [answer, hroute]
      rfl
    · rintro sender unsent rfl
      cases hstage

/-- What becomes of any request:

- a router by path chooses the service of the last route with its path, or the fallback, for
  every request that carries an upgrade, and none for the others;
- it goes one of two ways, to the service that is chosen or to the page, with the request as it is
  and the stream behind it, whatever is done to the server later;
- if its handshake is valid, both kinds of router claim it, if the one by path has a fallback;
- if one of them claims it, its handshake is not refused for the upgrade header. -/
theorem routing_exact (request : Request) :
    (∀ routes fallback chosen, (Router.byPath routes fallback).route request = chosen ↔
      Router.Chooses routes fallback request chosen) ∧
    (∀ (site : Site σ) (history : History σ) (slot : Nat) (transport : Transport),
      history.server.connections[slot]? = some (answer site transport request) →
      ∀ actions, ∃ connection,
        (history.run site actions).server.connections[slot]? = some connection ∧
          Handled site request transport history actions slot connection) ∧
    (∀ handshake, Handshake.ofRequest? request = .ok handshake → ∀ service,
      (Router.direct service).route request = some service ∧
      ∀ routes, ((Router.byPath routes (some service)).route request).isSome) ∧
    (∀ service, (Router.direct service).route request = some service ∨
        (∃ routes fallback, (Router.byPath routes fallback).route request = some service) →
      Handshake.ofRequest? request ≠ .error (.missingHeader "Upgrade") ∧
        ∀ value, Handshake.ofRequest? request ≠ .error (.wrongUpgrade value)) := by
  refine ⟨fun _ _ _ => Router.route_byPath_iff, fun site history slot transport hanswer actions =>
    handled_of_run site history hanswer actions, ?_, ?_⟩
  · intro handshake hvalid service
    have hupgrade := Handshake.isUpgrade_of_ofRequest? hvalid
    refine ⟨Router.route_direct_iff.mpr ⟨hupgrade, rfl⟩, fun routes => ?_⟩
    show (if request.isUpgrade then (Router.lookUp routes request.path).or (some service)
      else none).isSome = true
    rw [if_pos hupgrade]
    cases Router.lookUp routes request.path <;> rfl
  · rintro service (hdirect | ⟨routes, fallback, hpath⟩)
    · exact Handshake.upgrade_ne_refusal (Router.route_direct_iff.mp hdirect).1
    · exact Handshake.upgrade_ne_refusal (Router.isUpgrade_of_byPath hpath)

end Server

end SocketGate
