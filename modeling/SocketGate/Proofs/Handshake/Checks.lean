import SocketGate.Handshake

/-!
# `SocketGate.Proofs.Handshake.Checks`: the checks of an opening handshake

`Handshake.Proper` says that a request passes every check but that of its key: the method, and the
three headers that have to be there with a value of their own. A request is accepted exactly if it
is proper and its key passes, and it is answered with the answer to the key and the subprotocol it
offers. If it is proper, the key alone decides.

* `ofRequest?_eq_ok_iff`: which requests are accepted, and what with.
* `ofRequest?_of_proper`: what becomes of a proper request.
-/

set_option autoImplicit false

namespace SocketGate.Handshake

open Http (Request)

/-- Two checks pass one after the other if each of them does. -/
theorem bind_eq_ok_iff {ε α β : Type} {first : Except ε α} {next : α → Except ε β} {value : β} :
    (first >>= next) = .ok value ↔ ∃ found, first = .ok found ∧ next found = .ok value := by
  cases first with
  | error refusal => simp [bind, Except.bind]
  | ok found => simp [bind, Except.bind]

theorem required_eq_ok_iff {request : Request} {name value : String} :
    required request name = .ok value ↔ request.header? name = some value := by
  unfold required
  cases request.header? name <;> simp

theorem checkUpgrade_eq_ok_iff {value : String} :
    checkUpgrade value = .ok () ↔ Text.eqIgnoringCase (Text.trim value) "websocket" = true := by
  unfold checkUpgrade
  split <;> simp_all

theorem checkConnection_eq_ok_iff {value : String} :
    checkConnection value = .ok () ↔
      ∃ option ∈ Text.commaList value, Text.eqIgnoringCase option "upgrade" = true := by
  rw [← List.any_eq_true, checkConnection]
  split <;> simp_all

theorem checkVersion_eq_ok_iff {version : String} :
    checkVersion version = .ok () ↔ version = "13" := by
  unfold checkVersion
  split <;> simp_all

/-- A request passes every check but that of its key. -/
structure Proper (request : Request) : Prop where
  method : request.method = "GET"
  upgrade : ∃ value, request.header? "Upgrade" = some value ∧
    Text.eqIgnoringCase (Text.trim value) "websocket" = true
  connection : ∃ value, request.header? "Connection" = some value ∧
    ∃ option ∈ Text.commaList value, Text.eqIgnoringCase option "upgrade" = true
  version : ∃ value, request.header? "Sec-WebSocket-Version" = some value ∧ Text.trim value = "13"

/-- The key of a proper request decides what becomes of it. -/
theorem ofRequest?_of_proper {request : Request} {value : String} (h : Proper request)
    (hvalue : request.header? "Sec-WebSocket-Key" = some value) :
    ofRequest? request = (checkKey (Text.trim value)).map fun _ =>
      { accept := acceptKey (Text.trim value), subprotocol := offeredSubprotocol request } := by
  obtain ⟨upgrade, hupgrade, hwebsocket⟩ := h.upgrade
  obtain ⟨connection, hconnection, hoption⟩ := h.connection
  obtain ⟨version, hversion, hthirteen⟩ := h.version
  have hchecked := checkUpgrade_eq_ok_iff.mpr hwebsocket
  have hlisted := checkConnection_eq_ok_iff.mpr hoption
  have hsupported := checkVersion_eq_ok_iff.mpr hthirteen
  unfold ofRequest?
  simp only [h.method, required, hupgrade, hconnection, hvalue, hversion, ne_eq, not_true, if_false,
    bind, Except.bind, pure, Except.pure, hchecked, hlisted, hsupported]
  cases checkKey (Text.trim value) <;> rfl

/-- A request is accepted exactly if it passes every check, and this is what it is answered
with. -/
theorem ofRequest?_eq_ok_iff {request : Request} {handshake : Handshake} :
    ofRequest? request = .ok handshake ↔
      Proper request ∧ ∃ value, request.header? "Sec-WebSocket-Key" = some value ∧
        checkKey (Text.trim value) = .ok () ∧ handshake =
          { accept := acceptKey (Text.trim value), subprotocol := offeredSubprotocol request } := by
  constructor
  · intro h
    unfold ofRequest? at h
    by_cases hmethod : request.method = "GET"
    · rw [if_neg (not_not_intro hmethod)] at h
      simp only [bind_eq_ok_iff, required_eq_ok_iff] at h
      obtain ⟨upgrade, hupgrade, ⟨⟩, hchecked, connection, hconnection, ⟨⟩, hlisted, value, hvalue,
        ⟨⟩, hkey, version, hversion, ⟨⟩, hsupported, hhandshake⟩ := h
      have hproper : Proper request :=
        ⟨hmethod, ⟨upgrade, hupgrade, checkUpgrade_eq_ok_iff.mp hchecked⟩,
          ⟨connection, hconnection, checkConnection_eq_ok_iff.mp hlisted⟩,
          ⟨version, hversion, checkVersion_eq_ok_iff.mp hsupported⟩⟩
      exact ⟨hproper, value, hvalue, hkey, (Except.ok.inj hhandshake).symm⟩
    · rw [if_pos hmethod] at h
      cases h
  · rintro ⟨hproper, value, hvalue, hkey, rfl⟩
    rw [ofRequest?_of_proper hproper hvalue, hkey]
    rfl

end SocketGate.Handshake
