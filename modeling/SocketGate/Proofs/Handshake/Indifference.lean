import Mathlib.Logic.Equiv.Basic
import Mathlib.Logic.Relation
import SocketGate.Proofs.Handshake.Upgrade

/-!
# `SocketGate.Proofs.Handshake.Indifference`: what a handshake does not look at

The check of an opening handshake reads the method and five headers, of each the first one.
Proxies pass headers on in another order, write their names in another way, and add some of their
own. `Change` lists what may be done to a request without any effect: the outcome is the same, be
it the answer or the refusal.

* `ofRequest?_congr`: the method and the values of the five headers decide.
* `ofRequest?_of_changes`: any number of changes, there and back.
-/

set_option autoImplicit false

namespace SocketGate.Handshake

open Http (Request Recased Reordered isNamed valueOf?_recased
  valueOf?_reordered valueOf?_insert)
open Text (eqIgnoringCase eqIgnoringCase_congr eqIgnoringCase_refl)

/-- The names of the headers that an opening handshake is about. -/
def headerNames : List String :=
  ["Upgrade", "Connection", "Sec-WebSocket-Key", "Sec-WebSocket-Version", "Sec-WebSocket-Protocol"]

/-- The method and the values of the five headers decide what becomes of a request. -/
theorem ofRequest?_congr {request other : Request} (hmethod : other.method = request.method)
    (hheaders : ∀ name ∈ headerNames, other.header? name = request.header? name) :
    ofRequest? other = ofRequest? request := by
  have hrequired (name : String) (hname : name ∈ headerNames) :
      required other name = required request name := by
    rw [required, required, hheaders name hname]
  have hoffered : offeredSubprotocol other = offeredSubprotocol request := by
    rw [offeredSubprotocol, offeredSubprotocol, hheaders _ (by decide)]
  unfold ofRequest?
  rw [hmethod, hrequired "Upgrade" (by decide), hrequired "Connection" (by decide),
    hrequired "Sec-WebSocket-Key" (by decide), hrequired "Sec-WebSocket-Version" (by decide),
    hoffered]

/-! ### Changes -/

/-- A change that a handshake does not look at. -/
inductive Change : Request → Request → Prop where
  | target (request : Request) (target : String) : Change request { request with target }
  | version (request : Request) (version : String) : Change request { request with version }
  /-- The names of the headers are written in another case. -/
  | recase (request : Request) (headers : List (String × String))
      (recased : Recased request.headers headers) : Change request { request with headers }
  /-- Headers of different names are put in another order. -/
  | reorder (request : Request) (headers : List (String × String))
      (reordered : Reordered request.headers headers) : Change request { request with headers }
  /-- A header of another name is put in anywhere. -/
  | add (request : Request) (before after : List (String × String)) (header : String × String)
      (place : request.headers = before ++ after)
      (unread : ∀ name ∈ headerNames, eqIgnoringCase header.1 name = false) :
      Change request { request with headers := before ++ header :: after }
  /-- A header is put in anywhere behind one of the same name. -/
  | double (request : Request) (before after : List (String × String))
      (first header : String × String) (place : request.headers = before ++ after)
      (mem : first ∈ before) (same : eqIgnoringCase first.1 header.1 = true) :
      Change request { request with headers := before ++ header :: after }

namespace Change

variable {request other : Request}

theorem method_eq (h : Change request other) : other.method = request.method := by
  cases h <;> rfl

/-- A change leaves the values of the five headers as they are. -/
theorem header?_eq (h : Change request other) {name : String} (hname : name ∈ headerNames) :
    other.header? name = request.header? name := by
  cases h with
  | target target => rfl
  | version version => rfl
  | recase headers recased => exact valueOf?_recased recased name
  | reorder headers reordered => exact valueOf?_reordered reordered name
  | add before after header place unread =>
    have hnot : isNamed name header = true → ∃ first ∈ before, isNamed name first = true := by
      intro hnamed
      rw [isNamed, unread name hname] at hnamed
      cases hnamed
    rw [request.header?_eq_valueOf?, place]
    exact valueOf?_insert after hnot
  | double before after first header place mem same =>
    have hbehind : isNamed name header = true → ∃ first ∈ before, isNamed name first = true := by
      intro hnamed
      exact ⟨first, mem, (eqIgnoringCase_congr same (eqIgnoringCase_refl name)).trans hnamed⟩
    rw [request.header?_eq_valueOf?, place]
    exact valueOf?_insert after hbehind

theorem ofRequest?_eq (h : Change request other) : ofRequest? other = ofRequest? request :=
  ofRequest?_congr h.method_eq fun _ hname => h.header?_eq hname

end Change

/-- Whatever becomes of a request, the same becomes of it after any number of changes that a
handshake does not look at, made or taken back. If it is accepted, it asks for an upgrade. -/
theorem ofRequest?_of_changes {request other : Request}
    (h : Relation.EqvGen Change request other) :
    ofRequest? other = ofRequest? request ∧
      ∀ handshake, ofRequest? request = .ok handshake → request.isUpgrade = true := by
  refine ⟨?_, fun handshake hok => isUpgrade_of_ofRequest? hok⟩
  induction h with
  | rel request other change => exact change.ofRequest?_eq
  | refl request => rfl
  | symm request other _ ih => exact ih.symm
  | trans request middle other _ _ ih ih' => exact ih'.trans ih

/-- A request that a proxy has passed on: for another target, with a cookie, with the names in
small letters and in another order, and with a second upgrade header. -/
theorem ofRequest?_of_changes_proxy :
    let request : Request :=
      { method := "GET", target := "/chat",
        headers := [("Upgrade", "websocket"), ("Connection", "Upgrade"),
          ("Sec-WebSocket-Key", "dGhlIHNhbXBsZSBub25jZQ=="), ("Sec-WebSocket-Version", "13"),
          ("Sec-WebSocket-Protocol", "chat")] }
    let other : Request :=
      { method := "GET", target := "/rooms?id=1", version := "HTTP/1.0",
        headers := [("Cookie", "a=b"), ("connection", "Upgrade"), ("upgrade", "websocket"),
          ("UPGRADE", "h2c"), ("sec-websocket-version", "13"),
          ("sec-websocket-key", "dGhlIHNhbXBsZSBub25jZQ=="), ("sec-websocket-protocol", "chat")] }
    Relation.EqvGen Change request other ∧ request.isUpgrade = true ∧
      ofRequest? other = .ok ⟨"s3pPLMBiTxaQ9kYGzzhZRbK+xOo=", some "chat"⟩ := by
  intro request other
  let recased : List (String × String) :=
    [("upgrade", "websocket"), ("connection", "Upgrade"),
      ("sec-websocket-key", "dGhlIHNhbXBsZSBub25jZQ=="), ("sec-websocket-version", "13"),
      ("sec-websocket-protocol", "chat")]
  let reordered : List (String × String) :=
    [("connection", "Upgrade"), ("upgrade", "websocket"), ("sec-websocket-version", "13"),
      ("sec-websocket-key", "dGhlIHNhbXBsZSBub25jZQ=="), ("sec-websocket-protocol", "chat")]
  have hchanges : Relation.EqvGen Change request other := by
    refine .trans _ _ _ (.rel _ _ (.target request "/rooms?id=1")) ?_
    refine .trans _ _ _ (.rel _ _ (.version _ "HTTP/1.0")) ?_
    refine .trans _ _ _ (.rel _ _ (.recase _ recased ?_)) ?_
    · repeat' constructor
    refine .trans _ _ _ (.rel _ _ (.reorder _ reordered ?_)) ?_
    · exact ⟨(Equiv.swap (0 : Fin 5) 1).trans (Equiv.swap 2 3), by decide +kernel,
        by decide +kernel⟩
    refine .trans _ _ _ (.rel _ _ (.add _ [] reordered ("Cookie", "a=b") rfl ?_)) ?_
    · decide
    exact .rel _ _ (.double _ (("Cookie", "a=b") :: reordered.take 2) (reordered.drop 2)
      ("upgrade", "websocket") ("UPGRADE", "h2c") rfl (by decide) (by decide))
  have haccepted : ofRequest? request = .ok ⟨"s3pPLMBiTxaQ9kYGzzhZRbK+xOo=", some "chat"⟩ := by
    decide +kernel
  obtain ⟨hsame, hupgrade⟩ := ofRequest?_of_changes hchanges
  exact ⟨hchanges, hupgrade _ haccepted, hsame.trans haccepted⟩

end SocketGate.Handshake
