import SocketGate.Proofs.Handshake.Key
import SocketGate.Proofs.Http.Headers

/-!
# `SocketGate.Proofs.Handshake.Upgrade`: upgrade requests in the check of a handshake

A request that is accepted asks for an upgrade. One that asks for it passes the check of its
upgrade header, so it is refused for another reason if at all.

* `isUpgrade_of_ofRequest?`: what is accepted is an upgrade request.
* `refusal_of_isUpgrade`: what an upgrade request is refused for.
-/

set_option autoImplicit false

namespace SocketGate.Handshake

open Http (Request)
open Text (eqIgnoringCase)

/-- A request that is accepted asks for an upgrade. -/
theorem isUpgrade_of_ofRequest? {request : Request} {handshake : Handshake}
    (h : ofRequest? request = .ok handshake) : request.isUpgrade = true :=
  Request.isUpgrade_iff.mpr (ofRequest?_eq_ok_iff.mp h).1.upgrade

/-- One of two checks fails if the first one does, or it passes and the second one does. -/
theorem bind_eq_error_iff {ε α β : Type} {first : Except ε α} {next : α → Except ε β}
    {failure : ε} : (first >>= next) = .error failure ↔
      first = .error failure ∨ ∃ found, first = .ok found ∧ next found = .error failure := by
  cases first <;> simp [bind, Except.bind]

theorem required_eq_error {request : Request} {name : String} {refusal : Refusal}
    (h : required request name = .error refusal) : refusal = .missingHeader name := by
  unfold required at h
  split at h <;> cases h
  rfl

theorem checkConnection_eq_error {value : String} {refusal : Refusal}
    (h : checkConnection value = .error refusal) : refusal = .wrongConnection value := by
  unfold checkConnection at h
  split at h <;> cases h
  rfl

theorem checkVersion_eq_error {version : String} {refusal : Refusal}
    (h : checkVersion version = .error refusal) : refusal = .unsupportedVersion version := by
  unfold checkVersion at h
  split at h <;> cases h
  rfl

/-- Its method, its other headers and their values: an upgrade request is refused for no other
reason. -/
theorem refusal_of_isUpgrade {request : Request} {refusal : Refusal}
    (hupgrade : request.isUpgrade = true) (h : ofRequest? request = .error refusal) :
    refusal = .wrongMethod request.method ∨
      (∃ name ∈ ["Connection", "Sec-WebSocket-Key", "Sec-WebSocket-Version"],
        refusal = .missingHeader name) ∨
      (∃ value, refusal = .wrongConnection value) ∨ refusal = .invalidKey ∨
      ∃ version, refusal = .unsupportedVersion version := by
  obtain ⟨value, hvalue, hwebsocket⟩ := Request.isUpgrade_iff.mp hupgrade
  have hfound : required request "Upgrade" = .ok value := required_eq_ok_iff.mpr hvalue
  have hchecked : checkUpgrade value = .ok () := checkUpgrade_eq_ok_iff.mpr hwebsocket
  unfold ofRequest? at h
  by_cases hmethod : request.method = "GET"
  · rw [if_neg (not_not_intro hmethod)] at h
    simp only [hfound, hchecked, bind_eq_error_iff, reduceCtorEq, false_or, Except.ok.injEq,
      exists_eq_left', pure, Except.pure, or_false, and_false, exists_false] at h
    -- The checks behind that of the upgrade, in their order.
    obtain ⟨-, -,
      h | ⟨connection, -, h | ⟨-, -, h | ⟨key, -, h | ⟨-, -, h | ⟨version, -, h⟩⟩⟩⟩⟩⟩ := h
    · exact .inr (.inl ⟨_, by simp, required_eq_error h⟩)
    · exact .inr (.inr (.inl ⟨_, checkConnection_eq_error h⟩))
    · exact .inr (.inl ⟨_, by simp, required_eq_error h⟩)
    · rcases checkKey_cases (Text.trim key) with hkey | hkey
      · rw [hkey] at h
        cases h
      · rw [hkey] at h
        cases h
        exact .inr (.inr (.inr (.inl rfl)))
    · exact .inr (.inl ⟨_, by simp, required_eq_error h⟩)
    · exact .inr (.inr (.inr (.inr ⟨_, checkVersion_eq_error h⟩)))
  · rw [if_pos hmethod] at h
    cases h
    exact .inl rfl

/-- An upgrade request is never refused for its upgrade header. -/
theorem upgrade_ne_refusal {request : Request} (hupgrade : request.isUpgrade = true) :
    ofRequest? request ≠ .error (.missingHeader "Upgrade") ∧
      ∀ value, ofRequest? request ≠ .error (.wrongUpgrade value) := by
  refine ⟨fun h => ?_, fun value h => ?_⟩
  · rcases refusal_of_isUpgrade hupgrade h with h | ⟨name, hname, h⟩ | ⟨value, h⟩ | h | ⟨version, h⟩
    · cases h
    · cases h
      exact absurd hname (by decide)
    all_goals cases h
  · rcases refusal_of_isUpgrade hupgrade h with h | ⟨name, hname, h⟩ | ⟨value, h⟩ | h | ⟨version, h⟩
    all_goals cases h

end SocketGate.Handshake
