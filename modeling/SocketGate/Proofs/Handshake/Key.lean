import SocketGate.Proofs.Base64
import SocketGate.Proofs.Handshake.Checks
import SocketGate.Proofs.Text.Blank

/-!
# `SocketGate.Proofs.Handshake.Key`: which keys are accepted

A key is accepted exactly if it is the base64 encoding of sixteen bytes, and then of no others. All
other keys are refused in the same way. White space around the key is no part of it, so it changes
neither whether the key is accepted nor what the server answers.

* `checkKey_eq_ok_iff`: which keys pass their check.
* `key_of_proper`: when a request that passes every other check is accepted, and what with.
-/

set_option autoImplicit false

namespace SocketGate.Handshake

open Http (Request)

/-! ### The check of the key -/

/-- A key passes exactly if it is the encoding of sixteen bytes. -/
theorem checkKey_eq_ok_iff (key : String) :
    checkKey key = .ok () ↔ ∃ nonce, nonce.length = 16 ∧ Base64.encode nonce = key := by
  unfold checkKey
  cases hdecode : Base64.decode? key with
  | none =>
    constructor
    · intro h
      cases h
    · rintro ⟨nonce, -, hkey⟩
      rw [Base64.decode?_eq_some_iff.mpr hkey] at hdecode
      cases hdecode
  | some bytes =>
    have hbytes := Base64.decode?_eq_some_iff.mp hdecode
    by_cases hlength : bytes.length = 16
    · simp only [hlength, if_true, true_iff]
      exact ⟨bytes, hlength, hbytes⟩
    · simp only [hlength, if_false, reduceCtorEq, false_iff]
      rintro ⟨nonce, hnonce, hkey⟩
      rw [Base64.encode_injective (hbytes.trans hkey.symm)] at hlength
      exact hlength hnonce

/-- Keys that are no encoding of sixteen bytes: none at all, one without its padding, one that has
bits left over, one with a letter of another alphabet, one with white space inside, and those of
fifteen and of seventeen bytes. -/
example : ∀ key ∈ ["", "dGhlIHNhbXBsZSBub25jZQ", "dGhlIHNhbXBsZSBub25jZR==",
    "dGhlIHNhbXBsZSBub25jZ_==", "dGhlIHNhbXBs ZSBub25jZQ==", "dGhlIHNhbXBsZSBub25j",
    "dGhlIHNhbXBsZSBub25jZSE="], checkKey key = .error .invalidKey := by
  decide +kernel

/-- There is one way to refuse a key. -/
theorem checkKey_cases (key : String) :
    checkKey key = .ok () ∨ checkKey key = .error .invalidKey := by
  unfold checkKey
  cases Base64.decode? key with
  | none => exact .inr rfl
  | some bytes =>
    by_cases hlength : bytes.length = 16
    · exact .inl (if_pos hlength)
    · exact .inr (if_neg hlength)

/-- Sixteen bytes take twenty-four letters. -/
theorem length_of_encode {nonce : Bytes} {key : String} (hlength : nonce.length = 16)
    (hkey : Base64.encode nonce = key) : key.length = 24 := by
  rw [← hkey, Base64.encode, String.length_ofList, Base64.length_encodeChars, hlength]

/-! ### Requests -/

/-- What becomes of a request that passes every check but that of its key. It is accepted exactly
if the trimmed key is the encoding of sixteen bytes, and there is one such byte string then. An
accepted key has twenty-four letters and is answered as it stands without white space, and every
other key is refused as such. So white space around a key never makes a difference. -/
theorem key_of_proper (request : Request) (value : String) (h : Proper request)
    (hvalue : request.header? "Sec-WebSocket-Key" = some value) :
    ((∃ handshake, ofRequest? request = .ok handshake) ↔
      ∃! nonce : Bytes, nonce.length = 16 ∧ Base64.encode nonce = Text.trim value) ∧
    (∀ handshake, ofRequest? request = .ok handshake →
      (Text.trim value).length = 24 ∧ handshake.accept = acceptKey (Text.trim value)) ∧
    ((¬ ∃ handshake, ofRequest? request = .ok handshake) →
      ofRequest? request = .error .invalidKey) ∧
    (∀ other left right, Proper other →
      (∀ c ∈ left.toList ++ right.toList, Text.isBlank c = true) →
      other.header? "Sec-WebSocket-Key" = some (left ++ value ++ right) →
      (ofRequest? other).map (·.accept) = (ofRequest? request).map (·.accept)) := by
  have hrequest := ofRequest?_of_proper h hvalue
  have hspace : ∀ other left right, Proper other →
      (∀ c ∈ left.toList ++ right.toList, Text.isBlank c = true) →
      other.header? "Sec-WebSocket-Key" = some (left ++ value ++ right) →
      (ofRequest? other).map (·.accept) = (ofRequest? request).map (·.accept) := by
    intro other left right hother hblank hkey
    rw [hrequest, ofRequest?_of_proper hother hkey, Text.trim_append value hblank]
    cases checkKey (Text.trim value) <;> rfl
  -- The key passes its check or it does not, and every statement follows from which it is.
  rcases checkKey_cases (Text.trim value) with hcheck | hcheck
  · obtain ⟨nonce, hlength, hkey⟩ := (checkKey_eq_ok_iff _).mp hcheck
    rw [hcheck] at hrequest
    have haccepted : ∃ handshake, ofRequest? request = .ok handshake := ⟨_, hrequest⟩
    refine ⟨iff_of_true haccepted ⟨nonce, ⟨hlength, hkey⟩, ?_⟩, ?_, ?_, hspace⟩
    · intro other hother
      exact Base64.encode_injective (hother.2.trans hkey.symm)
    · intro handshake hhandshake
      rw [hrequest] at hhandshake
      cases hhandshake
      exact ⟨length_of_encode hlength hkey, rfl⟩
    · intro hrefused
      exact absurd haccepted hrefused
  · rw [hcheck] at hrequest
    have hrefused : ¬ ∃ handshake, ofRequest? request = .ok handshake := by
      rintro ⟨handshake, hhandshake⟩
      rw [hrequest] at hhandshake
      cases hhandshake
    refine ⟨iff_of_false hrefused ?_, ?_, fun _ => hrequest, hspace⟩
    · rintro ⟨nonce, hnonce, -⟩
      rw [(checkKey_eq_ok_iff _).mpr ⟨nonce, hnonce⟩] at hcheck
      cases hcheck
    · intro handshake hhandshake
      exact absurd ⟨handshake, hhandshake⟩ hrefused

/-- A key with white space around it, as a request has it that was not read off a stream. -/
theorem key_of_proper_spacedKey :
    let request : Request :=
      { method := "GET", target := "/chat",
        headers := [("UPGRADE", " WebSocket"), ("Connection", "keep-alive, Upgrade"),
          ("Sec-WebSocket-Key", "\tdGhlIHNhbXBsZSBub25jZQ== "), ("Sec-WebSocket-Version", "13")] }
    (Proper request ∧
      request.header? "Sec-WebSocket-Key" = some "\tdGhlIHNhbXBsZSBub25jZQ== ") ∧
    ∃ handshake, ofRequest? request = .ok handshake ∧
      handshake.accept = "s3pPLMBiTxaQ9kYGzzhZRbK+xOo=" := by
  intro request
  have hproper : Proper request :=
    ⟨rfl, ⟨" WebSocket", by decide +kernel, by decide +kernel⟩,
      ⟨"keep-alive, Upgrade", by decide +kernel, by decide +kernel⟩,
      ⟨"13", by decide +kernel, by decide +kernel⟩⟩
  have hvalue : request.header? "Sec-WebSocket-Key" = some "\tdGhlIHNhbXBsZSBub25jZQ== " := by
    decide +kernel
  have htrim : Text.trim "\tdGhlIHNhbXBsZSBub25jZQ== " = "dGhlIHNhbXBsZSBub25jZQ==" := by
    decide +kernel
  have hnonce : Base64.encode (Bytes.ofText "the sample nonce") = "dGhlIHNhbXBsZSBub25jZQ==" := by
    decide +kernel
  have haccept : acceptKey "dGhlIHNhbXBsZSBub25jZQ==" = "s3pPLMBiTxaQ9kYGzzhZRbK+xOo=" := by
    decide +kernel
  obtain ⟨haccepted, hanswer, -⟩ := key_of_proper request _ hproper hvalue
  rw [htrim] at haccepted hanswer
  obtain ⟨handshake, hhandshake⟩ := haccepted.mpr ⟨Bytes.ofText "the sample nonce",
    ⟨by decide +kernel, hnonce⟩, fun other hother =>
      Base64.encode_injective (hother.2.trans hnonce.symm)⟩
  exact ⟨⟨hproper, hvalue⟩, handshake, hhandshake,
    (hanswer handshake hhandshake).2.trans haccept⟩

end SocketGate.Handshake
