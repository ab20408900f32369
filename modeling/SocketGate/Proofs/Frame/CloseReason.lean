import SocketGate.Frame.CloseReason
import SocketGate.Proofs.Bytes

/-!
# `SocketGate.Proofs.Frame.CloseReason`: close reasons in a control frame

`Text.clip` keeps whole characters, and never more bytes than there is room for. So the
payload of every reason that is built by `CloseReason.of` is short enough for a control
frame (`CloseReason.length_toPayload_of`), whatever text was asked for.

* `CloseReason.ofPayload?_toPayload`: a reason that may be sent is read as it was.
* `CloseReason.ofPayload?_answer`: the answer to a close frame has its code and no text.
* `CloseReason.ofPayload?_eq_ok_iff`: the payloads that are read, and what is read off them.
* `CloseReason.payload_exact`: reading and writing undo each other, wherever either of them has
  something to say.
-/

set_option autoImplicit false

namespace SocketGate

namespace Text

/-- The characters that are kept fit into the room. -/
theorem utf8ByteSize_clipChars_le (room : Nat) (chars : List Char) :
    (String.ofList (clipChars room chars)).utf8ByteSize ≤ room := by
  induction chars generalizing room with
  | nil => simp [clipChars]
  | cons c rest ih =>
    rw [clipChars]
    split
    · -- The first character is kept, and the others get the room that is left.
      rename_i hfits
      have hrest := ih (room - c.utf8Size)
      rw [← List.singleton_append, String.ofList_append, String.utf8ByteSize_append]
      have hone : (String.ofList [c]).utf8ByteSize = c.utf8Size := by
        rw [← String.singleton_eq_ofList, String.utf8ByteSize_singleton]
      omega
    · simp

/-- A clipped text fits into the room. -/
theorem utf8ByteSize_clip_le (room : Nat) (text : String) :
    (clip room text).utf8ByteSize ≤ room := by
  unfold clip
  split
  · assumption
  · exact utf8ByteSize_clipChars_le room text.toList

end Text

namespace CloseReason

/-- The payload of a reason is its code, if it may be sent, and its text. -/
theorem length_toPayload_le (reason : CloseReason) :
    reason.toPayload.length ≤ 2 + reason.text.utf8ByteSize := by
  unfold toPayload
  split
  · rw [List.length_append, Bytes.length_ofNatBE]
    exact Nat.le_refl _
  · exact Nat.zero_le _

/-- A reason that is built from a code and a text fits into a control frame. -/
theorem length_toPayload_of (code : CloseCode) (text : String) :
    (of code text).toPayload.length ≤ maxControlPayload := by
  have hpayload := length_toPayload_le (of code text)
  have htext : (of code text).text.utf8ByteSize ≤ maxText :=
    Text.utf8ByteSize_clip_le maxText text
  unfold maxText at htext
  have hmax : maxControlPayload = 125 := rfl
  omega

end CloseReason

/-! ### Reasons on the wire -/

theorem CloseCode.number_ofNumber (number : UInt16) : (ofNumber number).number = number := by
  unfold ofNumber
  split
  case h_11 => rfl
  all_goals
    rename_i h
    exact UInt16.toNat_inj.mp h.symm

namespace CloseReason

/-- The code of a reason may be sent, and it has a name if its number has one. -/
structure Sendable (reason : CloseReason) : Prop where
  isSendable : reason.code.isSendable
  named : CloseCode.ofNumber reason.code.number = reason.code

/-- A reason that may be sent is read as it was. -/
theorem ofPayload?_toPayload {reason : CloseReason} (h : reason.Sendable) :
    ofPayload? reason.toPayload = .ok reason := by
  have hnumber : Bytes.toNatBE (Bytes.ofNatBE 2 reason.code.number.toNat) =
      reason.code.number.toNat :=
    Bytes.toNatBE_ofNatBE 2 _ reason.code.number.toNat_lt
  -- The code takes two bytes, and what follows them is the text.
  have hfield := Bytes.length_ofNatBE 2 reason.code.number.toNat
  rw [toPayload, if_pos h.isSendable]
  generalize Bytes.ofNatBE 2 reason.code.number.toNat = field at hnumber hfield
  match field, hfield with
  | [high, low], _ =>
    simp only [List.cons_append, List.nil_append, ofPayload?, hnumber, UInt16.ofNat_toNat,
      h.named, h.isSendable, if_true, Bytes.toText?_ofText]

/-- A reason without a text fits as it is. -/
theorem of_empty (code : CloseCode) : of code "" = { code, text := "" } :=
  rfl

/-- The code that was read off a payload may be sent, or the payload is empty. -/
theorem sendable_of_ofPayload? {payload : Bytes} {reason : CloseReason}
    (h : ofPayload? payload = .ok reason) :
    payload = [] ∧ reason = { code := .noStatus, text := "" } ∨
      payload ≠ [] ∧ reason.Sendable := by
  unfold ofPayload? at h
  split at h
  · cases h
    exact .inl ⟨rfl, rfl⟩
  · cases h
  · dsimp only at h
    split at h
    · rename_i hsendable
      split at h
      · cases h
        refine .inr ⟨nofun, hsendable, ?_⟩
        rw [CloseCode.number_ofNumber]
      · cases h
    · cases h

/-- A payload that gives no reason is an invalid one. -/
theorem eq_invalidClose_of_ofPayload? {payload : Bytes} {violation : Violation}
    (h : ofPayload? payload = .error violation) : violation = .invalidClose := by
  unfold ofPayload? at h
  split at h
  · cases h
  · cases h
    rfl
  · dsimp only at h
    split at h
    · split at h <;> cases h
      rfl
    · cases h
      rfl

/-- The answer to a close frame is read as its code without a text. The answer to an empty
payload is empty. -/
theorem ofPayload?_answer {payload : Bytes} {reason : CloseReason}
    (h : ofPayload? payload = .ok reason) :
    ofPayload? (of reason.code "").toPayload = .ok { reason with text := "" } ∧
      (payload = [] → (of reason.code "").toPayload = []) := by
  rw [of_empty]
  obtain ⟨-, rfl⟩ | ⟨hpayload, hsendable⟩ := sendable_of_ofPayload? h
  · exact ⟨rfl, fun _ => rfl⟩
  · have hempty : { reason with text := "" }.Sendable := ⟨hsendable.isSendable, hsendable.named⟩
    exact ⟨ofPayload?_toPayload hempty, fun hnone => absurd hnone hpayload⟩

end CloseReason

/-! ### All payloads -/

namespace CloseCode

/-- The numbers that a close frame may hold. -/
def MayBeSent (number : Nat) : Prop :=
  1000 ≤ number ∧ number ≤ 1003 ∨ 1007 ≤ number ∧ number ≤ 1014 ∨ 3000 ≤ number ∧ number ≤ 4999

instance (number : Nat) : Decidable (MayBeSent number) :=
  inferInstanceAs (Decidable (_ ∨ _))

theorem sendableNumber_iff (number : Nat) : sendableNumber number ↔ MayBeSent number := by
  simp [sendableNumber, MayBeSent, or_assoc]

/-- The codes that have a name agree with the ranges: the names in the ranges may be sent, and
1005 and 1006, which have one too, are in the gap between them. -/
theorem isSendable_ofNumber_iff (number : UInt16) :
    (ofNumber number).isSendable ↔ MayBeSent number.toNat := by
  unfold ofNumber
  split
  case h_11 => exact sendableNumber_iff number.toNat
  all_goals
    rename_i hnumber
    rw [hnumber]
    decide

end CloseCode

namespace CloseReason

/-- The reason with this number and this text. -/
def ofNumber (number : UInt16) (text : String) : CloseReason :=
  { code := CloseCode.ofNumber number, text }

/-- The reason of a close frame that gives none. -/
def unstated : CloseReason := { code := .noStatus, text := "" }

/-- A reason that may be sent is written as the two bytes of its number and its text. -/
theorem toPayload_ofNumber {number : UInt16} (text : String)
    (hsendable : CloseCode.MayBeSent number.toNat) :
    (ofNumber number text).toPayload = Bytes.ofNatBE 2 number.toNat ++ Bytes.ofText text := by
  have hcode : (ofNumber number text).code.isSendable :=
    (CloseCode.isSendable_ofNumber_iff number).mpr hsendable
  rw [toPayload, if_pos hcode, ofNumber, CloseCode.number_ofNumber]

/-- Any other reason is written as nothing. -/
theorem toPayload_ofNumber_of_not {number : UInt16} (text : String)
    (hsendable : ¬ CloseCode.MayBeSent number.toNat) : (ofNumber number text).toPayload = [] :=
  if_neg (mt (CloseCode.isSendable_ofNumber_iff number).mp hsendable)

/-- What is written is always read: as it was, or as no reason if its number may not be sent. -/
theorem ofPayload?_toPayload_ofNumber (number : UInt16) (text : String) :
    ofPayload? (ofNumber number text).toPayload =
      .ok (if CloseCode.MayBeSent number.toNat then ofNumber number text else unstated) := by
  by_cases hsendable : CloseCode.MayBeSent number.toNat
  · rw [if_pos hsendable]
    exact ofPayload?_toPayload {
      isSendable := (CloseCode.isSendable_ofNumber_iff number).mpr hsendable
      named := congrArg CloseCode.ofNumber (CloseCode.number_ofNumber number) }
  · rw [if_neg hsendable, toPayload_ofNumber_of_not text hsendable]
    rfl

/-- Two bytes hold a number of sixteen bits, and they are the field of that number. -/
theorem number_of_bytes (high low : UInt8) :
    (UInt16.ofNat (Bytes.toNatBE [high, low])).toNat = high.toNat * 256 + low.toNat ∧
      Bytes.ofNatBE 2 (UInt16.ofNat (Bytes.toNatBE [high, low])).toNat = [high, low] := by
  have hbytes : Bytes.toNatBE [high, low] = high.toNat * 256 + low.toNat := by
    simp [Bytes.toNatBE]
  have hsmall : Bytes.toNatBE [high, low] < UInt16.size := by
    have hhigh := high.toNat_lt
    have hlow := low.toNat_lt
    rw [hbytes, UInt16.size]
    omega
  have hnumber := UInt16.toNat_ofNat_of_lt' hsmall
  refine ⟨hnumber.trans hbytes, ?_⟩
  rw [hnumber]
  exact Bytes.ofNatBE_toNatBE [high, low]

/-- The payloads that are read, each with what is read off it: the empty one, and those with a
number that may be sent in two bytes and the UTF-8 form of a text behind it. -/
theorem ofPayload?_eq_ok_iff (payload : Bytes) (reason : CloseReason) :
    ofPayload? payload = .ok reason ↔
      payload = [] ∧ reason = unstated ∨
      ∃ (number : UInt16) (text : String), CloseCode.MayBeSent number.toNat ∧
        payload = Bytes.ofNatBE 2 number.toNat ++ Bytes.ofText text ∧
        reason = ofNumber number text := by
  constructor
  · intro h
    match payload with
    | [] =>
      cases h
      exact .inl ⟨rfl, rfl⟩
    | [_] => cases h
    | high :: low :: rest =>
      dsimp only [ofPayload?] at h
      split at h
      · rename_i hsendable
        split at h
        · rename_i text htext
          cases h
          refine .inr ⟨_, text, (CloseCode.isSendable_ofNumber_iff _).mp hsendable, ?_, rfl⟩
          rw [(number_of_bytes high low).2, Bytes.ofText_of_toText? htext]
          rfl
        · cases h
      · cases h
  · rintro (⟨rfl, rfl⟩ | ⟨number, text, hsendable, rfl, rfl⟩)
    · rfl
    · rw [← toPayload_ofNumber text hsendable, ofPayload?_toPayload_ofNumber, if_pos hsendable]

/-- The payload of a close frame is read and written exactly. In order:

- a payload is read if and only if it is empty, or its first two bytes are a number that may be
  sent and the bytes behind them are the UTF-8 form of a text;
- writing what was read gives the payload back;
- a reason with any number of sixteen bits and any text is read as it was written if its number
  may be sent, and as a reason without a code and a text if not. So what is written is always
  read. -/
theorem payload_exact :
    (∀ payload : Bytes, (∃ reason, ofPayload? payload = .ok reason) ↔
      payload = [] ∨ ∃ high low rest, payload = high :: low :: rest ∧
        CloseCode.MayBeSent (high.toNat * 256 + low.toNat) ∧
        ∃ text, Bytes.ofText text = rest) ∧
    (∀ payload reason, ofPayload? payload = .ok reason → reason.toPayload = payload) ∧
    ∀ (number : UInt16) (text : String),
      ofPayload? { code := .ofNumber number, text : CloseReason }.toPayload =
        .ok (if CloseCode.MayBeSent number.toNat then { code := .ofNumber number, text }
          else { code := .noStatus, text := "" }) := by
  refine ⟨fun payload => ⟨?_, ?_⟩, fun payload reason h => ?_, ofPayload?_toPayload_ofNumber⟩
  · rintro ⟨reason, h⟩
    obtain ⟨hempty, -⟩ | ⟨number, text, hsendable, hpayload, -⟩ :=
      (ofPayload?_eq_ok_iff payload reason).mp h
    · exact .inl hempty
    · -- The field of the number is the two bytes at the front.
      have hlength := Bytes.length_ofNatBE 2 number.toNat
      have hnumber := Bytes.toNatBE_ofNatBE 2 number.toNat number.toNat_lt
      match hfield : Bytes.ofNatBE 2 number.toNat, hlength with
      | [high, low], _ =>
        rw [hfield] at hpayload hnumber
        have htwo : high.toNat * 256 + low.toNat = number.toNat := by
          rw [← hnumber]
          simp [Bytes.toNatBE]
        exact .inr ⟨high, low, Bytes.ofText text, hpayload, htwo ▸ hsendable, text, rfl⟩
  · rintro (rfl | ⟨high, low, _, rfl, hsendable, text, rfl⟩)
    · exact ⟨_, rfl⟩
    · obtain ⟨hnumber, hfield⟩ := number_of_bytes high low
      refine ⟨_, (ofPayload?_eq_ok_iff _ _).mpr (.inr
        ⟨UInt16.ofNat (Bytes.toNatBE [high, low]), text, ?_, ?_, rfl⟩)⟩
      · rwa [hnumber]
      · rw [hfield]
        rfl
  · obtain ⟨rfl, rfl⟩ | ⟨number, text, hsendable, rfl, rfl⟩ :=
      (ofPayload?_eq_ok_iff payload reason).mp h
    · rfl
    · exact toPayload_ofNumber text hsendable

end CloseReason

end SocketGate
