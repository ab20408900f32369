import SocketGate.Message.Assembler
import SocketGate.Proofs.Frame.CloseReason
import SocketGate.Proofs.Frame.Stream

/-!
# `SocketGate.Proofs.Frame.Violation`: violations as the reason of a close

A violation is reported with its wording, and a close frame has room for 123 bytes of it.
The longest wordings have two numbers in them: the size of a payload and the limit for it.
`Violation.Bounded` says that they have at most twenty digits each, and then the wording is
never cut.

* `Violation.closeReason_eq`: the reason that is built from a bounded violation has its
  whole wording.
* `Decoder.Bounded.next`: the violations that a decoder meets are bounded, since a length
  field has eight bytes.
* `Assembler.Bounded.push`: so are those that an assembler meets.
-/

set_option autoImplicit false

namespace SocketGate

/-! ### The size of a wording -/

namespace Text

/-- A text of narrow characters. -/
theorem utf8ByteSize_ofList_le (width : Nat) (chars : List Char)
    (h : ∀ c ∈ chars, c.utf8Size ≤ width) :
    (String.ofList chars).utf8ByteSize ≤ width * chars.length := by
  induction chars with
  | nil => simp
  | cons c rest ih =>
    have hrest := ih fun c' hc' => h c' (List.mem_cons_of_mem c hc')
    have hfirst := h c List.mem_cons_self
    have hone : (String.ofList [c]).utf8ByteSize = c.utf8Size := by
      rw [← String.singleton_eq_ofList, String.utf8ByteSize_singleton]
    rw [← List.singleton_append, String.ofList_append, String.utf8ByteSize_append, hone,
      List.singleton_append, List.length_cons, Nat.mul_add]
    omega

/-- A decimal number takes one byte for each digit. -/
theorem utf8ByteSize_toString_le (n digits : Nat) (hdigits : 0 < digits) (h : n < 10 ^ digits) :
    (toString n).utf8ByteSize ≤ digits := by
  have hnarrow : ∀ c ∈ Nat.toDigits 10 n, c.utf8Size ≤ 1 := by
    intro c hc
    have hdigit := Nat.isDigit_of_mem_toDigits (by decide) (by decide) hc
    simp only [Char.isDigit, Bool.and_eq_true, decide_eq_true_eq] at hdigit
    refine Nat.le_of_eq (Char.utf8Size_eq_one_iff.mpr ?_)
    exact UInt32.le_trans hdigit.2 (by decide)
  have hlength := (Nat.length_toDigits_le_iff (by decide) hdigits).mpr h
  have hsize := utf8ByteSize_ofList_le 1 (Nat.toDigits 10 n) hnarrow
  rw [Nat.toString_eq_ofList_toDigits]
  omega

/-- A byte has at most two digits in base sixteen. -/
theorem utf8ByteSize_hexUpper_le (byte : UInt8) : (hexUpper byte.toNat).utf8ByteSize ≤ 8 := by
  have hlength := (Nat.length_toDigits_le_iff (b := 16) (k := 2) (by decide) (by decide)).mpr
    byte.toNat_lt
  have hsize := utf8ByteSize_ofList_le 4 ((Nat.toDigits 16 byte.toNat).map Char.toUpper)
    fun c _ => c.utf8Size_le_four
  rw [List.length_map] at hsize
  unfold hexUpper
  omega

end Text

namespace Violation

/-- The numbers in a violation have at most twenty digits. -/
def Bounded : Violation → Prop
  | .oversizedControl size => size < 10 ^ 20
  | .oversizedFrame size limit | .oversizedMessage size limit =>
    size < 10 ^ 20 ∧ limit < 10 ^ 20
  | _ => True

/-- The wording of a bounded violation fits into a close frame. -/
theorem utf8ByteSize_message_le {violation : Violation} (h : violation.Bounded) :
    violation.message.utf8ByteSize ≤ CloseReason.maxText := by
  have hmax : CloseReason.maxText = 123 := rfl
  -- Only the numbers vary. The words around them are counted.
  have hbytes : " bytes (max: ".utf8ByteSize = 13 := by decide
  have hend : ")".utf8ByteSize = 1 := by decide
  cases violation with
  | unknownOpcode code =>
    have hcode := Text.utf8ByteSize_hexUpper_le code
    have hwords : "invalid opcode: 0x".utf8ByteSize = 18 := by decide
    show ("invalid opcode: 0x" ++ Text.hexUpper code.toNat).utf8ByteSize ≤ _
    rw [String.utf8ByteSize_append]
    omega
  | oversizedControl size =>
    have hsize := Text.utf8ByteSize_toString_le size 20 (by decide) h
    have hwords : "control frame payload too large: ".utf8ByteSize = 33 := by decide
    have hlast : " bytes (max: 125)".utf8ByteSize = 17 := by decide
    show ("control frame payload too large: " ++ toString size ++
      " bytes (max: 125)").utf8ByteSize ≤ _
    simp only [String.utf8ByteSize_append]
    omega
  | oversizedFrame size limit =>
    have hsize := Text.utf8ByteSize_toString_le size 20 (by decide) h.1
    have hlimit := Text.utf8ByteSize_toString_le limit 20 (by decide) h.2
    have hwords : "frame too large: ".utf8ByteSize = 17 := by decide
    show ("frame too large: " ++ toString size ++ " bytes (max: " ++ toString limit ++
      ")").utf8ByteSize ≤ _
    simp only [String.utf8ByteSize_append]
    omega
  | oversizedMessage size limit =>
    have hsize := Text.utf8ByteSize_toString_le size 20 (by decide) h.1
    have hlimit := Text.utf8ByteSize_toString_le limit 20 (by decide) h.2
    have hwords : "message too large: ".utf8ByteSize = 19 := by decide
    show ("message too large: " ++ toString size ++ " bytes (max: " ++ toString limit ++
      ")").utf8ByteSize ≤ _
    simp only [String.utf8ByteSize_append]
    omega
  | _ => decide

/-- The reason that a violation is reported with: its code and its whole wording. -/
def closeReason (violation : Violation) : CloseReason where
  code := violation.closeCode
  text := violation.message

/-- A reason that is built from a bounded violation has its whole wording. -/
theorem closeReason_eq {violation : Violation} (h : violation.Bounded) :
    CloseReason.of violation.closeCode violation.message = violation.closeReason := by
  unfold CloseReason.of Text.clip
  rw [if_pos (utf8ByteSize_message_le h)]
  rfl

/-- A violation is reported with a code that may be sent. -/
theorem sendable_closeReason (violation : Violation) : violation.closeReason.Sendable := by
  constructor <;> cases violation <;> rfl

end Violation

/-! ### The violations that are met -/

namespace Header

/-- A length is a number of 64 bits. -/
theorem length_lt_of_readLength {lead : Lead} {bytes rest : Bytes} {length : Nat}
    (hshort : lead.shortLength < 2 ^ 64) (h : lead.readLength bytes = some (length, rest)) :
    length < 2 ^ 64 := by
  unfold Lead.readLength at h
  split at h
  · cases h
    exact hshort
  · rw [Option.map_eq_some_iff] at h
    obtain ⟨⟨field, rest'⟩, hsplit, hfound⟩ := h
    obtain ⟨hfield, -⟩ := (Bytes.splitExact?_eq_some_iff _ _ _ _).mp hsplit
    cases hfound
    have hlt := Bytes.toNatBE_lt field
    have hpow := Nat.pow_le_pow_right (n := 256) (by decide) lead.lengthWidth_le
    rw [hfield] at hlt
    exact Nat.lt_of_lt_of_le hlt hpow

/-- The header of a payload that is accepted. -/
theorem length_le_of_read {role : Role} {limit : Nat} {bytes rest : Bytes} {header : Header}
    (h : Header.read role limit bytes = .ok (some (header, rest))) : header.length ≤ limit := by
  match bytes with
  | [] | [_] => simp [Header.read] at h
  | first :: second :: fields =>
    rw [Header.read] at h
    split at h
    · cases h
    · split at h
      · cases h
      · split at h
        · cases h
        · rename_i hfits
          split at h
          · cases h
          · cases h
            exact Nat.le_of_not_lt hfits

/-- A violation in the first two bytes of a frame, or the short length in them. -/
theorem bounded_of_lead (role : Role) (first second : UInt8) :
    match Lead.read role first second with
    | .error violation => violation.Bounded
    | .ok lead => lead.shortLength < 2 ^ 64 := by
  have hshort : (second &&& 0x7F).toNat < 256 := (second &&& 0x7F).toNat_lt
  have hmask (masked : Bool) (violation : Violation)
      (h : Lead.checkMask role masked = .error violation) : violation.Bounded := by
    unfold Lead.checkMask at h
    split at h <;> cases h <;> trivial
  have hcontrol (opcode : Opcode) (fin : Bool) (violation : Violation)
      (h : Lead.checkControl opcode fin (second &&& 0x7F).toNat = .error violation) :
      violation.Bounded := by
    unfold Lead.checkControl at h
    split at h
    · cases h
    · split at h
      · cases h
        trivial
      · split at h
        · cases h
          show _ < 10 ^ 20
          omega
        · cases h
  unfold Lead.read
  by_cases hbits : first &&& 0x70 ≠ 0
  · rw [if_pos hbits]
    trivial
  · rw [if_neg hbits]
    cases Opcode.ofCode? (first &&& 0x0F) with
    | none => trivial
    | some opcode =>
      simp only [bind, Except.bind, pure, Except.pure]
      cases hmasked : Lead.checkMask role (second &&& 0x80 ≠ 0) with
      | error violation => exact hmask _ violation hmasked
      | ok _ =>
        cases hchecked : Lead.checkControl opcode (first &&& 0x80 ≠ 0) (second &&& 0x7F).toNat with
        | error violation => exact hcontrol _ _ violation hchecked
        | ok _ =>
          show (second &&& 0x7F).toNat < 2 ^ 64
          omega

/-- The violations in a header are bounded. -/
theorem bounded_of_read {role : Role} {limit : Nat} {bytes : Bytes} {violation : Violation}
    (hlimit : limit < 2 ^ 64) (h : Header.read role limit bytes = .error violation) :
    violation.Bounded := by
  match bytes with
  | [] | [_] => simp [Header.read] at h
  | first :: second :: fields =>
    have hbounded := bounded_of_lead role first second
    rw [Header.read] at h
    split at h
    · rename_i hlead
      cases h
      rw [hlead] at hbounded
      exact hbounded
    · rename_i lead hlead
      rw [hlead] at hbounded
      split at h
      · cases h
      · rename_i hlength
        split at h
        · cases h
          have hsize := length_lt_of_readLength hbounded hlength
          exact ⟨by omega, by omega⟩
        · split at h <;> cases h

end Header

namespace Decoder

/-- The limit of a decoder is a number of 64 bits, and the header that it keeps is within
it. -/
structure Bounded (decoder : Decoder) : Prop where
  limit : decoder.limit < 2 ^ 64
  pending : ∀ header ∈ decoder.pending, header.length ≤ decoder.limit

namespace Bounded

variable {decoder : Decoder}

theorem feed (h : decoder.Bounded) (bytes : Bytes) : (decoder.feed bytes).Bounded := by
  unfold Decoder.feed
  split
  · exact h
  · exact ⟨h.limit, h.pending⟩

/-- The frame that a decoder is inside of is within the limit. -/
theorem inside (h : decoder.Bounded) {header : Header} {bytes : Bytes}
    (hinside : decoder.Inside header bytes) : header.length ≤ decoder.limit := by
  rcases hinside with ⟨hpending, -⟩ | ⟨-, hheader⟩
  · exact h.pending header hpending
  · exact Header.length_le_of_read hheader

/-- A violation that a decoder meets is bounded. -/
theorem violation (h : decoder.Bounded) {violation : Violation}
    (hnext : decoder.next.1 = .error violation) : violation.Bounded := by
  unfold Decoder.next at hnext
  split at hnext
  · cases hnext
  · -- A header that is kept is no violation, so this one has just been read.
    split at hnext
    · rename_i hheader
      cases hnext
      exact Header.bounded_of_read h.limit hheader
    · cases hnext
    · cases hnext

/-- What a decoder gives is within its limit, and it stays so. -/
theorem next (h : decoder.Bounded) :
    decoder.next.2.Bounded ∧
      ∀ frame, decoder.next.1 = .ok (some frame) → frame.payload.length < 2 ^ 64 := by
  have hlimit := h.limit
  obtain ⟨violation, hnext⟩ | hnext | ⟨header, bytes, hinside, hnext⟩ := decoder.next_cases
  · rw [hnext]
    exact ⟨h, nofun⟩
  · rw [hnext]
    exact ⟨h, nofun⟩
  · have hlength := h.inside hinside
    obtain ⟨frame, rest, hpayload, hnext⟩ | hnext := hnext
    · rw [hnext]
      refine ⟨⟨hlimit, nofun⟩, ?_⟩
      rintro _ ⟨⟩
      have hsize := (Header.of_readPayload hpayload).2.2
      omega
    · rw [hnext]
      refine ⟨⟨hlimit, ?_⟩, nofun⟩
      rintro _ ⟨⟩
      exact hlength

end Bounded

end Decoder

namespace Assembler

/-- The limit of an assembler is a number of 64 bits, and the message in progress is within
it. -/
structure Bounded (assembler : Assembler) : Prop where
  limit : assembler.limit < 2 ^ 64
  pending : ∀ begun ∈ assembler.pending, begun.payload.length ≤ assembler.limit

namespace Bounded

variable {assembler : Assembler}

/-- The text of a message is the only thing that is wrong in a message that is complete. -/
theorem finish {type : MessageType} {payload : Bytes} {violation : Violation}
    (h : (type.finish payload).map some = .error violation) : violation.Bounded := by
  unfold MessageType.finish at h
  split at h
  · split at h <;> cases h
    trivial
  · cases h

theorem pushStart (h : assembler.Bounded) (type : MessageType) (fin : Bool) (payload : Bytes)
    (hpayload : payload.length < 2 ^ 64) :
    (assembler.pushStart type fin payload).2.Bounded ∧
      ∀ violation, (assembler.pushStart type fin payload).1 = .error violation →
        violation.Bounded := by
  have hlimit := h.limit
  unfold Assembler.pushStart
  split
  · refine ⟨h, ?_⟩
    rintro _ ⟨⟩
    trivial
  · split
    · refine ⟨h, ?_⟩
      rintro _ ⟨⟩
      exact ⟨by omega, by omega⟩
    · rename_i hfits
      split
      · exact ⟨h, fun violation => finish⟩
      · refine ⟨⟨hlimit, ?_⟩, nofun⟩
        rintro _ ⟨⟩
        exact Nat.le_of_not_lt hfits

theorem pushContinuation (h : assembler.Bounded) (fin : Bool) (payload : Bytes)
    (hpayload : payload.length < 2 ^ 64) :
    (assembler.pushContinuation fin payload).2.Bounded ∧
      ∀ violation, (assembler.pushContinuation fin payload).1 = .error violation →
        violation.Bounded := by
  have hlimit := h.limit
  unfold Assembler.pushContinuation
  split
  · refine ⟨h, ?_⟩
    rintro _ ⟨⟩
    trivial
  · rename_i begun hpending
    have hbegun := h.pending begun hpending
    dsimp only
    split
    · refine ⟨⟨hlimit, nofun⟩, ?_⟩
      rintro _ ⟨⟩
      -- Both pieces are within 64 bits, so their sum has no more digits than that.
      exact ⟨by omega, by omega⟩
    · rename_i hfits
      split
      · exact ⟨⟨hlimit, nofun⟩, fun violation => finish⟩
      · refine ⟨⟨hlimit, ?_⟩, nofun⟩
        rintro _ ⟨⟩
        rw [List.length_append]
        exact Nat.le_of_not_lt hfits

/-- An assembler stays within its limit, and the violations that it meets are bounded. -/
theorem push (h : assembler.Bounded) (frame : Frame) (hframe : frame.payload.length < 2 ^ 64) :
    (assembler.push frame).2.Bounded ∧
      ∀ violation, (assembler.push frame).1 = .error violation → violation.Bounded := by
  unfold Assembler.push
  split
  · exact h.pushContinuation frame.fin frame.payload hframe
  · exact h.pushStart .text frame.fin frame.payload hframe
  · exact h.pushStart .binary frame.fin frame.payload hframe
  all_goals exact ⟨h, nofun⟩

end Bounded

end Assembler

end SocketGate
