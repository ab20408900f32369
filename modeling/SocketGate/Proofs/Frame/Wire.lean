import SocketGate.Frame.Wire
import SocketGate.Proofs.Bytes

/-!
# `SocketGate.Proofs.Frame.Wire`: frames are read as they were written

The header of a frame is a first byte with the FIN flag and the opcode, a second one with
the mask flag and the short length, the extended length if the short one announces it, and
the masking key. `Frame.writeHeader_eq` gives it in this form.

* `Header.read_writeHeader`: a written header is read as the header of the frame, whatever
  follows it.
* `Header.read_take_writeHeader`: a header that is cut short is incomplete, wherever the
  cut is.
* `Header.readPayload_append`: the payload is unmasked with the key it was masked with.
-/

set_option autoImplicit false

namespace SocketGate

namespace MaskKey

@[simp] theorem length_apply (key : MaskKey) (payload : Bytes) :
    (key.apply payload).length = payload.length := by
  simp [apply]

/-- Masking twice with one key gives the payload back. -/
@[simp] theorem apply_apply (key : MaskKey) (payload : Bytes) :
    key.apply (key.apply payload) = payload := by
  apply List.ext_getElem (by simp)
  intro index hindex hindex'
  simp only [apply, List.getElem_mapIdx]
  rw [UInt8.xor_assoc, UInt8.xor_self, UInt8.xor_zero]

end MaskKey

namespace Frame

/-- The header a frame is read with. -/
def header (frame : Frame) : Header where
  fin := frame.fin
  opcode := frame.opcode
  mask := frame.mask
  length := frame.payload.length

/-- Which end reads a frame: a server reads those with a mask. -/
def reader (frame : Frame) : Role :=
  if frame.mask.isSome then .server else .client

/-- The first byte on the wire. -/
def firstByte (frame : Frame) : UInt8 :=
  frame.opcode.code ||| (if frame.fin then 0x80 else 0)

/-- The length in the second byte on the wire. -/
def shortLength (frame : Frame) : Nat :=
  if frame.payload.length ≤ 125 then frame.payload.length
  else if frame.payload.length ≤ 0xFFFF then 126 else 127

/-- The second byte on the wire. -/
def secondByte (frame : Frame) : UInt8 :=
  (if frame.mask.isSome then 0x80 else 0) ||| UInt8.ofNat frame.shortLength

/-- The extended length on the wire. -/
def lengthField (frame : Frame) : Bytes :=
  if frame.payload.length ≤ 125 then []
  else if frame.payload.length ≤ 0xFFFF then Bytes.ofNatBE 2 frame.payload.length
  else Bytes.ofNatBE 8 frame.payload.length

/-- The masking key on the wire. -/
def keyField (frame : Frame) : Bytes :=
  match frame.mask with
  | some key => key.toBytes
  | none => []

/-- The parts of a header. -/
theorem writeHeader_eq (frame : Frame) :
    frame.writeHeader =
      frame.firstByte :: frame.secondByte :: (frame.lengthField ++ frame.keyField) := by
  unfold writeHeader firstByte secondByte shortLength lengthField keyField
  -- There are three forms of the length, and both sides choose by the same two tests.
  by_cases hshort : frame.payload.length ≤ 125
  · simp only [hshort, if_true]
    rfl
  · by_cases hmedium : frame.payload.length ≤ 0xFFFF
    · simp only [hshort, hmedium, if_false, if_true]
      rfl
    · simp only [hshort, hmedium, if_false]
      rfl

/-- What the first two bytes of a frame say. -/
def lead (frame : Frame) : Lead where
  fin := frame.fin
  opcode := frame.opcode
  masked := frame.mask.isSome
  shortLength := frame.shortLength

theorem shortLength_lt (frame : Frame) : frame.shortLength < 128 := by
  unfold shortLength
  split
  · omega
  · split <;> omega

/-- A control frame that may be sent is final and short. -/
theorem checkControl_eq_ok_iff (opcode : Opcode) (fin : Bool) (size : Nat) :
    Lead.checkControl opcode fin size = .ok () ↔
      (opcode.isControl → fin ∧ size ≤ maxControlPayload) := by
  unfold Lead.checkControl
  cases opcode.isControl with
  | false => simp
  | true =>
    cases fin with
    | false => simp
    | true =>
      by_cases hsize : maxControlPayload < size
      · simp [hsize]
      · simp [hsize, Nat.not_lt.mp hsize]

/-- A frame is written exactly when it passes the check for control frames. -/
theorem write_eq_ok_iff (frame : Frame) (bytes : Bytes) :
    frame.write = .ok bytes ↔
      (frame.opcode.isControl → frame.fin ∧ frame.payload.length ≤ maxControlPayload) ∧
        bytes = frame.writeHeader ++ frame.wirePayload := by
  rw [← checkControl_eq_ok_iff, write]
  cases h : Lead.checkControl frame.opcode frame.fin frame.payload.length with
  | error violation => simp
  | ok _ =>
    simp only [Except.ok.injEq, true_and]
    exact eq_comm

end Frame

/-! ### The first two bytes -/

namespace Lead

/-- The first byte of a frame has no reserved bit, and shows the opcode and the FIN
flag. -/
theorem firstByte_bits (frame : Frame) :
    frame.firstByte &&& 0x70 = 0 ∧
      Opcode.ofCode? (frame.firstByte &&& 0x0F) = some frame.opcode ∧
      decide (frame.firstByte &&& 0x80 ≠ 0) = frame.fin := by
  unfold Frame.firstByte
  cases frame.opcode <;> cases frame.fin <;> decide

/-- The second byte of a frame shows whether there is a mask, and the short length. -/
theorem secondByte_bits (frame : Frame) :
    decide (frame.secondByte &&& 0x80 ≠ 0) = frame.mask.isSome ∧
      (frame.secondByte &&& 0x7F).toNat = frame.shortLength := by
  -- The two tests only depend on the mask flag and on a length below 128.
  have hbits : ∀ masked : Bool, ∀ size < 128,
      decide (((if masked then 0x80 else 0) ||| UInt8.ofNat size) &&& 0x80 ≠ 0) = masked ∧
        (((if masked then 0x80 else 0) ||| UInt8.ofNat size) &&& 0x7F).toNat = size := by
    decide +kernel
  exact hbits frame.mask.isSome frame.shortLength frame.shortLength_lt

/-- The two bytes are read as they were written. The check for control frames looks at the
short length, which is the length of every frame that passes it. -/
theorem read_bytes (frame : Frame)
    (hcontrol : frame.opcode.isControl → frame.fin ∧ frame.payload.length ≤ maxControlPayload) :
    Lead.read frame.reader frame.firstByte frame.secondByte = .ok frame.lead := by
  obtain ⟨hreserved, hopcode, hfin⟩ := firstByte_bits frame
  obtain ⟨hmasked, hshort⟩ := secondByte_bits frame
  have hmask : checkMask frame.reader frame.mask.isSome = .ok () := by
    unfold checkMask Frame.reader
    cases frame.mask <;> rfl
  have hcheck : checkControl frame.opcode frame.fin frame.shortLength = .ok () := by
    rw [Frame.checkControl_eq_ok_iff]
    intro h
    obtain ⟨hfinal, hsize⟩ := hcontrol h
    refine ⟨hfinal, ?_⟩
    rw [Frame.shortLength, if_pos (show frame.payload.length ≤ 125 from hsize)]
    exact hsize
  unfold Lead.read
  rw [if_neg (by simp [hreserved]), hopcode]
  simp only [hfin, hmasked, hshort, hmask, hcheck]
  rfl

/-- The extended length has the width that the short length announces. -/
theorem length_lengthField (frame : Frame) :
    frame.lengthField.length = frame.lead.lengthWidth := by
  unfold Frame.lengthField lengthWidth Frame.lead Frame.shortLength
  by_cases hshort : frame.payload.length ≤ 125
  · -- 126 and 127 are not lengths here, they announce the wider fields.
    have h126 : frame.payload.length ≠ 126 := by omega
    have h127 : frame.payload.length ≠ 127 := by omega
    simp [hshort, h126, h127]
  · by_cases hmedium : frame.payload.length ≤ 0xFFFF
    · simp [hshort, hmedium, Bytes.length_ofNatBE]
    · simp [hshort, hmedium, Bytes.length_ofNatBE]

/-- The length of a payload below `2 ^ 64` is read as it was written. -/
theorem readLength_append (frame : Frame) (rest : Bytes)
    (hsize : frame.payload.length < 2 ^ 64) :
    frame.lead.readLength (frame.lengthField ++ rest) =
      some (frame.payload.length, rest) := by
  have hwidth := length_lengthField frame
  unfold readLength
  by_cases hshort : frame.payload.length ≤ 125
  · have hempty : frame.lengthField = [] := by rw [Frame.lengthField, if_pos hshort]
    have hzero : frame.lead.lengthWidth = 0 := by rw [← hwidth, hempty, List.length_nil]
    rw [if_pos hzero, hempty, List.nil_append, Frame.lead, Frame.shortLength, if_pos hshort]
  · have hlong : frame.lengthField.length ≠ 0 := by
      rw [Frame.lengthField, if_neg hshort]
      split <;> rw [Bytes.length_ofNatBE] <;> decide
    have hvalue : Bytes.toNatBE frame.lengthField = frame.payload.length := by
      rw [Frame.lengthField, if_neg hshort]
      split
      · exact Bytes.toNatBE_ofNatBE 2 _ (by omega)
      · exact Bytes.toNatBE_ofNatBE 8 _ (by omega)
    rw [if_neg (hwidth ▸ hlong), Bytes.splitExact?_append _ _ _ hwidth, ← hvalue]
    rfl

/-- A masking key is read as it was written. -/
theorem readMask_append (frame : Frame) (rest : Bytes) :
    frame.lead.readMask (frame.keyField ++ rest) = some (frame.mask, rest) := by
  unfold readMask Frame.lead Frame.keyField
  cases frame.mask <;> rfl

/-- A length that is cut short is not read. -/
theorem readLength_eq_none (frame : Frame) (bytes : Bytes)
    (h : bytes.length < frame.lengthField.length) : frame.lead.readLength bytes = none := by
  rw [length_lengthField] at h
  unfold readLength
  rw [if_neg (by omega), Bytes.splitExact?_eq_none _ _ h, Option.map_none]

/-- A masking key that is cut short is not read. -/
theorem readMask_eq_none (frame : Frame) (bytes : Bytes)
    (h : bytes.length < frame.keyField.length) : frame.lead.readMask bytes = none := by
  unfold readMask Frame.lead
  unfold Frame.keyField at h
  cases hmask : frame.mask with
  | none => simp [hmask] at h
  | some key =>
    simp only [hmask, MaskKey.toBytes, List.length_cons, List.length_nil] at h
    match bytes, h with
    | [], _ | [_], _ | [_, _], _ | [_, _, _], _ => rfl

/-- Two bytes that are read pass the check for control frames. -/
theorem control_of_read_eq_ok {role : Role} {first second : UInt8} {lead : Lead}
    (h : Lead.read role first second = .ok lead) :
    lead.opcode.isControl → lead.fin ∧ lead.shortLength ≤ maxControlPayload := by
  unfold Lead.read at h
  split at h
  · cases h
  · split at h
    · cases h
    · rename_i opcode _
      rw [← Frame.checkControl_eq_ok_iff]
      simp only [bind, Except.bind, pure, Except.pure] at h
      split at h
      · cases h
      · split at h
        · cases h
        · rename_i hcheck
          simp only [Except.ok.injEq] at h
          rw [← h]
          exact hcheck

/-- A length field has at most eight bytes. -/
theorem lengthWidth_le (lead : Lead) : lead.lengthWidth ≤ 8 := by
  unfold lengthWidth
  split
  · decide
  · split <;> decide

/-- The length of a control frame is its short length. -/
theorem readLength_of_short {lead : Lead} {bytes rest : Bytes} {length : Nat}
    (hshort : lead.shortLength ≤ maxControlPayload)
    (h : lead.readLength bytes = some (length, rest)) : length = lead.shortLength := by
  have hsmall : lead.shortLength ≤ 125 := hshort
  have hzero : lead.lengthWidth = 0 := by
    unfold lengthWidth
    rw [if_neg (by omega), if_neg (by omega)]
  rw [readLength, if_pos hzero] at h
  cases h
  rfl

/-- Reading the length adds no bytes. -/
theorem length_readLength {lead : Lead} {bytes rest : Bytes} {length : Nat}
    (h : lead.readLength bytes = some (length, rest)) : rest.length ≤ bytes.length := by
  unfold readLength at h
  split at h
  · cases h
    exact Nat.le_refl _
  · rw [Option.map_eq_some_iff] at h
    obtain ⟨⟨field, rest'⟩, hsplit, hfound⟩ := h
    obtain ⟨-, rfl⟩ := (Bytes.splitExact?_eq_some_iff _ _ _ _).mp hsplit
    cases hfound
    rw [List.length_append]
    omega

/-- Reading the masking key adds no bytes. -/
theorem length_readMask {lead : Lead} {bytes rest : Bytes} {mask : Option MaskKey}
    (h : lead.readMask bytes = some (mask, rest)) : rest.length ≤ bytes.length := by
  unfold readMask at h
  split at h
  · cases h
    exact Nat.le_refl _
  · split at h
    · cases h
      simp only [List.length_cons]
      omega
    · cases h

end Lead

/-! ### Headers -/

namespace Header

/-- A written header is read as the header of the frame, whatever follows it. -/
theorem read_writeHeader (frame : Frame) (limit : Nat) (rest : Bytes)
    (hcontrol : frame.opcode.isControl → frame.fin ∧ frame.payload.length ≤ maxControlPayload)
    (hsize : frame.payload.length < 2 ^ 64) (hlimit : frame.payload.length ≤ limit) :
    Header.read frame.reader limit (frame.writeHeader ++ rest) =
      .ok (some (frame.header, rest)) := by
  rw [frame.writeHeader_eq, List.cons_append, List.cons_append, List.append_assoc, Header.read,
    Lead.read_bytes frame hcontrol]
  simp only [Lead.readLength_append frame _ hsize, Nat.not_lt.mpr hlimit, if_false,
    Lead.readMask_append]
  rfl

/-- A header that is cut short is incomplete, wherever the cut is. -/
theorem read_take_writeHeader (frame : Frame) (limit count : Nat)
    (hcontrol : frame.opcode.isControl → frame.fin ∧ frame.payload.length ≤ maxControlPayload)
    (hsize : frame.payload.length < 2 ^ 64) (hlimit : frame.payload.length ≤ limit)
    (hcount : count < frame.writeHeader.length) :
    Header.read frame.reader limit (frame.writeHeader.take count) = .ok none := by
  rw [frame.writeHeader_eq] at hcount ⊢
  -- The cut is before the two leading bytes are there, inside the length, or inside the key.
  match count with
  | 0 | 1 => rfl
  | count + 2 =>
    simp only [List.length_cons, List.length_append] at hcount
    rw [List.take_succ_cons, List.take_succ_cons, Header.read, Lead.read_bytes frame hcontrol]
    by_cases hcut : count < frame.lengthField.length
    · have hshort : ((frame.lengthField ++ frame.keyField).take count).length <
          frame.lengthField.length := by
        rw [List.length_take]
        omega
      simp only [Lead.readLength_eq_none frame _ hshort]
    · have htake : (frame.lengthField ++ frame.keyField).take count =
          frame.lengthField ++ frame.keyField.take (count - frame.lengthField.length) := by
        rw [List.take_append, List.take_of_length_le (by omega)]
      have hshort : (frame.keyField.take (count - frame.lengthField.length)).length <
          frame.keyField.length := by
        rw [List.length_take]
        omega
      simp only [htake, Lead.readLength_append frame _ hsize, Nat.not_lt.mpr hlimit, if_false,
        Lead.readMask_eq_none frame _ hshort]

/-- The payload on the wire is as long as the payload. -/
theorem length_wirePayload (frame : Frame) :
    frame.wirePayload.length = frame.payload.length := by
  unfold Frame.wirePayload
  cases frame.mask <;> simp

/-- A whole payload is unmasked with the key it was masked with. -/
theorem readPayload_append (frame : Frame) (rest : Bytes) :
    frame.header.readPayload (frame.wirePayload ++ rest) = some (frame, rest) := by
  have hframe : frame.header.toFrame frame.wirePayload = frame := by
    obtain ⟨fin, opcode, mask, payload⟩ := frame
    cases mask <;> simp [toFrame, Frame.header, Frame.wirePayload]
  have hsplit : Bytes.splitExact? frame.header.length (frame.wirePayload ++ rest) =
      some (frame.wirePayload, rest) :=
    Bytes.splitExact?_append _ _ _ (length_wirePayload frame)
  rw [readPayload, hsplit]
  show some (frame.header.toFrame frame.wirePayload, rest) = _
  rw [hframe]

/-- A payload that is cut short is incomplete. -/
theorem readPayload_eq_none (frame : Frame) (bytes : Bytes)
    (h : bytes.length < frame.payload.length) : frame.header.readPayload bytes = none := by
  have hsplit : Bytes.splitExact? frame.header.length bytes = none :=
    Bytes.splitExact?_eq_none _ _ h
  rw [readPayload, hsplit, Option.map_none]

/-- The steps by which a header was read. -/
theorem exists_of_read_eq_ok {role : Role} {limit : Nat} {bytes rest : Bytes}
    {header : Header} (h : Header.read role limit bytes = .ok (some (header, rest))) :
    ∃ first second fields lead keyed, bytes = first :: second :: fields ∧
      Lead.read role first second = .ok lead ∧
      lead.readLength fields = some (header.length, keyed) ∧
      lead.readMask keyed = some (header.mask, rest) ∧
      header.fin = lead.fin ∧ header.opcode = lead.opcode := by
  match bytes with
  | [] | [_] => simp [Header.read] at h
  | first :: second :: fields =>
    rw [Header.read] at h
    cases hlead : Lead.read role first second with
    | error violation => simp [hlead] at h
    | ok lead =>
      cases hlength : lead.readLength fields with
      | none => simp [hlead, hlength] at h
      | some found =>
        obtain ⟨length, keyed⟩ := found
        simp only [hlead, hlength] at h
        split at h
        · simp at h
        · split at h
          · simp at h
          · rename_i mask after hmask
            simp only [Except.ok.injEq, Option.some.injEq, Prod.mk.injEq] at h
            obtain ⟨rfl, rfl⟩ := h
            exact ⟨first, second, fields, lead, keyed, rfl, hlead, hlength, hmask, rfl, rfl⟩

/-- A header that is read passes the check for control frames. -/
theorem control_of_read_eq_ok {role : Role} {limit : Nat} {bytes rest : Bytes}
    {header : Header} (h : Header.read role limit bytes = .ok (some (header, rest))) :
    header.opcode.isControl → header.fin ∧ header.length ≤ maxControlPayload := by
  obtain ⟨_, _, _, lead, _, -, hlead, hlength, -, hfin, hopcode⟩ := exists_of_read_eq_ok h
  intro hcontrol
  rw [hopcode] at hcontrol
  -- The check looked at the short length, which is the length of a control frame.
  obtain ⟨hfinal, hshort⟩ := Lead.control_of_read_eq_ok hlead hcontrol
  refine ⟨hfin ▸ hfinal, ?_⟩
  rw [Lead.readLength_of_short hshort hlength]
  exact hshort

/-- A header that is read takes two bytes at least. -/
theorem length_of_read_eq_ok {role : Role} {limit : Nat} {bytes rest : Bytes}
    {header : Header} (h : Header.read role limit bytes = .ok (some (header, rest))) :
    rest.length + 2 ≤ bytes.length := by
  obtain ⟨_, _, fields, _, _, hbytes, -, hlength, hmask, -, -⟩ := exists_of_read_eq_ok h
  have hkeyed := Lead.length_readLength hlength
  have hrest := Lead.length_readMask hmask
  rw [hbytes, List.length_cons, List.length_cons]
  omega

/-- A payload is no longer than the bytes it is taken off. -/
theorem length_readPayload {header : Header} {bytes rest : Bytes} {frame : Frame}
    (h : header.readPayload bytes = some (frame, rest)) : rest.length ≤ bytes.length := by
  rw [readPayload, Option.map_eq_some_iff] at h
  obtain ⟨⟨payload, rest'⟩, hsplit, hfound⟩ := h
  obtain ⟨-, rfl⟩ := (Bytes.splitExact?_eq_some_iff _ _ _ _).mp hsplit
  cases hfound
  rw [List.length_append]
  omega

/-- A frame has the opcode, the FIN flag and the length of its header. -/
theorem of_readPayload {header : Header} {bytes rest : Bytes} {frame : Frame}
    (h : header.readPayload bytes = some (frame, rest)) :
    frame.opcode = header.opcode ∧ frame.fin = header.fin ∧
      frame.payload.length = header.length := by
  rw [readPayload, Option.map_eq_some_iff] at h
  obtain ⟨⟨payload, rest'⟩, hsplit, hfound⟩ := h
  obtain ⟨hlength, -⟩ := (Bytes.splitExact?_eq_some_iff _ _ _ _).mp hsplit
  cases hfound
  refine ⟨rfl, rfl, ?_⟩
  unfold toFrame
  cases header.mask <;> simpa using hlength

end Header

end SocketGate
