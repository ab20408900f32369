import SocketGate.Proofs.Frame.Sized

/-!
# `SocketGate.Proofs.Frame.Verdict`: verdicts on the first bytes of a frame

A reader of frames looks at the same bytes again whenever more of them have come. It can do so
because a verdict never changes: `Frame.decode?` asks for more bytes for a while, and what it
answers then it answers for every continuation.

The module says when this is. `Lead.breach?` lists the rules that the first two bytes can break, in
the order in which they are checked and in the numbers of the two bytes. If none is broken, these
bytes also say how many bytes the length and the key take (`LengthForm.width`, `Role.keyWidth`),
and `Frame.sizeIn` is the length that they announce.

* `Lead.read_eq_error_iff`: the first two bytes are refused exactly for the rule that they break.
* `Frame.decode?_of_breach?_eq_none`: the verdict on all other bytes, by their number and by the
  announced length alone.
* `Frame.verdict_of_limit`: for all bytes and all that may follow them.
-/

set_option autoImplicit false

namespace SocketGate

/-! ### The first two bytes -/

/-- How many bytes the masking key has in the frames that this end accepts. -/
def Role.keyWidth : Role → Nat
  | .server => 4
  | .client => 0

namespace Lead

/-- The first rule that the first two bytes of a frame break. The first byte is the FIN bit, the
three reserved bits and the opcode; the second one is the mask bit and the short length. -/
def breach? (role : Role) (first second : UInt8) : Option Violation :=
  if first.toNat / 16 % 8 ≠ 0 then some .reservedBits
  else if first.toNat % 16 ∉ [0, 1, 2, 8, 9, 10] then some (.unknownOpcode (first % 16))
  else if role = .server ∧ second.toNat < 128 then some .unmasked
  else if role = .client ∧ 128 ≤ second.toNat then some .masked
  else if 8 ≤ first.toNat % 16 ∧ first.toNat < 128 then some .fragmentedControl
  else if 8 ≤ first.toNat % 16 ∧ 125 < second.toNat % 128 then
    some (.oversizedControl (second.toNat % 128))
  else none

/-- The reserved bits and the FIN bit of a first byte, and its code. -/
theorem first_bits : ∀ first : UInt8,
    (first &&& 0x70 ≠ 0 ↔ first.toNat / 16 % 8 ≠ 0) ∧
      (first &&& 0x80 ≠ 0 ↔ ¬ first.toNat < 128) ∧ first &&& 0x0F = first % 16 :=
  Bytes.forall_byte (by decide +kernel)

/-- The mask bit and the short length of a second byte. -/
theorem second_bits : ∀ second : UInt8,
    (second &&& 0x80 ≠ 0 ↔ 128 ≤ second.toNat) ∧
      (second &&& 0x7F).toNat = second.toNat % 128 :=
  Bytes.forall_byte (by decide +kernel)

/-- Six codes have an opcode, and the upper three of them are those of control frames. -/
theorem ofCode?_bits : ∀ first : UInt8,
    (Opcode.ofCode? (first % 16) = none ↔ first.toNat % 16 ∉ [0, 1, 2, 8, 9, 10]) ∧
      ∀ opcode ∈ Opcode.ofCode? (first % 16),
        opcode.isControl = decide (8 ≤ first.toNat % 16) :=
  Bytes.forall_byte (by decide +kernel)

theorem checkMask_eq (role : Role) (second : Nat) :
    checkMask role (decide (128 ≤ second)) =
      if role = .server ∧ second < 128 then .error .unmasked
      else if role = .client ∧ 128 ≤ second then .error .masked
      else .ok () := by
  by_cases hmask : 128 ≤ second
  · have hplain : ¬ second < 128 := by omega
    cases role <;> simp [checkMask, hmask, hplain]
  · have hplain : second < 128 := by omega
    cases role <;> simp [checkMask, hmask, hplain]

theorem checkControl_eq {opcode : Opcode} {code : Nat}
    (hcontrol : opcode.isControl = decide (8 ≤ code)) (first size : Nat) :
    checkControl opcode (decide (¬ first < 128)) size =
      if 8 ≤ code ∧ first < 128 then .error .fragmentedControl
      else if 8 ≤ code ∧ 125 < size then .error (.oversizedControl size)
      else .ok () := by
  unfold checkControl maxControlPayload
  rw [hcontrol]
  by_cases hupper : 8 ≤ code
  · by_cases hlow : first < 128
    · simp [hupper, hlow]
    · simp [hupper, hlow]
  · simp [hupper]

/-- The first two bytes are refused exactly for the first rule that they break. -/
theorem read_eq_error_iff (role : Role) (first second : UInt8) (violation : Violation) :
    Lead.read role first second = .error violation ↔
      breach? role first second = some violation := by
  obtain ⟨hreserved, hfin, hcode⟩ := first_bits first
  obtain ⟨hmasked, hshort⟩ := second_bits second
  obtain ⟨hknown, hcontrol⟩ := ofCode?_bits first
  rw [breach?, Lead.read, hcode]
  by_cases hbits : first.toNat / 16 % 8 ≠ 0
  · rw [if_pos hbits, if_pos (hreserved.mpr hbits)]
    simp
  · rw [if_neg hbits, if_neg (mt hreserved.mp hbits)]
    cases hopcode : Opcode.ofCode? (first % 16) with
    | none =>
      rw [if_pos (hknown.mp hopcode)]
      simp
    | some opcode =>
      have hof : ¬ first.toNat % 16 ∉ [0, 1, 2, 8, 9, 10] := by
        rw [← hknown, hopcode]
        exact nofun
      rw [if_neg hof]
      dsimp only
      rw [hshort, decide_eq_decide.mpr hfin, decide_eq_decide.mpr hmasked, checkMask_eq,
        checkControl_eq (hcontrol opcode hopcode)]
      -- The four rules that are left are asked for in one order on both sides.
      split_ifs <;> simp [bind, Except.bind, pure, Except.pure]

/-- What two bytes say that break no rule: how the rest of the header lies. -/
theorem exists_of_breach?_eq_none {role : Role} {first second : UInt8}
    (h : breach? role first second = none) :
    ∃ lead, Lead.read role first second = .ok lead ∧
      lead.lengthWidth = (LengthForm.ofByte second).width ∧
      lead.maskWidth = role.keyWidth ∧ lead.shortLength = second.toNat % 128 := by
  cases hread : Lead.read role first second with
  | error violation =>
    rw [read_eq_error_iff, h] at hread
    cases hread
  | ok lead =>
    obtain ⟨-, -, hshort, hrole⟩ := of_read hread
    refine ⟨lead, rfl, lengthWidth_eq hshort, ?_, hshort.trans (second_bits second).2⟩
    -- A key is announced where the reader is a server, and only there.
    unfold maskWidth
    cases role with
    | server => exact if_pos (hrole.mpr rfl)
    | client => exact if_neg (mt hrole.mp nofun)

end Lead

/-! ### The rest of the header -/

namespace Frame

/-- How many bytes a header has whose second byte is this one. -/
def headerSize (role : Role) (second : UInt8) : Nat :=
  2 + (LengthForm.ofByte second).width + role.keyWidth

/-- The length that a header announces with its second byte and the bytes behind it. -/
def sizeIn (second : UInt8) (fields : Bytes) : Nat :=
  if (LengthForm.ofByte second).width = 0 then second.toNat % 128
  else Bytes.toNatBE (fields.take (LengthForm.ofByte second).width)

/-- The shortest header has two bytes, and the longest one a length of eight and a key. -/
theorem headerSize_mem (role : Role) (second : UInt8) :
    2 ≤ headerSize role second ∧ headerSize role second ≤ role.maxHeader ∧
      role.maxHeader ≤ 14 := by
  unfold headerSize
  cases role <;> cases LengthForm.ofByte second <;> decide

end Frame

/-- A header whose first two bytes break no rule is read as far as it is there. Its length is
looked at before its key is awaited. -/
theorem Header.read_of_breach?_eq_none {role : Role} {first second : UInt8} (limit : Nat)
    (fields : Bytes) (h : Lead.breach? role first second = none) :
    ∃ header : Header, header.length = Frame.sizeIn second fields ∧
      Header.read role limit (first :: second :: fields) =
        if fields.length < (LengthForm.ofByte second).width then .ok none
        else if limit < Frame.sizeIn second fields then
          .error (.oversizedFrame (Frame.sizeIn second fields) limit)
        else if fields.length + 2 < Frame.headerSize role second then .ok none
        else .ok (some (header,
          (first :: second :: fields).drop (Frame.headerSize role second))) := by
  obtain ⟨lead, hread, hwidth, hkey, hshort⟩ := Lead.exists_of_breach?_eq_none h
  have hsize : (if lead.lengthWidth = 0 then lead.shortLength
      else Bytes.toNatBE (fields.take lead.lengthWidth)) = Frame.sizeIn second fields := by
    rw [hwidth, hshort]
    rfl
  refine ⟨{ fin := lead.fin, opcode := lead.opcode, length := Frame.sizeIn second fields
            mask := MaskKey.ofBytes? ((fields.drop lead.lengthWidth).take lead.maskWidth) },
    rfl, ?_⟩
  rw [Header.read, hread]
  dsimp only
  rw [lead.readLength_eq, hsize, ← hwidth]
  by_cases hfield : fields.length < lead.lengthWidth
  · rw [if_pos hfield, if_pos hfield]
  · rw [if_neg hfield, if_neg hfield]
    dsimp only
    by_cases hlarge : limit < Frame.sizeIn second fields
    · rw [if_pos hlarge, if_pos hlarge]
    · rw [if_neg hlarge, if_neg hlarge, lead.readMask_eq, List.length_drop]
      have hheader : Frame.headerSize role second = 2 + (lead.lengthWidth + lead.maskWidth) := by
        rw [Frame.headerSize, hwidth, hkey, Nat.add_assoc]
      rw [hheader]
      by_cases hmask : fields.length < lead.lengthWidth + lead.maskWidth
      · rw [if_pos (by omega), if_pos (by omega)]
      · rw [if_neg (by omega), if_neg (by omega), List.drop_drop, Nat.add_comm 2]
        rfl

/-- Unmasking keeps the length of a payload. -/
theorem Header.length_toFrame (header : Header) (wirePayload : Bytes) :
    (header.toFrame wirePayload).payload.length = wirePayload.length := by
  unfold Header.toFrame
  cases header.mask <;> simp

/-! ### Verdicts -/

namespace Frame

variable {role : Role} {limit : Nat}

/-- Under a limit that keeps all ends of frames in range, a frame by indices is the one at the
front. -/
theorem decode?_eq_read (hlimit : role.maxHeader + limit < 2 ^ 64) (bytes : Bytes) :
    Frame.decode? role limit bytes = .ok ((Frame.read role limit bytes).map
      (Option.map fun found => (found.1, bytes.length - found.2.length))) := by
  have hannounced := announced_le role limit bytes
  rw [decode?_eq, if_pos (by omega)]

/-- The verdict on bytes of which the first two break no rule, by their number and by the length
that they announce. -/
theorem decode?_of_breach?_eq_none (hlimit : role.maxHeader + limit < 2 ^ 64)
    {first second : UInt8} (fields : Bytes) (h : Lead.breach? role first second = none) :
    ∃ frame : Frame,
      (headerSize role second + sizeIn second fields ≤ fields.length + 2 →
        frame.payload.length = sizeIn second fields) ∧
      Frame.decode? role limit (first :: second :: fields) = .ok (
        if fields.length < (LengthForm.ofByte second).width then .ok none
        else if limit < sizeIn second fields then
          .error (.oversizedFrame (sizeIn second fields) limit)
        else if fields.length + 2 < headerSize role second + sizeIn second fields then .ok none
        else .ok (some (frame, headerSize role second + sizeIn second fields))) := by
  obtain ⟨header, hlength, hread⟩ := Header.read_of_breach?_eq_none limit fields h
  refine ⟨header.toFrame (((first :: second :: fields).drop (headerSize role second)).take
    header.length), ?_, ?_⟩
  · intro hpresent
    rw [Header.length_toFrame, List.length_take, List.length_drop, List.length_cons,
      List.length_cons, hlength]
    omega
  rw [decode?_eq_read hlimit, Frame.read, hread]
  by_cases hfield : fields.length < (LengthForm.ofByte second).width
  · rw [if_pos hfield, if_pos hfield]
    rfl
  · rw [if_neg hfield, if_neg hfield]
    by_cases hlarge : limit < sizeIn second fields
    · rw [if_pos hlarge, if_pos hlarge]
      rfl
    · rw [if_neg hlarge, if_neg hlarge]
      by_cases hheader : fields.length + 2 < headerSize role second
      · rw [if_pos hheader, if_pos (by omega)]
        rfl
      · rw [if_neg hheader]
        dsimp only
        rw [Header.readPayload_eq, hlength, List.length_drop, List.length_cons, List.length_cons]
        by_cases hpayload : fields.length + 2 < headerSize role second + sizeIn second fields
        · rw [if_pos hpayload, if_pos (by omega)]
          rfl
        · have hconsumed : fields.length + 2 - (fields.length + 2 - headerSize role second -
              sizeIn second fields) = headerSize role second + sizeIn second fields := by
            omega
          rw [if_neg hpayload, if_neg (by omega)]
          simp only [Except.map, Option.map_some, List.length_drop, List.length_cons,
            Nat.add_assoc, Nat.reduceAdd, hconsumed]

/-- An error stays the verdict, whatever follows. -/
theorem decode?_append_of_error (hlimit : role.maxHeader + limit < 2 ^ 64) {bytes : Bytes}
    {violation : Violation} (h : Frame.decode? role limit bytes = .ok (.error violation))
    (more : Bytes) : Frame.decode? role limit (bytes ++ more) = .ok (.error violation) := by
  rw [decode?_eq_read hlimit] at h ⊢
  cases hread : Frame.read role limit bytes with
  | error violation' =>
    rw [hread] at h
    cases h
    rw [read_eq_error_iff.mpr (Header.read_append_of_error (read_eq_error_iff.mp hread) more)]
    rfl
  | ok found =>
    rw [hread] at h
    cases h

/-- A frame that is complete stays the verdict, with as many bytes of its own. -/
theorem decode?_append_of_some (hlimit : role.maxHeader + limit < 2 ^ 64) {bytes : Bytes}
    {frame : Frame} {consumed : Nat}
    (h : Frame.decode? role limit bytes = .ok (.ok (some (frame, consumed)))) (more : Bytes) :
    Frame.decode? role limit (bytes ++ more) = .ok (.ok (some (frame, consumed))) := by
  rw [decode?_eq_read hlimit] at h ⊢
  cases hread : Frame.read role limit bytes with
  | error violation =>
    rw [hread] at h
    cases h
  | ok found =>
    rw [hread] at h
    cases found with
    | none => cases h
    | some found =>
      obtain ⟨frame', rest⟩ := found
      cases h
      -- What follows the frame gets longer by as much as the bytes do.
      rw [read_append_of_some hread more]
      simp only [Except.map, Option.map_some, List.length_append, Nat.add_sub_add_right]

/-- The verdict on some bytes, which may be the first ones of a frame or the frame and more. -/
structure Verdict (role : Role) (limit : Nat) (bytes : Bytes) : Prop where
  /-- There is a verdict: no index and no sum is out of range. -/
  total : ∃ verdict, Frame.decode? role limit bytes = .ok verdict
  /-- An error stays, whatever follows. -/
  error_stable : ∀ violation, Frame.decode? role limit bytes = .ok (.error violation) →
    ∀ more, Frame.decode? role limit (bytes ++ more) = .ok (.error violation)
  /-- A frame stays, and so does the number of its bytes. -/
  frame_stable : ∀ frame consumed,
    Frame.decode? role limit bytes = .ok (.ok (some (frame, consumed))) →
      ∀ more, Frame.decode? role limit (bytes ++ more) = .ok (.ok (some (frame, consumed)))
  /-- Without two bytes there is nothing to look at. -/
  begun : bytes.length < 2 → Frame.decode? role limit bytes = .ok (.ok none)
  /-- A rule that the first two bytes break is reported as soon as they are there. -/
  breach : ∀ first second fields violation, bytes = first :: second :: fields →
    Lead.breach? role first second = some violation →
      Frame.decode? role limit bytes = .ok (.error violation)
  /-- If they break none, then the length is awaited. -/
  length_awaited : ∀ first second fields, bytes = first :: second :: fields →
    Lead.breach? role first second = none → fields.length < (LengthForm.ofByte second).width →
      Frame.decode? role limit bytes = .ok (.ok none)
  /-- A length above the limit is reported as soon as it is there, with or without the key. -/
  oversized : ∀ first second fields, bytes = first :: second :: fields →
    Lead.breach? role first second = none → (LengthForm.ofByte second).width ≤ fields.length →
      limit < sizeIn second fields → Frame.decode? role limit bytes =
        .ok (.error (.oversizedFrame (sizeIn second fields) limit))
  /-- All other headers have no error. They are read when they are whole, and the verdict asks for
  more exactly while there are fewer bytes than those of the header and of the payload. -/
  payload_awaited : ∀ first second fields, bytes = first :: second :: fields →
    Lead.breach? role first second = none → (LengthForm.ofByte second).width ≤ fields.length →
      sizeIn second fields ≤ limit →
        2 ≤ headerSize role second ∧ headerSize role second ≤ 14 ∧
          (headerSize role second ≤ bytes.length → ∃ header,
            Header.parse? role limit bytes =
                .ok (.ok (some (header, headerSize role second))) ∧
              header.length = sizeIn second fields) ∧
          (Frame.decode? role limit bytes = .ok (.ok none) ↔
            bytes.length < headerSize role second + sizeIn second fields) ∧
          (headerSize role second + sizeIn second fields ≤ bytes.length → ∃ frame,
            frame.payload.length = sizeIn second fields ∧
              Frame.decode? role limit bytes =
                .ok (.ok (some (frame, headerSize role second + sizeIn second fields))))

/-- For every role, for every limit under which a header and a payload together are in range, and
for all bytes: verdicts are stable as bytes arrive, and each of them is given with the first bytes
that show it. -/
theorem verdict_of_limit (role : Role) (limit : Nat) (hlimit : role.maxHeader + limit < 2 ^ 64)
    (bytes : Bytes) : Verdict role limit bytes where
  total := ⟨_, decode?_eq_read hlimit bytes⟩
  error_stable violation h more := decode?_append_of_error hlimit h more
  frame_stable frame consumed h more := decode?_append_of_some hlimit h more
  begun hshort := by
    match bytes, hshort with
    | [], _ => rfl
    | [_], _ => rfl
  breach first second fields violation hbytes hbreach := by
    rw [hbytes, decode?_eq_read hlimit, Frame.read, Header.read,
      (Lead.read_eq_error_iff role first second violation).mpr hbreach]
    rfl
  length_awaited first second fields hbytes hbreach hfield := by
    obtain ⟨frame, -, hdecode⟩ := decode?_of_breach?_eq_none hlimit fields hbreach
    rw [hbytes, hdecode, if_pos hfield]
  oversized first second fields hbytes hbreach hfield hlarge := by
    obtain ⟨frame, -, hdecode⟩ := decode?_of_breach?_eq_none hlimit fields hbreach
    rw [hbytes, hdecode, if_neg (Nat.not_lt.mpr hfield), if_pos hlarge]
  payload_awaited first second fields hbytes hbreach hfield hsmall := by
    obtain ⟨hleast, hmost, hmax⟩ := headerSize_mem role second
    obtain ⟨header, hlength, hread⟩ := Header.read_of_breach?_eq_none limit fields hbreach
    obtain ⟨frame, hpayload, hdecode⟩ := decode?_of_breach?_eq_none hlimit fields hbreach
    rw [if_neg (Nat.not_lt.mpr hfield), if_neg (Nat.not_lt.mpr hsmall)] at hread hdecode
    have hsize : bytes.length = fields.length + 2 := by
      rw [hbytes]
      rfl
    rw [hsize]
    refine ⟨hleast, Nat.le_trans hmost hmax, fun hwhole => ⟨header, ?_, hlength⟩, ?_, ?_⟩
    · rw [if_neg (Nat.not_lt.mpr hwhole)] at hread
      rw [Header.parse?_eq, hbytes, hread]
      simp only [Except.map, Option.map_some, List.length_drop, List.length_cons]
      rw [Nat.sub_sub_self hwhole]
    · rw [hbytes, hdecode]
      by_cases hmissing : fields.length + 2 < headerSize role second + sizeIn second fields
      · exact iff_of_true (by rw [if_pos hmissing]) hmissing
      · exact iff_of_false (by simp [hmissing]) hmissing
    · intro hpresent
      refine ⟨frame, hpayload hpresent, ?_⟩
      rw [hbytes, hdecode, if_neg (Nat.not_lt.mpr hpresent)]

/-- A masked ping with one byte of payload, as a server reads it. Without its last byte it is
awaited. -/
theorem verdict_of_limit_ping :
    Role.server.maxHeader + 125 < 2 ^ 64 ∧
      Verdict .server 125 [0x89, 0x81, 1, 2, 3, 4, 0x41] ∧
      Lead.breach? .server 0x89 0x81 = none ∧
      Frame.decode? .server 125 [0x89, 0x81, 1, 2, 3, 4] = .ok (.ok none) ∧
      Frame.decode? .server 125 [0x89, 0x81, 1, 2, 3, 4, 0x41] =
        .ok (.ok (some ({ Frame.ping [0x40] with mask := some ⟨1, 2, 3, 4⟩ }, 7))) :=
  ⟨by decide, verdict_of_limit .server 125 (by decide) _, by decide, by decide, by decide⟩

end Frame

end SocketGate
