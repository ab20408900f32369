import SocketGate.Frame.Sized
import SocketGate.Proofs.Frame.Canonical
import SocketGate.Proofs.Frame.Pieces
import SocketGate.Proofs.Frame.Violation

/-!
# `SocketGate.Proofs.Frame.Sized`: frames by indices are the frames

Reading by indices gives what reading off the front gives, unless a size leaves the 64 bits or no
buffer is large enough. There is one computation that can leave them: where a header ends, and the
length that it announces, are added without regard to what is there. All other indices have been
compared with what is there before they are used.

* `Header.parse?_eq`: a header by indices has no fault.
* `Frame.decode?_eq`: a frame by indices, and the only sum that can be a fault.
* `Frame.decode?_range_iff`: for which limits this sum can be a fault.
* `Decoder.next?_cases`: the next frame of a stream, or a payload that no buffer has room for.
-/

set_option autoImplicit false

namespace SocketGate

namespace Size

theorem ok_bind {α β : Type} (a : α) (f : α → Sized β) :
    ((Except.ok a : Sized α) >>= f) = f a := rfl

theorem add_of_lt {a b : Nat} (h : a + b < 2 ^ 64) : add a b = .ok (a + b) := if_pos h

theorem add_of_le {a b : Nat} (h : 2 ^ 64 ≤ a + b) : add a b = .error .range :=
  if_neg (Nat.not_lt.mpr h)

theorem sub_of_le {a b : Nat} (h : b ≤ a) : sub a b = .ok (a - b) := if_pos h

theorem slice_of_le {start stop : Nat} {bytes : Bytes} (h : start ≤ stop)
    (hstop : stop ≤ bytes.length) :
    slice start stop bytes = .ok ((bytes.take stop).drop start) :=
  if_pos ⟨h, hstop⟩

theorem hold_of_lt {size : Nat} (h : size < 2 ^ 63) : hold size = .ok () := if_pos h

theorem hold_of_le {size : Nat} (h : 2 ^ 63 ≤ size) : hold size = .error .capacity :=
  if_neg (Nat.not_lt.mpr h)

end Size

/-! ### Headers -/

/-- The most bytes of a header: two, a length of eight, and the key that only a server reads. -/
def Role.maxHeader : Role → Nat
  | .server => 14
  | .client => 10

namespace Lead

/-- The length is there if its field is. -/
theorem readLength_eq (lead : Lead) (bytes : Bytes) :
    lead.readLength bytes =
      if bytes.length < lead.lengthWidth then none
      else some (if lead.lengthWidth = 0 then lead.shortLength
        else Bytes.toNatBE (bytes.take lead.lengthWidth), bytes.drop lead.lengthWidth) := by
  rw [readLength, Bytes.splitExact?_eq]
  split
  · rename_i hzero
    rw [hzero, if_neg (Nat.not_lt_zero _)]
    rfl
  · split <;> rfl

/-- The masking key is there if its bytes are. -/
theorem readMask_eq (lead : Lead) (bytes : Bytes) :
    lead.readMask bytes =
      if bytes.length < lead.maskWidth then none
      else some (MaskKey.ofBytes? (bytes.take lead.maskWidth), bytes.drop lead.maskWidth) := by
  unfold readMask maskWidth
  cases lead.masked with
  | false => rfl
  | true =>
    match bytes with
    | [] | [_] | [_, _] | [_, _, _] => rfl
    | _ :: _ :: _ :: _ :: _ => rfl

/-- Once the length is there, the key is at the indices behind it. -/
theorem parse?_of_lengthWidth_le {lead : Lead} {first second : UInt8} {fields : Bytes}
    (limit : Nat) (h : lead.lengthWidth ≤ fields.length) :
    lead.parse? limit (first :: second :: fields) =
      let length := if lead.lengthWidth = 0 then lead.shortLength
        else Bytes.toNatBE (fields.take lead.lengthWidth)
      if limit < length then .ok (.error (.oversizedFrame length limit))
      else if fields.length < lead.lengthWidth + lead.maskWidth then .ok (.ok none)
      else .ok (.ok (some ({ fin := lead.fin, opcode := lead.opcode, length
                             mask := MaskKey.ofBytes?
                              ((fields.drop lead.lengthWidth).take lead.maskWidth) },
        2 + lead.lengthWidth + lead.maskWidth))) := by
  have hlength : (first :: second :: fields).length = 2 + fields.length := by
    rw [List.length_cons, List.length_cons]
    omega
  have hfield : Size.slice 2 (2 + lead.lengthWidth) (first :: second :: fields) =
      .ok (fields.take lead.lengthWidth) := by
    rw [Size.slice_of_le (Nat.le_add_right _ _) (by omega), Nat.add_comm]
    rfl
  rw [parse?, if_neg (by omega), hfield, Size.ok_bind]
  dsimp only
  generalize (if lead.lengthWidth = 0 then _ else _) = length
  by_cases hlimit : limit < length
  · rw [if_pos hlimit, if_pos hlimit]
    rfl
  · rw [if_neg hlimit, if_neg hlimit]
    by_cases hkey : fields.length < lead.lengthWidth + lead.maskWidth
    · rw [if_pos (by omega), if_pos hkey]
      rfl
    · have hslice : Size.slice (2 + lead.lengthWidth) (2 + lead.lengthWidth + lead.maskWidth)
          (first :: second :: fields) =
            .ok ((fields.drop lead.lengthWidth).take lead.maskWidth) := by
        rw [Size.slice_of_le (Nat.le_add_right _ _) (by omega), List.drop_take,
          Nat.add_sub_cancel_left, Nat.add_comm 2]
        rfl
      rw [if_neg (by omega), if_neg hkey, hslice, Size.ok_bind]
      rfl

end Lead

namespace Header

/-- A header by indices is the one that is read off the front, and no index is outside. -/
theorem parse?_eq (role : Role) (limit : Nat) (bytes : Bytes) :
    Header.parse? role limit bytes = .ok ((Header.read role limit bytes).map
      (Option.map fun found => (found.1, bytes.length - found.2.length))) := by
  match bytes with
  | [] | [_] => rfl
  | first :: second :: fields =>
    rw [Header.parse?, Header.read]
    cases Lead.read role first second with
    | error violation => rfl
    | ok lead =>
      dsimp only
      rw [lead.readLength_eq]
      by_cases hshort : fields.length < lead.lengthWidth
      · rw [if_pos hshort, Lead.parse?, if_pos (by simp only [List.length_cons]; omega)]
        rfl
      · rw [if_neg hshort, Lead.parse?_of_lengthWidth_le limit (by omega)]
        dsimp only
        generalize (if lead.lengthWidth = 0 then _ else _) = length
        by_cases hlimit : limit < length
        · rw [if_pos hlimit, if_pos hlimit]
          rfl
        · rw [if_neg hlimit, if_neg hlimit, lead.readMask_eq, List.length_drop]
          by_cases hkey : fields.length < lead.lengthWidth + lead.maskWidth
          · rw [if_pos hkey, if_pos (by omega)]
            rfl
          · have hstop : 2 + lead.lengthWidth + lead.maskWidth =
                (first :: second :: fields).length -
                  ((fields.drop lead.lengthWidth).drop lead.maskWidth).length := by
              simp only [List.length_cons, List.length_drop]
              omega
            rw [if_neg hkey, if_neg (by omega), hstop]
            rfl

/-- The payload is there if its bytes are. -/
theorem readPayload_eq (header : Header) (bytes : Bytes) :
    header.readPayload bytes =
      if bytes.length < header.length then none
      else some (header.toFrame (bytes.take header.length), bytes.drop header.length) := by
  rw [readPayload, Bytes.splitExact?_eq]
  split <;> rfl

/-- The bytes of a header that is read are in front of the rest, and there are not many. -/
theorem exists_front_of_read {role : Role} {limit : Nat} {bytes rest : Bytes} {header : Header}
    (h : Header.read role limit bytes = .ok (some (header, rest))) :
    ∃ front, bytes = front ++ rest ∧ front.length ≤ role.maxHeader := by
  obtain ⟨first, second, fields, lead, keyed, rfl, hlead, hlength, hmask, -, -⟩ :=
    exists_of_read_eq_ok h
  obtain ⟨-, -, -, hrole⟩ := Lead.of_read hlead
  obtain ⟨field, rfl, hfield, -⟩ := Lead.of_readLength hlength
  obtain ⟨hmasked, rfl⟩ := Lead.of_readMask hmask
  refine ⟨first :: second :: (field ++ header.mask.elim [] MaskKey.toBytes), by simp, ?_⟩
  have hkey : (header.mask.elim [] MaskKey.toBytes).length + 10 ≤ role.maxHeader := by
    cases hkeyed : header.mask with
    | none => cases role <;> decide
    | some key =>
      obtain rfl := hrole.mp (by rw [← hmasked, hkeyed]; rfl)
      exact Nat.le_refl 14
  have hwidth := lead.lengthWidth_le
  simp only [List.length_cons, List.length_append]
  omega

end Header

/-! ### Frames -/

namespace Frame

/-- How many bytes the frame at the front of `bytes` takes, as its header says. The frame need
not be complete. -/
def announced (role : Role) (limit : Nat) (bytes : Bytes) : Nat :=
  match Header.read role limit bytes with
  | .ok (some (header, rest)) => bytes.length - rest.length + header.length
  | _ => 0

/-- Behind a header the payload is at the indices up to its end, if this end is in range. -/
theorem decode?_of_header {role : Role} {limit : Nat} {front rest : Bytes} {header : Header}
    (h : Header.read role limit (front ++ rest) = .ok (some (header, rest))) :
    Frame.decode? role limit (front ++ rest) =
      if front.length + header.length < 2 ^ 64 then
        .ok (.ok ((header.readPayload rest).map fun found =>
          (found.1, (front ++ rest).length - found.2.length)))
      else .error .range := by
  have hsize : (front ++ rest).length - rest.length = front.length := by simp
  rw [decode?, Header.parse?_eq, Size.ok_bind, h]
  dsimp only [Except.map, Option.map_some]
  rw [hsize]
  by_cases hrange : front.length + header.length < 2 ^ 64
  · rw [if_pos hrange, Size.add_of_lt hrange, Size.ok_bind, Header.readPayload_eq]
    by_cases hshort : rest.length < header.length
    · rw [if_pos hshort, if_pos (by rw [List.length_append]; omega)]
      rfl
    · -- What is there reaches beyond the payload, so its indices are inside.
      have hslice : Size.slice front.length (front.length + header.length) (front ++ rest) =
          .ok (rest.take header.length) := by
        rw [Size.slice_of_le (Nat.le_add_right _ _) (by rw [List.length_append]; omega),
          List.take_length_add_append, List.drop_left]
      have htotal : (front ++ rest).length - (rest.drop header.length).length =
          front.length + header.length := by
        rw [List.length_append, List.length_drop]
        omega
      rw [if_neg hshort, if_neg (by rw [List.length_append]; omega), hslice, Size.ok_bind,
        Option.map_some, htotal]
      rfl
  · rw [if_neg hrange, Size.add_of_le (Nat.le_of_not_lt hrange)]
    rfl

/-- A frame by indices is the one that is read off the front, together with the number of its
bytes. There is none where this number has more than 64 bits. -/
theorem decode?_eq (role : Role) (limit : Nat) (bytes : Bytes) :
    Frame.decode? role limit bytes =
      if announced role limit bytes < 2 ^ 64 then
        .ok ((Frame.read role limit bytes).map
          (Option.map fun found => (found.1, bytes.length - found.2.length)))
      else .error .range := by
  rw [announced, Frame.read]
  cases hheader : Header.read role limit bytes with
  | error violation =>
    rw [decode?, Header.parse?_eq, hheader]
    rfl
  | ok found =>
    cases found with
    | none =>
      rw [decode?, Header.parse?_eq, hheader]
      rfl
    | some found =>
      obtain ⟨header, rest⟩ := found
      obtain ⟨front, rfl, -⟩ := Header.exists_front_of_read hheader
      have hsize : (front ++ rest).length - rest.length = front.length := by simp
      rw [decode?_of_header hheader, ← hsize]
      rfl

/-- What a header announces is within the limit. -/
theorem announced_le (role : Role) (limit : Nat) (bytes : Bytes) :
    announced role limit bytes ≤ role.maxHeader + limit := by
  unfold announced
  split
  · rename_i header rest hheader
    have hlimit := Header.length_le_of_read hheader
    obtain ⟨front, rfl, hfront⟩ := Header.exists_front_of_read hheader
    rw [List.length_append]
    omega
  · exact Nat.zero_le _

/-- A frame of so many zeros, as this end reads it. -/
def zeros (role : Role) (size : Nat) : Frame where
  fin := true
  opcode := .binary
  mask := match role with
    | .server => some ⟨0, 0, 0, 0⟩
    | .client => none
  payload := List.replicate size 0

/-- Each length of eight bytes is announced by some header. The frame need not be there. -/
theorem exists_announced (role : Role) (limit size : Nat) (hlong : 0xFFFF < size)
    (hsize : size < 2 ^ 64) (hlimit : size ≤ limit) :
    ∃ bytes, bytes.length = role.maxHeader ∧
      announced role limit bytes = role.maxHeader + size := by
  have hpayload : (zeros role size).payload.length = size := List.length_replicate
  have hreader : (zeros role size).reader = role := by cases role <;> rfl
  have hkey : 10 + (zeros role size).keyField.length = role.maxHeader := by cases role <;> rfl
  have hheader := Header.read_writeHeader (zeros role size) limit [] nofun (by omega) (by omega)
  rw [hreader, List.append_nil] at hheader
  have hlength : (zeros role size).writeHeader.length = role.maxHeader := by
    rw [writeHeader_eq, lengthField, if_neg (by omega), if_neg (by omega)]
    simp only [List.length_cons, List.length_append, Bytes.length_ofNatBE]
    omega
  refine ⟨(zeros role size).writeHeader, hlength, ?_⟩
  rw [announced, hheader, hlength]
  show role.maxHeader - 0 + (zeros role size).payload.length = _
  rw [hpayload, Nat.sub_zero]

/-- The end of a frame can be out of range exactly if the largest header and the largest payload
together are. Then the bytes of one header are enough. -/
theorem decode?_range_iff (role : Role) (limit : Nat) :
    (∃ bytes : Bytes, bytes.length ≤ role.maxHeader ∧
        Frame.decode? role limit bytes = .error .range) ↔
      2 ^ 64 ≤ role.maxHeader + limit := by
  have hheader : 10 ≤ role.maxHeader ∧ role.maxHeader ≤ 14 := by cases role <;> decide
  constructor
  · rintro ⟨bytes, -, hrange⟩
    have hannounced := announced_le role limit bytes
    by_contra hsmall
    rw [decode?_eq, if_pos (by omega)] at hrange
    cases hrange
  · intro hlarge
    -- The limit may have more than 64 bits, but a length has not.
    obtain ⟨bytes, hlength, hannounced⟩ := exists_announced role limit
      (min limit (2 ^ 64 - 1)) (by omega) (by omega) (Nat.min_le_left _ _)
    refine ⟨bytes, Nat.le_of_eq hlength, ?_⟩
    rw [decode?_eq, if_neg (by omega)]

end Frame

/-! ### Streams -/

namespace Decoder

/-- The payload that is missing is too large for any buffer. -/
def Starved (decoder : Decoder) : Prop :=
  ∃ header bytes, decoder.Inside header bytes ∧ bytes.length < header.length ∧
    2 ^ 63 ≤ header.length

/-- A decoder is inside of one frame at most. -/
theorem Inside.unique {decoder : Decoder} {header header' : Header} {bytes bytes' : Bytes}
    (h : decoder.Inside header bytes) (h' : decoder.Inside header' bytes') :
    header = header' ∧ bytes = bytes' := by
  rcases h with ⟨hpending, rfl⟩ | ⟨hpending, hheader⟩ <;>
    rcases h' with ⟨hpending', rfl⟩ | ⟨hpending', hheader'⟩ <;> simp_all

theorem nextPayload?_eq (decoder : Decoder) (header : Header) :
    decoder.nextPayload? header =
      if decoder.buffer.length < header.length ∧ 2 ^ 63 ≤ header.length then .error .capacity
      else .ok (decoder.nextPayload header) := by
  rw [nextPayload?, nextPayload, Header.readPayload_eq]
  by_cases hshort : decoder.buffer.length < header.length
  · have hmissing : decoder.buffer.length + (header.length - decoder.buffer.length) =
        header.length := by omega
    rw [if_pos hshort, if_pos hshort, Size.sub_of_le (Nat.le_of_lt hshort), Size.ok_bind, hmissing]
    by_cases hlarge : 2 ^ 63 ≤ header.length
    · rw [if_pos ⟨hshort, hlarge⟩, Size.hold_of_le hlarge]
      rfl
    · rw [if_neg (fun h => hlarge h.2), Size.hold_of_lt (Nat.lt_of_not_le hlarge)]
      rfl
  · rw [if_neg hshort, if_neg hshort, if_neg (fun h => hshort h.1),
      Size.slice_of_le (Nat.zero_le _) (by omega), Size.ok_bind,
      Size.slice_of_le (by omega) (Nat.le_refl _), Size.ok_bind, List.take_length]
    rfl

/-- Inside a frame it is only the payload that there may be no room for. -/
theorem next?_of_inside {decoder : Decoder} {header : Header} {bytes : Bytes}
    (h : decoder.Inside header bytes) :
    decoder.next? =
      if bytes.length < header.length ∧ 2 ^ 63 ≤ header.length then .error .capacity
      else .ok decoder.next := by
  rcases h with ⟨hpending, rfl⟩ | ⟨hpending, hheader⟩
  · simp only [next?, next, hpending, nextPayload?_eq]
    split <;> rfl
  · obtain ⟨front, hbuffer, -⟩ := Header.exists_front_of_read hheader
    have hslice : Size.slice (decoder.buffer.length - bytes.length) decoder.buffer.length
        decoder.buffer = .ok bytes := by
      rw [Size.slice_of_le (Nat.sub_le _ _) (Nat.le_refl _), List.take_length, hbuffer,
        List.length_append, Nat.add_sub_cancel, List.drop_left]
    simp only [next?, next, hpending, Header.parse?_eq, hheader, Size.ok_bind, Except.map,
      Option.map, hslice, nextPayload?_eq]
    split <;> rfl

/-- The next frame by indices is the next frame, unless no buffer has room for its payload. -/
theorem next?_cases (decoder : Decoder) :
    (decoder.next? = .ok decoder.next ∧ ¬ decoder.Starved) ∨
      (decoder.next? = .error .capacity ∧ decoder.Starved) := by
  by_cases hinside : ∃ header bytes, decoder.Inside header bytes
  · obtain ⟨header, bytes, hinside⟩ := hinside
    have hnext := next?_of_inside hinside
    split at hnext
    · rename_i hlarge
      exact .inr ⟨hnext, header, bytes, hinside, hlarge⟩
    · rename_i hsmall
      refine .inl ⟨hnext, ?_⟩
      rintro ⟨header', bytes', hinside', hlarge⟩
      obtain ⟨rfl, rfl⟩ := hinside.unique hinside'
      exact hsmall hlarge
  · refine .inl ⟨?_, fun ⟨header, bytes, h, _⟩ => hinside ⟨header, bytes, h⟩⟩
    -- There is no header yet, or a violation.
    cases hpending : decoder.pending with
    | some header => exact absurd ⟨header, decoder.buffer, .inl ⟨hpending, rfl⟩⟩ hinside
    | none =>
      cases hheader : Header.read decoder.role decoder.limit decoder.buffer with
      | error violation => simp only [next?, next, hpending, Header.parse?_eq, hheader]; rfl
      | ok found =>
        cases found with
        | none => simp only [next?, next, hpending, Header.parse?_eq, hheader]; rfl
        | some found =>
          exact absurd ⟨found.1, found.2, .inr ⟨hpending, hheader⟩⟩ hinside

/-- A decoder takes the payload of a frame out of its buffer. -/
theorem length_le_of_next {decoder : Decoder} {frame : Frame}
    (h : decoder.next.1 = .ok (some frame)) : frame.payload.length ≤ decoder.buffer.length := by
  obtain ⟨violation, hnext⟩ | hnext | ⟨header, bytes, hinside, hnext⟩ := decoder.next_cases
  · rw [hnext] at h
    cases h
  · rw [hnext] at h
    cases h
  · obtain ⟨frame', rest, hpayload, hnext⟩ | hnext := hnext
    · rw [hnext] at h
      cases h
      have hbytes : bytes.length ≤ decoder.buffer.length := by
        rcases hinside with ⟨-, rfl⟩ | ⟨-, hheader⟩
        · exact Nat.le_refl _
        · exact (Header.suffix_of_read hheader).length_le
      rw [(Header.of_readPayload hpayload).2.2]
      rw [Header.readPayload_eq, Option.ite_none_left_eq_some] at hpayload
      omega
    · rw [hnext] at h
      cases h

variable {role : Role} {limit : Nat} {bytes : Bytes} {decoder : Decoder}

/-- The buffer of a decoder holds nothing but what is left of the stream. -/
theorem Before.length_buffer_le (h : Before role limit bytes decoder) :
    decoder.buffer.length ≤ bytes.length := by
  cases h with
  | whole => exact Nat.le_refl _
  | headed header payload read => exact (Header.suffix_of_read read).length_le

/-- The payload that a decoder awaits is within the limit. -/
theorem Before.length_le_of_inside {header : Header} {payload : Bytes}
    (h : Before role limit bytes decoder) (hinside : decoder.Inside header payload) :
    header.length ≤ limit := by
  cases h with
  | whole =>
    rcases hinside with ⟨hpending, -⟩ | ⟨-, hread⟩
    · cases hpending
    · exact Header.length_le_of_read hread
  | headed header payload read =>
    rcases hinside with ⟨⟨⟩, -⟩ | ⟨hpending, -⟩
    · exact Header.length_le_of_read read
    · cases hpending

end Decoder

end SocketGate
