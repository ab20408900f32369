import SocketGate.Proofs.Frame.Stream

/-!
# `SocketGate.Proofs.Frame.RoundTrip`: a frame comes back from its wire form

A frame is appended to whatever a buffer holds, and its payload is masked where it stands
there. `Frame.writeTo_eq` says that this adds the wire form of the frame and changes nothing
before it, and that a frame without a wire form changes nothing at all.

* `Frame.read_wire_append`: the wire form is read as the frame, whatever follows it.
* `Frame.read_take_wire`: a wire form that is cut short is incomplete, wherever the cut is.
* `Frame.read_writeTo`: the three together, for every frame and every buffer.
-/

set_option autoImplicit false

namespace SocketGate

/-- Masking in place reaches the bytes from its start on, and no others. -/
theorem MaskKey.applyFrom_append (key : MaskKey) (front back : Bytes) :
    key.applyFrom front.length (front ++ back) = front ++ key.apply back := by
  unfold applyFrom apply
  rw [List.mapIdx_append]
  congr 1
  · apply List.ext_getElem (by simp)
    intro index hindex hindex'
    rw [List.getElem_mapIdx, if_pos hindex']
  · apply List.ext_getElem (by simp)
    intro index hindex hindex'
    have hbehind : ¬ index + front.length < front.length := by omega
    rw [List.getElem_mapIdx, List.getElem_mapIdx, if_neg hbehind, Nat.add_sub_cancel]

namespace Frame

/-! ### Appending to a buffer -/

/-- A buffer gets the wire form of a frame behind what it holds. It stays as it is if the
frame has none. -/
theorem writeTo_eq (frame : Frame) (buffer : Bytes) :
    frame.writeTo buffer = match frame.write with
      | .ok wire => (.ok (), buffer ++ wire)
      | .error violation => (.error violation, buffer) := by
  unfold writeTo write
  cases Lead.checkControl frame.opcode frame.fin frame.payload.length with
  | error violation => rfl
  | ok _ =>
    unfold wirePayload
    cases frame.mask with
    | none => simp only [List.append_assoc]
    | some key => simp only [MaskKey.applyFrom_append, ← List.append_assoc]

/-! ### Reading it back -/

/-- A wire form is read as its frame, and what follows it is left. -/
theorem read_wire_append {limit : Nat} {frame : Frame} (h : frame.Sendable limit)
    (rest : Bytes) :
    Frame.read frame.reader limit (frame.wire ++ rest) = .ok (some (frame, rest)) := by
  have hheader := Header.read_writeHeader frame limit (frame.wirePayload ++ rest) h.control
    h.size h.limit
  have hpayload := Header.readPayload_append frame rest
  rw [wire, List.append_assoc, Frame.read, hheader]
  simp only [hpayload]

/-- A wire form that is cut short is incomplete. -/
theorem read_take_wire {limit : Nat} {frame : Frame} (h : frame.Sendable limit) (count : Nat)
    (hcount : count < frame.wire.length) :
    Frame.read frame.reader limit (frame.wire.take count) = .ok none := by
  by_cases hcut : count < frame.writeHeader.length
  · -- The cut is in the header.
    have htake : frame.wire.take count = frame.writeHeader.take count :=
      List.take_append_of_le_length (Nat.le_of_lt hcut)
    have hheader := Header.read_take_writeHeader frame limit count h.control h.size h.limit hcut
    rw [htake, Frame.read, hheader]
  · -- The header is whole, and the cut is in the payload.
    have htake : frame.wire.take count =
        frame.writeHeader ++ frame.wirePayload.take (count - frame.writeHeader.length) := by
      rw [wire, List.take_append, List.take_of_length_le (Nat.not_lt.mp hcut)]
    have hheader := Header.read_writeHeader frame limit
      (frame.wirePayload.take (count - frame.writeHeader.length)) h.control h.size h.limit
    have hshort : (frame.wirePayload.take (count - frame.writeHeader.length)).length <
        frame.payload.length := by
      rw [wire, List.length_append, Header.length_wirePayload] at hcount
      rw [List.length_take, Header.length_wirePayload]
      omega
    have hpayload := Header.readPayload_eq_none frame _ hshort
    rw [htake, Frame.read, hheader]
    simp only [hpayload]

/-- Reading undoes writing, for every frame whose payload is shorter than `2 ^ 63` bytes. A
frame that passes the check for control frames has one wire form, and

- every buffer gets this wire form behind what it holds, which stays as it is;
- the end that the mask is meant for, with any limit that the payload keeps to, reads the
  wire form as the frame and leaves exactly what follows it;
- it calls each shorter part of the wire form incomplete.

A frame that does not pass is refused, and every buffer stays as it is. -/
theorem read_writeTo (frame : Frame) (hsize : frame.payload.length < 2 ^ 63) :
    ((frame.opcode.isControl → frame.fin ∧ frame.payload.length ≤ maxControlPayload) →
      ∃ wire, frame.write = .ok wire ∧
        (∀ buffer, frame.writeTo buffer = (.ok (), buffer ++ wire)) ∧
        ∀ limit, frame.payload.length ≤ limit →
          (∀ rest, Frame.read (if frame.mask.isSome then .server else .client) limit
            (wire ++ rest) = .ok (some (frame, rest))) ∧
          ∀ count, count < wire.length →
            Frame.read (if frame.mask.isSome then .server else .client) limit
              (wire.take count) = .ok none) ∧
    (¬ (frame.opcode.isControl → frame.fin ∧ frame.payload.length ≤ maxControlPayload) →
      ∃ violation, frame.write = .error violation ∧
        ∀ buffer, frame.writeTo buffer = (.error violation, buffer)) := by
  constructor
  · intro hcontrol
    have hwrite : frame.write = .ok frame.wire :=
      (frame.write_eq_ok_iff frame.wire).mpr ⟨hcontrol, rfl⟩
    refine ⟨frame.wire, hwrite, fun buffer => ?_, fun limit hlimit => ?_⟩
    · rw [writeTo_eq, hwrite]
    · have hsendable : frame.Sendable limit :=
        { control := hcontrol, size := by omega, limit := hlimit }
      exact ⟨read_wire_append hsendable, read_take_wire hsendable⟩
  · intro hcontrol
    cases hwrite : frame.write with
    | ok wire => exact absurd ((frame.write_eq_ok_iff wire).mp hwrite).1 hcontrol
    | error violation =>
      refine ⟨violation, rfl, fun buffer => ?_⟩
      rw [writeTo_eq, hwrite]

/-- A fragment with a mask, and with a payload that is too long for the short length. -/
def maskedFragment : Frame where
  fin := false
  opcode := .binary
  mask := some ⟨0x11, 0x22, 0x33, 0x44⟩
  payload := List.replicate 126 0xA5

/-- The fragment gets behind what a buffer holds, a server reads it back, and it is
incomplete as long as the last byte is missing. -/
theorem read_writeTo_maskedFragment :
    maskedFragment.payload.length < 2 ^ 63 ∧
    ∃ wire, wire.length = 134 ∧ maskedFragment.writeTo [0xFF] = (.ok (), 0xFF :: wire) ∧
      Frame.read .server 126 (wire ++ [0x81]) = .ok (some (maskedFragment, [0x81])) ∧
      Frame.read .server 126 (wire.take 133) = .ok none := by
  have hpayload : maskedFragment.payload.length = 126 := List.length_replicate
  have hsize : maskedFragment.payload.length < 2 ^ 63 := by omega
  obtain ⟨wire, -, hwrite, hread⟩ := (read_writeTo maskedFragment hsize).1 nofun
  have hlength : wire.length = 134 := by
    have hwritten : (maskedFragment.writeTo []).2.length = 134 := by decide +kernel
    rwa [hwrite] at hwritten
  obtain ⟨hwhole, hpart⟩ := hread 126 (by omega)
  exact ⟨hsize, wire, hlength, hwrite [0xFF], hwhole [0x81], hpart 133 (by omega)⟩

end Frame

end SocketGate
