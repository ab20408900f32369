import SocketGate.Frame.Decoder
import SocketGate.Proofs.Frame.Wire

/-!
# `SocketGate.Proofs.Frame.Stream`: the frames in a stream of written frames

`Decoder.drain` takes frames out of a decoder until it asks for more bytes or meets a
violation. The theorem of this module is about a decoder at the other end of a writer. It
is fed the first bytes of a sequence of written frames, and the stream may stop anywhere,
inside a length, a masking key or a payload. Then `drain` meets no violation, and it gives
the frames that are there as a whole (`Decoder.drain_prefix`).

`Decoder.Sound` is the invariant of a decoder between two frames or inside one: a header
that waits for its payload has passed the checks. So every frame that comes out is one that
could be written (`Decoder.Sound.next`).
-/

set_option autoImplicit false

namespace SocketGate

namespace Frame

/-- A frame that a writer can send and a reader with this limit accepts. -/
structure Sendable (limit : Nat) (frame : Frame) : Prop where
  control : frame.opcode.isControl → frame.fin ∧ frame.payload.length ≤ maxControlPayload
  size : frame.payload.length < 2 ^ 64
  limit : frame.payload.length ≤ limit

/-- The bytes of a frame on the wire. -/
def wire (frame : Frame) : Bytes := frame.writeHeader ++ frame.wirePayload

theorem Sendable.write {limit : Nat} {frame : Frame} (h : frame.Sendable limit) :
    frame.write = .ok frame.wire :=
  (frame.write_eq_ok_iff _).mpr ⟨h.control, rfl⟩

/-- The bytes of several frames on the wire, one after the other. -/
def wires (frames : List Frame) : Bytes := frames.flatMap wire

@[simp] theorem wires_append (frames frames' : List Frame) :
    wires (frames ++ frames') = wires frames ++ wires frames' :=
  List.flatMap_append

end Frame

namespace Decoder

/-! ### One frame -/

/-- A whole frame at the front of the buffer is taken off it. -/
theorem next_wire (decoder : Decoder) (frame : Frame) (rest : Bytes)
    (h : frame.Sendable decoder.limit) (hrole : decoder.role = frame.reader)
    (hpending : decoder.pending = none) (hbuffer : decoder.buffer = frame.wire ++ rest) :
    decoder.next = (.ok (some frame), { decoder with buffer := rest }) := by
  have hheader : Header.read decoder.role decoder.limit decoder.buffer =
      .ok (some (frame.header, frame.wirePayload ++ rest)) := by
    rw [hrole, hbuffer, Frame.wire, List.append_assoc]
    exact Header.read_writeHeader frame _ _ h.control h.size h.limit
  simp only [next, hpending, hheader, nextPayload, Header.readPayload_append]

/-- A frame that is cut short is awaited. -/
theorem next_take_wire (decoder : Decoder) (frame : Frame) (count : Nat)
    (h : frame.Sendable decoder.limit) (hrole : decoder.role = frame.reader)
    (hpending : decoder.pending = none) (hbuffer : decoder.buffer = frame.wire.take count)
    (hcount : count < frame.wire.length) : decoder.next.1 = .ok none := by
  by_cases hcut : count < frame.writeHeader.length
  · -- The cut is in the header, and nothing is taken off the buffer.
    have hheader : Header.read decoder.role decoder.limit decoder.buffer = .ok none := by
      rw [hrole, hbuffer, Frame.wire, List.take_append_of_le_length (Nat.le_of_lt hcut)]
      exact Header.read_take_writeHeader frame _ _ h.control h.size h.limit hcut
    simp only [next, hpending, hheader]
  · -- The cut is in the payload, and the decoder keeps the header.
    have hheader : Header.read decoder.role decoder.limit decoder.buffer =
        .ok (some (frame.header, frame.wirePayload.take (count - frame.writeHeader.length))) := by
      rw [hrole, hbuffer, Frame.wire, List.take_append, List.take_of_length_le (by omega)]
      exact Header.read_writeHeader frame _ _ h.control h.size h.limit
    have hshort : (frame.wirePayload.take (count - frame.writeHeader.length)).length <
        frame.payload.length := by
      rw [Frame.wire, List.length_append, Header.length_wirePayload] at hcount
      rw [List.length_take]
      omega
    simp only [next, hpending, hheader, nextPayload, Header.readPayload_eq_none frame _ hshort]

/-! ### What a decoder does -/

/-- The header of the frame that a decoder is inside of, and the bytes after it: it was
kept from before, or it is the next thing in the buffer. -/
def Inside (decoder : Decoder) (header : Header) (bytes : Bytes) : Prop :=
  decoder.pending = some header ∧ bytes = decoder.buffer ∨
    decoder.pending = none ∧
      Header.read decoder.role decoder.limit decoder.buffer = .ok (some (header, bytes))

/-- A decoder stays as it is, or it is inside a frame. Then it gives that frame, or it
keeps the header. -/
theorem next_cases (decoder : Decoder) :
    (∃ violation, decoder.next = (.error violation, decoder)) ∨
    decoder.next = (.ok none, decoder) ∨
    ∃ header bytes, decoder.Inside header bytes ∧
      ((∃ frame rest, header.readPayload bytes = some (frame, rest) ∧
        decoder.next = (.ok (some frame), { decoder with pending := none, buffer := rest })) ∨
      decoder.next = (.ok none, { decoder with pending := some header, buffer := bytes })) := by
  cases hpending : decoder.pending with
  | some header =>
    refine .inr (.inr ⟨header, decoder.buffer, .inl ⟨hpending, rfl⟩, ?_⟩)
    cases hpayload : header.readPayload decoder.buffer with
    | some found =>
      exact .inl ⟨found.1, found.2, rfl, by simp only [next, hpending, nextPayload, hpayload]⟩
    | none => exact .inr (by simp only [next, hpending, nextPayload, hpayload])
  | none =>
    cases hheader : Header.read decoder.role decoder.limit decoder.buffer with
    | error violation => exact .inl ⟨violation, by simp only [next, hpending, hheader]⟩
    | ok found =>
      cases found with
      | none => exact .inr (.inl (by simp only [next, hpending, hheader]))
      | some found =>
        obtain ⟨header, bytes⟩ := found
        refine .inr (.inr ⟨header, bytes, .inr ⟨hpending, hheader⟩, ?_⟩)
        cases hpayload : header.readPayload bytes with
        | some found =>
          refine .inl ⟨found.1, found.2, rfl, ?_⟩
          simp only [next, hpending, hheader, nextPayload, hpayload]
        | none =>
          refine .inr ?_
          simp only [next, hpending, hheader, nextPayload, hpayload]

/-- What a decoder has left to work on: the bytes in its buffer, and the header whose
payload it awaits. -/
def work (decoder : Decoder) : Nat :=
  decoder.buffer.length + decoder.pending.isSome.toNat

/-- Every frame that is taken out leaves less to work on. -/
theorem work_next_lt {decoder after : Decoder} {frame : Frame}
    (h : decoder.next = (.ok (some frame), after)) : after.work < decoder.work := by
  obtain ⟨violation, hnext⟩ | hnext | ⟨header, bytes, hinside, hnext⟩ := decoder.next_cases
  · simp [hnext] at h
  · simp [hnext] at h
  · obtain ⟨frame', rest, hpayload, hnext⟩ | hnext := hnext
    · rw [hnext] at h
      cases h
      have hrest := Header.length_readPayload hpayload
      rcases hinside with ⟨hpending, hbytes⟩ | ⟨hpending, hheader⟩
      · -- The payload may be empty, but then the header is no longer kept.
        simp only [work, hpending, ← hbytes, Option.isSome_none, Option.isSome_some,
          Bool.toNat_false, Bool.toNat_true]
        omega
      · have hbytes := Header.length_of_read_eq_ok hheader
        simp only [work, hpending, Option.isSome_none, Bool.toNat_false]
        omega
    · simp [hnext] at h

/-- The header that a decoder keeps has passed the check for control frames. -/
def Sound (decoder : Decoder) : Prop :=
  ∀ header ∈ decoder.pending, header.opcode.isControl →
    header.fin ∧ header.length ≤ maxControlPayload

theorem Sound.feed {decoder : Decoder} (h : decoder.Sound) (bytes : Bytes) :
    (decoder.feed bytes).Sound := by
  unfold Decoder.feed
  split
  · exact h
  · exact h

/-- The frame that a decoder is inside of has passed the check. -/
theorem Sound.inside {decoder : Decoder} (h : decoder.Sound) {header : Header} {bytes : Bytes}
    (hinside : decoder.Inside header bytes) :
    header.opcode.isControl → header.fin ∧ header.length ≤ maxControlPayload := by
  rcases hinside with ⟨hpending, -⟩ | ⟨-, hheader⟩
  · exact h header hpending
  · exact Header.control_of_read_eq_ok hheader

/-- The invariant is kept by every step of a decoder. -/
theorem Sound.next {decoder : Decoder} (h : decoder.Sound) : decoder.next.2.Sound := by
  obtain ⟨violation, hnext⟩ | hnext | ⟨header, bytes, hinside, hnext⟩ := decoder.next_cases
  · rw [hnext]
    exact h
  · rw [hnext]
    exact h
  · obtain ⟨frame, rest, -, hnext⟩ | hnext := hnext
    · rw [hnext]
      intro header' hnone
      cases hnone
    · rw [hnext]
      intro header' hsome
      cases hsome
      exact h.inside hinside

/-- A control frame that comes out is final and short. -/
theorem Sound.control {decoder after : Decoder} {frame : Frame} (h : decoder.Sound)
    (hnext : decoder.next = (.ok (some frame), after)) (hcontrol : frame.opcode.isControl) :
    frame.fin ∧ frame.payload.length ≤ maxControlPayload := by
  obtain ⟨violation, h'⟩ | h' | ⟨header, bytes, hinside, h'⟩ := decoder.next_cases
  · simp [h'] at hnext
  · simp [h'] at hnext
  · obtain ⟨frame', rest, hpayload, h'⟩ | h' := h'
    · rw [h'] at hnext
      cases hnext
      obtain ⟨hopcode, hfin, hlength⟩ := Header.of_readPayload hpayload
      rw [hfin, hlength]
      exact h.inside hinside (hopcode ▸ hcontrol)
    · simp [h'] at hnext

/-! ### All frames -/

/-- The frames in what a decoder has been fed, up to the first violation, if there is one,
and the decoder after them. -/
def drain (decoder : Decoder) : List Frame × Option Violation × Decoder :=
  match _h : decoder.next with
  | (.error violation, after) => ([], some violation, after)
  | (.ok none, after) => ([], none, after)
  | (.ok (some frame), after) =>
    let (frames, violation, last) := after.drain
    (frame :: frames, violation, last)
termination_by decoder.work
decreasing_by exact work_next_lt _h

theorem drain_of_frame {decoder after : Decoder} {frame : Frame}
    (h : decoder.next = (.ok (some frame), after)) :
    decoder.drain = (frame :: after.drain.1, after.drain.2) := by
  rw [drain]
  split <;> simp_all

theorem drain_of_none {decoder : Decoder} (h : decoder.next.1 = .ok none) :
    decoder.drain = ([], none, decoder.next.2) := by
  rw [drain]
  split <;> simp_all

theorem drain_of_error {decoder after : Decoder} {violation : Violation}
    (h : decoder.next = (.error violation, after)) :
    decoder.drain = ([], some violation, after) := by
  rw [drain]
  split <;> simp_all

/-- The decoder at the other end has been fed the first bytes of some frames that were
written. It meets no violation, wherever the bytes stop, and gives the frames that are
there as a whole; these are all if the bytes are. -/
theorem drain_prefix (decoder : Decoder) (frames : List Frame)
    (hframes : ∀ frame ∈ frames, frame.Sendable decoder.limit ∧ decoder.role = frame.reader)
    (hpending : decoder.pending = none) (hbuffer : decoder.buffer <+: Frame.wires frames) :
    decoder.drain.2.1 = none ∧ decoder.drain.1 <+: frames ∧
      (decoder.buffer = Frame.wires frames → decoder.drain.1 = frames) := by
  induction frames generalizing decoder with
  | nil =>
    have hempty : decoder.buffer = [] := List.prefix_nil.mp hbuffer
    have hnext : decoder.next.1 = .ok none := by simp [next, hpending, hempty, Header.read]
    rw [drain_of_none hnext]
    exact ⟨rfl, List.prefix_rfl, fun _ => rfl⟩
  | cons frame frames ih =>
    obtain ⟨hsendable, hrole⟩ := hframes frame List.mem_cons_self
    have hwires : Frame.wires (frame :: frames) = frame.wire ++ Frame.wires frames := rfl
    rw [hwires] at hbuffer ⊢
    by_cases hcut : decoder.buffer.length < frame.wire.length
    · -- The bytes stop inside the first frame, so no frame comes out.
      have htake : decoder.buffer = frame.wire.take decoder.buffer.length := by
        have h := List.prefix_iff_eq_take.mp hbuffer
        rwa [List.take_append_of_le_length (Nat.le_of_lt hcut)] at h
      have hnext := decoder.next_take_wire frame _ hsendable hrole hpending htake hcut
      rw [drain_of_none hnext]
      refine ⟨rfl, List.nil_prefix, fun hall => ?_⟩
      rw [hall, List.length_append] at hcut
      omega
    · -- The first frame is there as a whole, and what is behind it starts the other frames.
      obtain ⟨rest, hrest⟩ :=
        List.prefix_of_prefix_length_le (List.prefix_append frame.wire _) hbuffer (by omega)
      have hnext := decoder.next_wire frame rest hsendable hrole hpending hrest.symm
      rw [← hrest, List.prefix_append_right_inj] at hbuffer
      obtain ⟨hviolation, hprefix, hall⟩ := ih { decoder with buffer := rest }
        (fun frame' h => hframes frame' (List.mem_cons_of_mem frame h)) hpending hbuffer
      rw [drain_of_frame hnext]
      refine ⟨hviolation, (List.prefix_cons_inj frame).mpr hprefix, fun h => ?_⟩
      rw [← hrest, List.append_cancel_left_eq] at h
      rw [hall h]

end Decoder

end SocketGate
