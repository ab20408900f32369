import SocketGate.Proofs.Frame.Pieces
import SocketGate.Proofs.Frame.RoundTrip

/-!
# `SocketGate.Proofs.Frame.Truncation`: streams that stop inside a frame

A stream of written frames may stop anywhere. `Frame.Cut` says where: between two frames, or
inside the next one. What is then left over of the stream is not what is left in the buffer of a
decoder, because a header is set aside as soon as it is complete. So a stream that stops exactly
behind a header leaves the buffer empty, and its end is taken for one between two frames.

* `Frame.exists_cut`: every stream of written frames is cut in one of these ways.
* `Frame.readAll_cut`: what is read of it, and what is left over.
* `Decoder.finds_of_prefix`: which ends a decoder reports, and which it does not.
-/

set_option autoImplicit false

namespace SocketGate

namespace Frame

/-! ### Where a stream stops -/

/-- A stream of `frames` that holds the first ones as a whole, and then these bytes. -/
inductive Cut (frames : List Frame) : (whole : List Frame) → (rest : Bytes) → Prop where
  /-- It stops between two frames, or before the first or behind the last one. -/
  | between (count : Nat) : Cut frames (frames.take count) []
  /-- It stops inside a frame, of which so many bytes are there. -/
  | inside (count : Nat) (frame : Frame) (size : Nat) (next : frames[count]? = some frame)
      (begun : 0 < size) (short : size < frame.wire.length) :
      Cut frames (frames.take count) (frame.wire.take size)

variable {role : Role} {limit : Nat} {frames whole : List Frame} {stream rest : Bytes}

/-- One more frame in front of the others. -/
theorem Cut.cons (h : Cut frames whole rest) (frame : Frame) :
    Cut (frame :: frames) (frame :: whole) rest := by
  cases h with
  | between count => exact .between (count + 1)
  | inside count next size hnext begun short =>
    exact .inside (count + 1) next size hnext begun short

theorem exists_cut (frames : List Frame) (stream : Bytes) (h : stream <+: wires frames) :
    ∃ whole rest, Cut frames whole rest ∧ stream = wires whole ++ rest := by
  induction frames generalizing stream with
  | nil =>
    obtain rfl : stream = [] := List.prefix_nil.mp h
    exact ⟨_, _, .between 0, rfl⟩
  | cons frame frames ih =>
    have hwires : wires (frame :: frames) = frame.wire ++ wires frames := rfl
    rw [hwires] at h
    by_cases hshort : stream.length < frame.wire.length
    · -- Not even the first frame is there as a whole.
      have htake : stream = frame.wire.take stream.length := by
        have htake := List.prefix_iff_eq_take.mp h
        rwa [List.take_append_of_le_length (Nat.le_of_lt hshort)] at htake
      cases stream with
      | nil => exact ⟨_, _, .between 0, rfl⟩
      | cons byte stream =>
        exact ⟨_, _, .inside 0 frame _ rfl (Nat.succ_pos stream.length) hshort, htake⟩
    · obtain ⟨later, rfl⟩ :=
        List.prefix_of_prefix_length_le (List.prefix_append frame.wire _) h (by omega)
      obtain ⟨whole, rest, hcut, rfl⟩ := ih later ((List.prefix_append_right_inj _).mp h)
      exact ⟨_, _, hcut.cons frame, (List.append_assoc ..).symm⟩

/-! ### What is read of it -/

/-- Frames that can be sent to the end that reads. -/
def SendableTo (role : Role) (limit : Nat) (frames : List Frame) : Prop :=
  ∀ frame ∈ frames, frame.Sendable limit ∧ frame.reader = role

/-- Written frames are read in front of what follows them. -/
theorem readAll_wires_append (hframes : SendableTo role limit frames) (rest : Bytes) :
    readAll role limit (wires frames ++ rest) =
      (frames ++ (readAll role limit rest).1, (readAll role limit rest).2) := by
  induction frames with
  | nil => rfl
  | cons frame frames ih =>
    obtain ⟨hsendable, rfl⟩ := hframes frame List.mem_cons_self
    have hwires : wires (frame :: frames) ++ rest = frame.wire ++ (wires frames ++ rest) :=
      List.append_assoc ..
    rw [hwires, readAll_of_frame (read_wire_append hsendable _),
      ih fun other hother => hframes other (List.mem_cons_of_mem frame hother)]
    rfl

/-- What is there of the next frame is incomplete. -/
theorem Cut.read (h : Cut frames whole rest) (hframes : SendableTo role limit frames) :
    Frame.read role limit rest = .ok none := by
  cases h with
  | between count => rfl
  | inside count frame size next begun short =>
    obtain ⟨hsendable, rfl⟩ := hframes frame (List.mem_of_getElem? next)
    exact read_take_wire hsendable size short

/-- The frames that are there as a whole are read, and the bytes behind them are left over. -/
theorem readAll_cut (h : Cut frames whole rest) (hframes : SendableTo role limit frames) :
    readAll role limit (wires whole ++ rest) = (whole, none, rest) := by
  have hwhole : SendableTo role limit whole := by
    intro frame hframe
    cases h with
    | between count => exact hframes frame (List.mem_of_mem_take hframe)
    | inside count => exact hframes frame (List.mem_of_mem_take hframe)
  rw [readAll_wires_append hwhole, readAll_of_none (h.read hframes), List.append_nil]

/-! ### What is left in the buffer -/

/-- The stream stops between two of these frames, or before the first or behind the last one. -/
def StopsBetween (frames : List Frame) (stream : Bytes) : Prop :=
  ∃ count, stream = wires (frames.take count)

/-- The stream stops behind the header of one of these frames, and its payload is still to come. -/
def StopsBehindHeader (frames : List Frame) (stream : Bytes) : Prop :=
  ∃ (count : Nat) (frame : Frame), frames[count]? = some frame ∧ frame.payload ≠ [] ∧
    stream = wires (frames.take count) ++ frame.writeHeader

theorem length_wire (frame : Frame) :
    frame.wire.length = frame.writeHeader.length + frame.payload.length := by
  rw [wire, List.length_append, Header.length_wirePayload]

theorem take_writeHeader (frame : Frame) :
    frame.wire.take frame.writeHeader.length = frame.writeHeader := by
  rw [wire, List.take_left]

/-- Of a frame that has begun the buffer holds nothing exactly where its header ends. -/
theorem buffer_waiting_eq_nil_iff {frame : Frame} {size : Nat} (h : frame.Sendable limit)
    (hbegun : 0 < size) (hshort : size < frame.wire.length) :
    (Decoder.waiting frame.reader limit (frame.wire.take size)).buffer = [] ↔
      size = frame.writeHeader.length := by
  have hlength := frame.length_wire
  by_cases hcut : size < frame.writeHeader.length
  · -- The header is not complete, and all of it stays in the buffer.
    have htake : frame.wire.take size = frame.writeHeader.take size :=
      List.take_append_of_le_length (Nat.le_of_lt hcut)
    have hheader := Header.read_take_writeHeader frame limit size h.control h.size h.limit hcut
    rw [htake, Decoder.waiting, hheader, ← List.length_eq_zero_iff, List.length_take]
    omega
  · -- The header has been set aside, and only bytes of the payload are in the buffer.
    have htake : frame.wire.take size =
        frame.writeHeader ++ frame.wirePayload.take (size - frame.writeHeader.length) := by
      rw [wire, List.take_append, List.take_of_length_le (Nat.not_lt.mp hcut)]
    have hheader := Header.read_writeHeader frame limit
      (frame.wirePayload.take (size - frame.writeHeader.length)) h.control h.size h.limit
    rw [htake, Decoder.waiting, hheader, ← List.length_eq_zero_iff, List.length_take,
      Header.length_wirePayload]
    omega

/-- Something is left over of a frame that has begun. -/
theorem take_wire_ne_nil {frame : Frame} {size : Nat} (hbegun : 0 < size)
    (hshort : size < frame.wire.length) : frame.wire.take size ≠ [] := by
  rw [ne_eq, ← List.length_eq_zero_iff, List.length_take]
  omega

/-- What is left over of a stream does not depend on how it is seen to be cut. -/
theorem Cut.rest_eq {whole' : List Frame} {rest' : Bytes} (h : Cut frames whole rest)
    (h' : Cut frames whole' rest') (hframes : SendableTo role limit frames)
    (hstream : wires whole ++ rest = wires whole' ++ rest') : rest = rest' := by
  have hread := readAll_cut h hframes
  rw [hstream, readAll_cut h' hframes] at hread
  exact (congrArg (·.2.2) hread).symm

/-- The stream stops inside one of these frames, but not behind its header. -/
def StopsInside (frames : List Frame) (stream : Bytes) : Prop :=
  ¬ StopsBetween frames stream ∧ ¬ StopsBehindHeader frames stream

/-- A stream stops between two frames exactly if nothing is left over. -/
theorem stopsBetween_iff (h : Cut frames whole rest) (hframes : SendableTo role limit frames) :
    StopsBetween frames (wires whole ++ rest) ↔ rest = [] := by
  constructor
  · rintro ⟨count, hstream⟩
    exact h.rest_eq (.between count) hframes (hstream.trans (List.append_nil _).symm)
  · intro hrest
    cases h with
    | between count => exact ⟨count, List.append_nil _⟩
    | inside count frame size next begun short => exact absurd hrest (take_wire_ne_nil begun short)

/-- A stream stops behind a header exactly if something is left over, but not in the buffer. -/
theorem stopsBehindHeader_iff (h : Cut frames whole rest)
    (hframes : SendableTo role limit frames) :
    StopsBehindHeader frames (wires whole ++ rest) ↔
      rest ≠ [] ∧ (Decoder.waiting role limit rest).buffer = [] := by
  constructor
  · rintro ⟨count, frame, hnext, hpayload, hstream⟩
    obtain ⟨hsendable, rfl⟩ := hframes frame (List.mem_of_getElem? hnext)
    have hbegun : 0 < frame.writeHeader.length := Nat.succ_pos _
    have hshort : frame.writeHeader.length < frame.wire.length := by
      rw [length_wire]
      exact Nat.lt_add_of_pos_right (List.length_pos_iff.mpr hpayload)
    have hcut := Cut.inside count frame _ hnext hbegun hshort
    rw [h.rest_eq hcut hframes (hstream.trans (by rw [take_writeHeader]))]
    exact ⟨take_wire_ne_nil hbegun hshort,
      (buffer_waiting_eq_nil_iff hsendable hbegun hshort).mpr rfl⟩
  · rintro ⟨hrest, hbuffer⟩
    cases h with
    | between count => exact absurd rfl hrest
    | inside count frame size next begun short =>
      obtain ⟨hsendable, rfl⟩ := hframes frame (List.mem_of_getElem? next)
      obtain rfl := (buffer_waiting_eq_nil_iff hsendable begun short).mp hbuffer
      refine ⟨count, frame, next, fun hpayload => ?_, by rw [take_writeHeader]⟩
      rw [length_wire, hpayload] at short
      exact Nat.lt_irrefl _ short

/-- Something is left in the buffer exactly if the stream stops elsewhere. -/
theorem stopsInside_iff (h : Cut frames whole rest) (hframes : SendableTo role limit frames) :
    StopsInside frames (wires whole ++ rest) ↔
      (Decoder.waiting role limit rest).buffer ≠ [] := by
  rw [StopsInside, stopsBetween_iff h hframes, stopsBehindHeader_iff h hframes]
  by_cases hrest : rest = []
  · rw [hrest]
    simp [Decoder.waiting, Header.read]
  · simp [hrest]

end Frame

namespace Decoder

open SocketGate.Frame (Cut SendableTo StopsInside wires)

variable {role : Role} {limit : Nat} {frames whole : List Frame} {rest : Bytes}

/-- A decoder that has found no more frames looks at its buffer when the stream ends. -/
theorem nextAtEnd_waiting (h : Frame.read role limit rest = .ok none) :
    (waiting role limit rest).nextAtEnd.1 =
      if (waiting role limit rest).buffer = [] then .ok none else .error .leftover := by
  have hnext := (before_waiting role limit rest).next
  rw [h] at hnext
  rw [nextAtEnd, hnext]
  simp only [List.isEmpty_iff]
  split <;> rfl

/-- What a decoder finds in the pieces of a stream that is cut somewhere, and at its end. -/
structure Finds (role : Role) (limit : Nat) (frames : List Frame) (pieces : List Bytes)
    (found : List Frame × Option Violation × Decoder) : Prop where
  /-- It finds the frames that are there as a whole, and behind them less than a frame is left. -/
  cut : ∃ rest, Cut frames found.1 rest ∧ pieces.flatten = wires found.1 ++ rest
  violation : found.2.1 = none
  leftover_iff : found.2.2.nextAtEnd.1 = .error .leftover ↔ StopsInside frames pieces.flatten
  clean_iff : found.2.2.nextAtEnd.1 = .ok none ↔ ¬ StopsInside frames pieces.flatten

/-- Wherever a stream of written frames stops, and in whatever pieces it comes. -/
theorem finds_of_prefix (frames : List Frame) (hframes : SendableTo role limit frames)
    (pieces : List Bytes) (h : pieces.flatten <+: wires frames) :
    Finds role limit frames pieces (({ role, limit } : Decoder).drainPieces pieces) := by
  obtain ⟨whole, rest, hcut, hstream⟩ := Frame.exists_cut frames _ h
  have hfound : ({ role, limit } : Decoder).drainPieces pieces =
      (whole, none, waiting role limit rest) := by
    rw [drainPieces_eq, hstream, Frame.readAll_cut hcut hframes]
  have hend := nextAtEnd_waiting (hcut.read hframes)
  have hinside := Frame.stopsInside_iff hcut hframes
  rw [← hstream] at hinside
  rw [hfound]
  constructor
  · exact ⟨rest, hcut, hstream⟩
  · rfl
  · rw [hend, hinside]
    split <;> simp [*]
  · rw [hend, hinside]
    split <;> simp [*]

end Decoder

end SocketGate
