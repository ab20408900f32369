import SocketGate.Proofs.Frame.Stream

/-!
# `SocketGate.Proofs.Frame.Pieces`: a stream of frames in pieces

A stream can be read as a whole, by `Frame.readAll`, which takes one frame after the other off
its front. Or it is fed to a decoder piece by piece, by `Decoder.drainPieces`. A decoder sets
a header aside as soon as it is complete, so its buffer is not always what is left of the
stream. `Decoder.Before` relates the two, and `Decoder.waiting` is the decoder that has
looked at all there is.

* `Header.read_append_of_error` and `Header.read_append_of_some`: bytes that come later change
  neither a violation nor a header.
* `Decoder.Before.drain`: a decoder gives the frames of what is left of the stream.
* `Frame.readAll_append`: a stream in two parts.
* `Decoder.drainPieces_eq_readAll`: so the pieces make no difference, and a violation stays.
-/

set_option autoImplicit false

namespace SocketGate

/-! ### Bytes that come later -/

namespace Lead

theorem readLength_append_of_some {lead : Lead} {bytes rest : Bytes} {length : Nat}
    (h : lead.readLength bytes = some (length, rest)) (more : Bytes) :
    lead.readLength (bytes ++ more) = some (length, rest ++ more) := by
  unfold readLength at h ⊢
  split at h
  · rename_i hshort
    rw [if_pos hshort]
    cases h
    rfl
  · rename_i hlong
    rw [Option.map_eq_some_iff] at h
    obtain ⟨⟨field, rest'⟩, hsplit, hfound⟩ := h
    obtain ⟨hfield, rfl⟩ := (Bytes.splitExact?_eq_some_iff _ _ _ _).mp hsplit
    cases hfound
    rw [if_neg hlong, List.append_assoc, Bytes.splitExact?_append _ _ _ hfield]
    rfl

theorem readMask_append_of_some {lead : Lead} {bytes rest : Bytes} {mask : Option MaskKey}
    (h : lead.readMask bytes = some (mask, rest)) (more : Bytes) :
    lead.readMask (bytes ++ more) = some (mask, rest ++ more) := by
  unfold readMask at h ⊢
  split at h
  · rename_i hplain
    rw [if_pos hplain]
    cases h
    rfl
  · rename_i hmasked
    rw [if_neg hmasked]
    split at h
    · cases h
      rfl
    · cases h

theorem suffix_of_readLength {lead : Lead} {bytes rest : Bytes} {length : Nat}
    (h : lead.readLength bytes = some (length, rest)) : rest <:+ bytes := by
  unfold readLength at h
  split at h
  · cases h
    exact List.suffix_rfl
  · rw [Option.map_eq_some_iff] at h
    obtain ⟨⟨field, rest'⟩, hsplit, hfound⟩ := h
    obtain ⟨-, rfl⟩ := (Bytes.splitExact?_eq_some_iff _ _ _ _).mp hsplit
    cases hfound
    exact List.suffix_append field _

theorem suffix_of_readMask {lead : Lead} {bytes rest : Bytes} {mask : Option MaskKey}
    (h : lead.readMask bytes = some (mask, rest)) : rest <:+ bytes := by
  unfold readMask at h
  split at h
  · cases h
    exact List.suffix_rfl
  · split at h
    · rename_i a b c d _
      cases h
      exact ⟨[a, b, c, d], rfl⟩
    · cases h

end Lead

namespace Header

/-- A violation in a header is there whatever follows. -/
theorem read_append_of_error {role : Role} {limit : Nat} {bytes : Bytes} {violation : Violation}
    (h : Header.read role limit bytes = .error violation) (more : Bytes) :
    Header.read role limit (bytes ++ more) = .error violation := by
  match bytes with
  | [] | [_] => simp [Header.read] at h
  | first :: second :: fields =>
    rw [List.cons_append, List.cons_append]
    rw [Header.read] at h ⊢
    cases hlead : Lead.read role first second with
    | error _ =>
      rw [hlead] at h
      exact h
    | ok lead =>
      simp only [hlead] at h ⊢
      cases hlength : lead.readLength fields with
      | none => simp [hlength] at h
      | some found =>
        obtain ⟨length, keyed⟩ := found
        simp only [hlength, Lead.readLength_append_of_some hlength more] at h ⊢
        split at h
        · rename_i htoo
          rw [if_pos htoo]
          exact h
        · -- A masking key is never a violation.
          split at h <;> cases h

/-- A header that is complete is the same whatever follows. -/
theorem read_append_of_some {role : Role} {limit : Nat} {bytes rest : Bytes} {header : Header}
    (h : Header.read role limit bytes = .ok (some (header, rest))) (more : Bytes) :
    Header.read role limit (bytes ++ more) = .ok (some (header, rest ++ more)) := by
  match bytes with
  | [] | [_] => simp [Header.read] at h
  | first :: second :: fields =>
    rw [List.cons_append, List.cons_append]
    rw [Header.read] at h ⊢
    cases hlead : Lead.read role first second with
    | error _ => simp [hlead] at h
    | ok lead =>
      simp only [hlead] at h ⊢
      cases hlength : lead.readLength fields with
      | none => simp [hlength] at h
      | some found =>
        obtain ⟨length, keyed⟩ := found
        simp only [hlength, Lead.readLength_append_of_some hlength more] at h ⊢
        split at h
        · cases h
        · rename_i hfits
          rw [if_neg hfits]
          cases hmask : lead.readMask keyed with
          | none => simp [hmask] at h
          | some found =>
            obtain ⟨mask, payload⟩ := found
            simp only [hmask, Lead.readMask_append_of_some hmask more] at h ⊢
            cases h
            rfl

/-- What follows a header is the end of the bytes it was read off. -/
theorem suffix_of_read {role : Role} {limit : Nat} {bytes rest : Bytes} {header : Header}
    (h : Header.read role limit bytes = .ok (some (header, rest))) : rest <:+ bytes := by
  obtain ⟨first, second, fields, lead, keyed, rfl, -, hlength, hmask, -, -⟩ :=
    exists_of_read_eq_ok h
  have hfields : fields <:+ first :: second :: fields := ⟨[first, second], rfl⟩
  exact ((Lead.suffix_of_readMask hmask).trans (Lead.suffix_of_readLength hlength)).trans hfields

/-- What follows a payload is the end of the bytes it was read off. -/
theorem suffix_of_readPayload {header : Header} {bytes rest : Bytes} {frame : Frame}
    (h : header.readPayload bytes = some (frame, rest)) : rest <:+ bytes := by
  rw [readPayload, Option.map_eq_some_iff] at h
  obtain ⟨⟨payload, rest'⟩, hsplit, hfound⟩ := h
  obtain ⟨-, rfl⟩ := (Bytes.splitExact?_eq_some_iff _ _ _ _).mp hsplit
  cases hfound
  exact List.suffix_append payload _

/-- A payload that is complete is the same whatever follows. -/
theorem readPayload_append_of_some {header : Header} {bytes rest : Bytes} {frame : Frame}
    (h : header.readPayload bytes = some (frame, rest)) (more : Bytes) :
    header.readPayload (bytes ++ more) = some (frame, rest ++ more) := by
  unfold readPayload at h ⊢
  rw [Option.map_eq_some_iff] at h
  obtain ⟨⟨payload, rest'⟩, hsplit, hfound⟩ := h
  obtain ⟨hlength, rfl⟩ := (Bytes.splitExact?_eq_some_iff _ _ _ _).mp hsplit
  cases hfound
  rw [List.append_assoc, Bytes.splitExact?_append _ _ _ hlength]
  rfl

end Header

/-! ### The stream as a whole -/

namespace Frame

variable {role : Role} {limit : Nat} {bytes rest : Bytes}

/-- A frame is read by reading its header and then its payload. -/
theorem read_eq_some_iff {frame : Frame} :
    Frame.read role limit bytes = .ok (some (frame, rest)) ↔
      ∃ header payload, Header.read role limit bytes = .ok (some (header, payload)) ∧
        header.readPayload payload = some (frame, rest) := by
  unfold Frame.read
  cases hheader : Header.read role limit bytes with
  | error violation => simp
  | ok found =>
    cases found with
    | none => simp
    | some found =>
      obtain ⟨header, payload⟩ := found
      simp only [Except.ok.injEq, Option.some.injEq, Prod.mk.injEq]
      constructor
      · intro h
        exact ⟨header, payload, ⟨rfl, rfl⟩, h⟩
      · rintro ⟨_, _, ⟨rfl, rfl⟩, h⟩
        exact h

/-- A violation is one in the header. -/
theorem read_eq_error_iff {violation : Violation} :
    Frame.read role limit bytes = .error violation ↔
      Header.read role limit bytes = .error violation := by
  unfold Frame.read
  split <;> simp_all

/-- A frame takes two bytes at least off the front. -/
theorem length_lt_of_read {frame : Frame}
    (h : Frame.read role limit bytes = .ok (some (frame, rest))) :
    rest.length < bytes.length := by
  obtain ⟨header, payload, hheader, hpayload⟩ := read_eq_some_iff.mp h
  have hfirst := Header.length_of_read_eq_ok hheader
  have hsecond := Header.length_readPayload hpayload
  omega

/-- What follows a frame is the end of the bytes it was read off. -/
theorem suffix_of_read {frame : Frame}
    (h : Frame.read role limit bytes = .ok (some (frame, rest))) : rest <:+ bytes := by
  obtain ⟨header, payload, hheader, hpayload⟩ := read_eq_some_iff.mp h
  exact (Header.suffix_of_readPayload hpayload).trans (Header.suffix_of_read hheader)

/-- The frames at the front of a byte string up to the first violation, if there is one, and
the bytes behind them. -/
def readAll (role : Role) (limit : Nat) (bytes : Bytes) :
    List Frame × Option Violation × Bytes :=
  match _h : Frame.read role limit bytes with
  | .error violation => ([], some violation, bytes)
  | .ok none => ([], none, bytes)
  | .ok (some (frame, rest)) =>
    let later := readAll role limit rest
    (frame :: later.1, later.2)
termination_by bytes.length
decreasing_by exact length_lt_of_read _h

theorem readAll_of_error {violation : Violation}
    (h : Frame.read role limit bytes = .error violation) :
    readAll role limit bytes = ([], some violation, bytes) := by
  rw [readAll]
  split <;> simp_all

theorem readAll_of_none (h : Frame.read role limit bytes = .ok none) :
    readAll role limit bytes = ([], none, bytes) := by
  rw [readAll]
  split <;> simp_all

theorem readAll_of_frame {frame : Frame}
    (h : Frame.read role limit bytes = .ok (some (frame, rest))) :
    readAll role limit bytes =
      (frame :: (readAll role limit rest).1, (readAll role limit rest).2) := by
  rw [readAll]
  split <;> simp_all

/-- A frame that is complete is the same whatever follows. -/
theorem read_append_of_some {frame : Frame}
    (h : Frame.read role limit bytes = .ok (some (frame, rest))) (more : Bytes) :
    Frame.read role limit (bytes ++ more) = .ok (some (frame, rest ++ more)) := by
  obtain ⟨header, payload, hheader, hpayload⟩ := read_eq_some_iff.mp h
  exact read_eq_some_iff.mpr ⟨header, payload ++ more, Header.read_append_of_some hheader more,
    Header.readPayload_append_of_some hpayload more⟩

/-- A violation stays where it is, and no frame comes out any more. -/
theorem readAll_append_of_violation {violation : Violation}
    (h : (readAll role limit bytes).2.1 = some violation) (more : Bytes) :
    readAll role limit ((readAll role limit bytes).2.2 ++ more) =
      ([], some violation, (readAll role limit bytes).2.2 ++ more) := by
  induction bytes using readAll.induct role limit with
  | case1 bytes violation' herror =>
    rw [readAll_of_error herror] at h ⊢
    cases h
    exact readAll_of_error
      (read_eq_error_iff.mpr (Header.read_append_of_error (read_eq_error_iff.mp herror) more))
  | case2 bytes hnone =>
    rw [readAll_of_none hnone] at h
    cases h
  | case3 bytes frame rest hframe ih =>
    rw [readAll_of_frame hframe] at h ⊢
    exact ih h

/-- A stream in two parts: the second part goes on with what the first one has left. -/
theorem readAll_append (role : Role) (limit : Nat) (bytes more : Bytes) :
    readAll role limit (bytes ++ more) =
      ((readAll role limit bytes).1 ++
          (readAll role limit ((readAll role limit bytes).2.2 ++ more)).1,
        (readAll role limit ((readAll role limit bytes).2.2 ++ more)).2) := by
  induction bytes using readAll.induct role limit with
  | case1 bytes violation herror =>
    rw [readAll_of_error herror]
    rfl
  | case2 bytes hnone =>
    rw [readAll_of_none hnone]
    rfl
  | case3 bytes frame rest hframe ih =>
    rw [readAll_of_frame hframe, readAll_of_frame (read_append_of_some hframe more), ih,
      List.cons_append]

/-- What is not read is the end of the byte string. -/
theorem readAll_suffix (role : Role) (limit : Nat) (bytes : Bytes) :
    (readAll role limit bytes).2.2 <:+ bytes := by
  induction bytes using readAll.induct role limit with
  | case1 bytes violation herror =>
    simp only [readAll_of_error herror, List.suffix_rfl]
  | case2 bytes hnone =>
    simp only [readAll_of_none hnone, List.suffix_rfl]
  | case3 bytes frame rest hframe ih =>
    rw [readAll_of_frame hframe]
    exact ih.trans (suffix_of_read hframe)

end Frame

/-! ### The stream in pieces -/

namespace Decoder

variable {role : Role} {limit : Nat} {bytes : Bytes} {decoder : Decoder}

/-- A decoder that has `bytes` left of its stream. -/
inductive Before (role : Role) (limit : Nat) (bytes : Bytes) : Decoder → Prop where
  /-- They are in its buffer. -/
  | whole : Before role limit bytes { role, limit, buffer := bytes }
  /-- The header at their front has been set aside, and the others are in its buffer. -/
  | headed (header : Header) (payload : Bytes)
      (read : Header.read role limit bytes = .ok (some (header, payload))) :
      Before role limit bytes { role, limit, pending := some header, buffer := payload }

/-- The decoder that has looked at the `bytes` it has left. A header that is complete and
breaks no rule has been set aside. -/
def waiting (role : Role) (limit : Nat) (bytes : Bytes) : Decoder :=
  match Header.read role limit bytes with
  | .ok (some (header, payload)) => { role, limit, pending := some header, buffer := payload }
  | _ => { role, limit, buffer := bytes }

theorem before_waiting (role : Role) (limit : Nat) (bytes : Bytes) :
    Before role limit bytes (waiting role limit bytes) := by
  unfold waiting
  split
  · rename_i header payload hheader
    exact .headed header payload hheader
  · exact .whole

theorem feed_eq (decoder : Decoder) (bytes : Bytes) :
    decoder.feed bytes = { decoder with buffer := decoder.buffer ++ bytes } := by
  unfold feed
  split
  · rename_i hempty
    rw [List.isEmpty_iff.mp hempty, List.append_nil]
  · rfl

/-- Bytes that are fed come behind those that are left. -/
theorem Before.feed (h : Before role limit bytes decoder) (more : Bytes) :
    Before role limit (bytes ++ more) (decoder.feed more) := by
  rw [feed_eq]
  cases h with
  | whole => exact .whole
  | headed header payload read =>
    exact .headed header (payload ++ more) (Header.read_append_of_some read more)

/-- A decoder does with what it has left what `Frame.read` does. -/
theorem Before.next (h : Before role limit bytes decoder) :
    decoder.next = match Frame.read role limit bytes with
      | .error violation => (.error violation, waiting role limit bytes)
      | .ok none => (.ok none, waiting role limit bytes)
      | .ok (some (frame, rest)) => (.ok (some frame), { role, limit, buffer := rest }) := by
  cases h with
  | whole =>
    unfold Frame.read waiting
    cases hheader : Header.read role limit bytes with
    | error violation => simp only [Decoder.next, hheader]
    | ok found =>
      cases found with
      | none => simp only [Decoder.next, hheader]
      | some found =>
        obtain ⟨header, payload⟩ := found
        cases hpayload : header.readPayload payload <;>
          simp only [Decoder.next, hheader, nextPayload, hpayload]
  | headed header payload read =>
    -- Only the payload is read, since the header has been read before.
    unfold Frame.read waiting
    rw [read]
    cases hpayload : header.readPayload payload <;>
      simp only [Decoder.next, nextPayload, hpayload]

/-- A decoder gives the frames of what it has left, and then it waits. -/
theorem Before.drain (h : Before role limit bytes decoder) :
    decoder.drain =
      ((Frame.readAll role limit bytes).1, (Frame.readAll role limit bytes).2.1,
        waiting role limit (Frame.readAll role limit bytes).2.2) := by
  induction bytes using Frame.readAll.induct role limit generalizing decoder with
  | case1 bytes violation herror =>
    have hnext := h.next
    rw [herror] at hnext
    rw [drain_of_error hnext, Frame.readAll_of_error herror]
  | case2 bytes hnone =>
    have hnext := h.next
    rw [hnone] at hnext
    rw [drain_of_none (by rw [hnext]), hnext, Frame.readAll_of_none hnone]
  | case3 bytes frame rest hframe ih =>
    have hnext := h.next
    rw [hframe] at hnext
    rw [drain_of_frame hnext, ih .whole, Frame.readAll_of_frame hframe]

/-- Feed the pieces of a stream one after the other, and after each one take out the frames
that are there, up to a violation. The first violation is kept. -/
def drainPieces (decoder : Decoder) : List Bytes → List Frame × Option Violation × Decoder
  | [] => ([], none, decoder)
  | piece :: pieces =>
    let first := (decoder.feed piece).drain
    let later := first.2.2.drainPieces pieces
    (first.1 ++ later.1, first.2.1.or later.2.1, later.2.2)

/-- The pieces of a stream give what the stream gives as a whole, and what waits at the end is
what is left of it. -/
theorem Before.drainPieces (h : Before role limit bytes decoder) (piece : Bytes)
    (pieces : List Bytes) :
    decoder.drainPieces (piece :: pieces) =
      ((Frame.readAll role limit (bytes ++ (piece ++ pieces.flatten))).1,
        (Frame.readAll role limit (bytes ++ (piece ++ pieces.flatten))).2.1,
        waiting role limit
          (Frame.readAll role limit (bytes ++ (piece ++ pieces.flatten))).2.2) := by
  induction pieces generalizing decoder bytes piece with
  | nil =>
    rw [Decoder.drainPieces, (h.feed piece).drain, Decoder.drainPieces, List.flatten_nil,
      List.append_nil, List.append_nil, Option.or_none]
  | cons next pieces ih =>
    -- The others begin with what the first piece has left.
    have hlater := ih (before_waiting role limit (Frame.readAll role limit (bytes ++ piece)).2.2)
      next
    have hwhole := Frame.readAll_append role limit (bytes ++ piece) (next ++ pieces.flatten)
    have hviolation (violation : Violation)
        (hfirst : (Frame.readAll role limit (bytes ++ piece)).2.1 = some violation) :=
      Frame.readAll_append_of_violation hfirst (next ++ pieces.flatten)
    rw [Decoder.drainPieces, (h.feed piece).drain]
    dsimp only
    rw [hlater, List.flatten_cons, ← List.append_assoc bytes, hwhole]
    dsimp only
    congr 2
    cases hfirst : (Frame.readAll role limit (bytes ++ piece)).2.1 with
    | none => rfl
    | some violation => rw [hviolation violation hfirst]; rfl

/-- A decoder that begins with the stream. -/
theorem drainPieces_eq (role : Role) (limit : Nat) (pieces : List Bytes) :
    let whole := Frame.readAll role limit pieces.flatten
    ({ role, limit } : Decoder).drainPieces pieces =
      (whole.1, whole.2.1, waiting role limit whole.2.2) := by
  cases pieces with
  | nil =>
    have hempty : Frame.readAll role limit [] = ([], none, []) := Frame.readAll_of_none rfl
    rw [List.flatten_nil, hempty]
    rfl
  | cons piece pieces => exact Before.drainPieces .whole piece pieces

/-! ### After a violation -/

/-- A violation changes nothing in the decoder, and it is still there when more bytes have
come in. -/
theorem next_feed_of_error {after : Decoder} {violation : Violation}
    (h : decoder.next = (.error violation, after)) (bytes : Bytes) :
    after = decoder ∧ (decoder.feed bytes).next = (.error violation, decoder.feed bytes) := by
  rw [feed_eq]
  unfold Decoder.next at h ⊢
  cases hpending : decoder.pending with
  | some header => simp [hpending] at h
  | none =>
    simp only [hpending] at h ⊢
    cases hheader : Header.read decoder.role decoder.limit decoder.buffer with
    | error violation' =>
      rw [hheader] at h
      obtain ⟨hviolation, rfl⟩ := Prod.mk.inj h
      cases hviolation
      simp only [Header.read_append_of_error hheader bytes, and_self]
    | ok found => cases found <;> simp [hheader] at h

/-- After a violation every later attempt meets it again, whatever is fed in between. -/
theorem next_feeds_of_error {after : Decoder} {violation : Violation}
    (h : decoder.next = (.error violation, after)) (pieces : List Bytes) (bytes : Bytes) :
    let later := pieces.foldl (fun decoder piece => (decoder.feed piece).next.2) after
    later = { decoder with buffer := decoder.buffer ++ pieces.flatten } ∧
      (later.feed bytes).next = (.error violation, later.feed bytes) := by
  induction pieces generalizing decoder after with
  | nil =>
    obtain ⟨rfl, hagain⟩ := next_feed_of_error h bytes
    refine ⟨?_, hagain⟩
    rw [List.flatten_nil, List.append_nil]
    rfl
  | cons piece pieces ih =>
    obtain ⟨rfl, hagain⟩ := next_feed_of_error h piece
    obtain ⟨hlater, hnext⟩ := ih hagain
    rw [List.foldl_cons, hagain]
    refine ⟨?_, hnext⟩
    rw [hlater, feed_eq, List.flatten_cons, List.append_assoc]

/-- The pieces of a stream make no difference, wherever it is cut. In order:

- the frames are those of the stream as a whole;
- so is the violation behind them, if there is one;
- what the stream as a whole leaves is the end of it;
- the buffer holds what is left, without the header at its front if that is complete and
  breaks no rule;
- once a decoder has met a violation, it meets the same one in every later attempt and takes
  nothing from its buffer, whatever is fed in between. -/
theorem drainPieces_eq_readAll (role : Role) (limit : Nat) (pieces : List Bytes) :
    let found := ({ role, limit } : Decoder).drainPieces pieces
    let whole := Frame.readAll role limit pieces.flatten
    found.1 = whole.1 ∧ found.2.1 = whole.2.1 ∧ whole.2.2 <:+ pieces.flatten ∧
    (found.2.2.buffer = match Header.read role limit whole.2.2 with
      | .ok (some (_, payload)) => payload
      | _ => whole.2.2) ∧
    ∀ (decoder after : Decoder) (violation : Violation),
      decoder.next = (.error violation, after) → ∀ (more : List Bytes) (bytes : Bytes),
        let later := more.foldl (fun decoder piece => (decoder.feed piece).next.2) after
        later = { decoder with buffer := decoder.buffer ++ more.flatten } ∧
          (later.feed bytes).next = (.error violation, later.feed bytes) := by
  intro found whole
  have hfound : found = (whole.1, whole.2.1, waiting role limit whole.2.2) :=
    drainPieces_eq role limit pieces
  have hbuffer : (waiting role limit whole.2.2).buffer =
      match Header.read role limit whole.2.2 with
      | .ok (some (_, payload)) => payload
      | _ => whole.2.2 := by
    unfold waiting
    split <;> rfl
  refine ⟨?_, ?_, Frame.readAll_suffix role limit pieces.flatten, ?_, ?_⟩
  · rw [hfound]
  · rw [hfound]
  · rw [hfound, hbuffer]
  · intro decoder after violation h more bytes
    exact next_feeds_of_error h more bytes

end Decoder

end SocketGate
