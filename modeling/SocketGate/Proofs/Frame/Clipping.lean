import SocketGate.Proofs.Frame.RoundTrip
import SocketGate.Proofs.Frame.Sized
import SocketGate.Proofs.Text.Boundary

/-!
# `SocketGate.Proofs.Frame.Clipping`: a close reason from its text to the peer

The text of a close reason may be as long as it likes. It is cut so that the close frame is a
control frame, the frame is written, and the peer reads it and then its payload. What arrives is
the reason with the text that was kept, provided that its code may be sent.

* `CloseReason.of?_eq`: the cut by index has an outcome, and this is the cut by characters.
* `Frame.decode?_wire_append`: a written frame is read by indices as it was.
* `CloseReason.exists_clipped`: which text is kept, how it is found, and what the peer makes of the
  frame, for every code and every text.
-/

set_option autoImplicit false

namespace SocketGate

/-- A frame that may be sent is put behind whatever a buffer holds. -/
theorem Frame.Sendable.writeTo {limit : Nat} {frame : Frame} (h : frame.Sendable limit)
    (buffer : Bytes) : frame.writeTo buffer = (.ok (), buffer ++ frame.wire) := by
  rw [writeTo_eq, h.write]

/-- A written frame is read by indices as it was, and with all of its bytes. -/
theorem Frame.decode?_wire_append {limit : Nat} {frame : Frame} (h : frame.Sendable limit)
    (hsize : frame.wire.length < 2 ^ 64) (rest : Bytes) :
    Frame.decode? frame.reader limit (frame.wire ++ rest) =
      .ok (.ok (some (frame, frame.wire.length))) := by
  have hheader := Header.read_writeHeader frame limit (frame.wirePayload ++ rest) h.control
    h.size h.limit
  have hrange : frame.writeHeader.length + frame.header.length < 2 ^ 64 := by
    rw [wire, List.length_append, Header.length_wirePayload] at hsize
    exact hsize
  rw [wire, List.append_assoc, decode?_of_header hheader, if_pos hrange,
    Header.readPayload_append, Option.map_some, ← List.append_assoc, List.length_append,
    Nat.add_sub_cancel]

namespace CloseReason

/-- The search for a place to cut always finds one, and the cut is the longest run of whole
characters that fits. -/
theorem of?_eq (code : CloseCode) (text : String) : of? code text = .ok (of code text) := by
  unfold of? of
  by_cases hfits : text.utf8ByteSize ≤ maxText
  · rw [if_pos hfits, Text.clip, if_pos hfits]
    rfl
  · obtain ⟨_, -, -, hstop, -, -⟩ :=
      Text.boundaryBefore?_clip maxText text (Nat.lt_of_not_le hfits)
    rw [if_neg hfits, hstop, Size.ok_bind, Text.truncate?_clip]
    rfl

/-- The frame of a reason that was built from a code and a text may be sent. Whoever accepts
control frames accepts it. -/
theorem sendable_close_of (code : CloseCode) (text : String) {limit : Nat}
    (hlimit : maxControlPayload ≤ limit) : (Frame.close (of code text)).Sendable limit := by
  have hpayload : (Frame.close (of code text)).payload.length ≤ maxControlPayload :=
    length_toPayload_of code text
  have hmax : maxControlPayload = 125 := rfl
  exact { control := fun _ => ⟨rfl, hpayload⟩, size := by omega, limit := by omega }

/-- A frame that holds at most a control payload, and no key, is short. -/
theorem length_wire_close_of (code : CloseCode) (text : String) :
    (Frame.close (of code text)).wire.length ≤ 127 := by
  have hpayload : (Frame.close (of code text)).payload.length ≤ 125 :=
    length_toPayload_of code text
  have hfield : (Frame.close (of code text)).lengthField = [] := if_pos hpayload
  rw [Frame.wire, Frame.writeHeader_eq, hfield, List.length_append, Header.length_wirePayload]
  show 2 + _ ≤ 127
  omega

/-- What becomes of a text that is given for a close reason with this number: `kept` is left of
it. -/
structure Clipped (number : UInt16) (text kept : String) : Prop where
  /-- What is kept are the first characters of the text. -/
  whole : kept.toList <+: text.toList
  /-- They fit beside the two bytes of the number. -/
  size : kept.utf8ByteSize ≤ 123
  /-- No more of them do. -/
  longest : ∀ chars, chars <+: text.toList → (String.ofList chars).utf8ByteSize ≤ 123 →
    chars <+: kept.toList
  /-- A text that fits is kept as it is. -/
  all : text.utf8ByteSize ≤ 123 → kept = text
  /-- The reason that is built has this text. -/
  built : of? (.ofNumber number) text = .ok { code := .ofNumber number, text := kept }
  /-- The search for the end of it takes at most three steps, all of them inside of a character. -/
  search : 123 < text.utf8ByteSize → ∃ steps ≤ 3, 123 = kept.utf8ByteSize + steps ∧
    Text.boundaryBefore? (Bytes.ofText text) 123 = .ok kept.utf8ByteSize ∧
    Text.isBoundary (Bytes.ofText text) kept.utf8ByteSize = true ∧
    ∀ taken < steps, Text.isBoundary (Bytes.ofText text) (123 - taken) = false
  /-- Every buffer gets the frame behind what it holds. -/
  written : ∀ buffer, (Frame.close { code := .ofNumber number, text := kept }).writeTo buffer =
    (.ok (), buffer ++ (Frame.close { code := .ofNumber number, text := kept }).wire)
  /-- Every client that accepts control frames reads it, whatever follows. -/
  received : ∀ limit, 125 ≤ limit → ∀ rest,
    Frame.decode? .client limit
        ((Frame.close { code := .ofNumber number, text := kept }).wire ++ rest) =
      .ok (.ok (some (Frame.close { code := .ofNumber number, text := kept },
        (Frame.close { code := .ofNumber number, text := kept }).wire.length)))
  /-- Its payload is the reason, or no reason if the number may not be sent. -/
  parsed : ofPayload? (Frame.close { code := .ofNumber number, text := kept }).payload =
    .ok (if CloseCode.MayBeSent number.toNat then { code := .ofNumber number, text := kept }
      else { code := .noStatus, text := "" })

/-- Close reasons always fit and keep whole characters: for every number and every text, of
whatever length, the longest run of whole characters that fits is kept and arrives. -/
theorem exists_clipped (number : UInt16) (text : String) : ∃ kept, Clipped number text kept := by
  have hlist : (Text.clip maxText text).toList = Text.clipChars maxText text.toList :=
    Text.toList_clip maxText text
  refine ⟨Text.clip maxText text, ?_⟩
  exact {
    whole := by
      rw [hlist]
      exact Text.clipChars_prefix maxText text.toList
    size := Text.utf8ByteSize_clip_le maxText text
    longest := by
      intro chars hprefix hfits
      rw [← Text.length_encode] at hfits
      rw [hlist]
      exact Text.prefix_clipChars hprefix hfits
    all := fun hfits => if_pos hfits
    built := of?_eq (.ofNumber number) text
    search := Text.boundaryBefore?_clip maxText text
    written := by
      intro buffer
      have hsendable := sendable_close_of (.ofNumber number) text (Nat.le_refl maxControlPayload)
      exact hsendable.writeTo buffer
    received := by
      intro limit hlimit rest
      have hwire := length_wire_close_of (.ofNumber number) text
      exact Frame.decode?_wire_append (sendable_close_of (.ofNumber number) text hlimit)
        (Nat.lt_of_le_of_lt hwire (by decide)) rest
    parsed := ofPayload?_toPayload_ofNumber number (Text.clip maxText text) }

end CloseReason

end SocketGate
