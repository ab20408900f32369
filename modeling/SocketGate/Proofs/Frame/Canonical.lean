import SocketGate.Proofs.Frame.Pieces
import SocketGate.Proofs.Frame.RoundTrip
import SocketGate.Proofs.Frame.Violation

/-!
# `SocketGate.Proofs.Frame.Canonical`: how much choice a wire form leaves

Bytes of any origin are read as a frame, and the frame is written again. Then almost all of them
come back. The first byte, the masking key and the payload have one form only
(`Frame.exists_layout`), and the second byte has one once the length does. The length has three
forms. A reader takes a length in a longer form than it needs, and a writer never chooses one.

`LengthForm` lists the three, with the lengths that each can give. `Frame.Shortest` says that no
shorter form than the one in some bytes could give a certain length.

* `LengthForm.shortest_iff`: that is the form in which the length is written.
* `Frame.Layout.wire_eq_iff`: a frame is written as it was read exactly if its length came in that
  form.
* `Frame.writeTo_of_read`: reading and then writing, for all bytes that are read as a frame.
-/

set_option autoImplicit false

namespace SocketGate

/-! ### The forms of a length -/

/-- The three forms in which a header gives the length of a payload. -/
inductive LengthForm where
  /-- In seven bits of the second byte. -/
  | short
  /-- In two bytes behind the second one. -/
  | medium
  /-- In eight bytes behind the second one. -/
  | long
  deriving DecidableEq

namespace LengthForm

/-- How many bytes the form takes behind the second one. -/
def width : LengthForm → Nat
  | .short => 0
  | .medium => 2
  | .long => 8

/-- What the seven bits are, for a length in this form. -/
def code : LengthForm → Nat → Nat
  | .short, size => size
  | .medium, _ => 126
  | .long, _ => 127

/-- Whether the form can give a length. Two of the numbers of seven bits announce the other two
forms. -/
def Gives : LengthForm → Nat → Prop
  | .short, size => size < 126
  | .medium, size => size < 256 ^ 2
  | .long, size => size < 256 ^ 8

/-- A length that is given in some form has at most eight bytes. -/
theorem Gives.lt {form : LengthForm} {size : Nat} (h : form.Gives size) : size < 2 ^ 64 := by
  cases form with
  | short => exact Nat.lt_trans h (by decide)
  | medium => exact Nat.lt_trans h (by decide)
  | long => exact h

/-- The form that a second byte announces. -/
def ofByte (second : UInt8) : LengthForm :=
  if (second &&& 0x7F).toNat = 126 then .medium
  else if (second &&& 0x7F).toNat = 127 then .long
  else .short

/-- The form in which a length is written. -/
def ofSize (size : Nat) : LengthForm :=
  if size ≤ 125 then .short else if size ≤ 0xFFFF then .medium else .long

theorem ofByte_eq_medium_iff {second : UInt8} :
    ofByte second = .medium ↔ (second &&& 0x7F).toNat = 126 := by
  unfold ofByte
  by_cases h : (second &&& 0x7F).toNat = 126
  · exact iff_of_true (if_pos h) h
  · rw [if_neg h]
    exact iff_of_false (by split <;> decide) h

theorem ofByte_eq_long_iff {second : UInt8} :
    ofByte second = .long ↔ (second &&& 0x7F).toNat = 127 := by
  unfold ofByte
  by_cases h : (second &&& 0x7F).toNat = 127
  · exact iff_of_true (by rw [if_neg (by omega), if_pos h]) h
  · rw [if_neg h]
    exact iff_of_false (by split <;> decide) h

/-- No form that gives a length is shorter than the one that it is written in. -/
theorem width_ofSize_le (form : LengthForm) (size : Nat) (h : form.Gives size) :
    (ofSize size).width ≤ form.width := by
  unfold ofSize
  cases form with
  | short =>
    change size < 126 at h
    exact Nat.le_of_eq (congrArg width (if_pos (by omega)))
  | medium =>
    change size < 256 ^ 2 at h
    split
    · exact Nat.zero_le _
    · exact Nat.le_of_eq (congrArg width (if_pos (by omega)))
  | long =>
    split
    · exact Nat.zero_le _
    · split <;> decide

/-- A form that gives a length is the shortest one exactly if the length is written in it. -/
theorem shortest_iff (form : LengthForm) (size : Nat) (h : form.Gives size) :
    (∀ other : LengthForm, other.Gives size → form.width ≤ other.width) ↔
      form = ofSize size := by
  constructor
  · intro hshortest
    have hshort : size < 126 → form.width ≤ 0 := hshortest .short
    have hmedium : size < 256 ^ 2 → form.width ≤ 2 := hshortest .medium
    unfold ofSize
    cases form with
    | short =>
      change size < 126 at h
      rw [if_pos (by omega)]
    | medium =>
      change size < 256 ^ 2 at h
      simp only [width] at hshort
      rw [if_neg (by omega), if_pos (by omega)]
    | long =>
      simp only [width] at hshort hmedium
      rw [if_neg (by omega), if_neg (by omega)]
  · rintro rfl other hother
    exact width_ofSize_le other size hother

end LengthForm

/-! ### What the bytes of a frame are -/

namespace Lead

/-- A frame passes the check for masks exactly if it has one where the reader is a server. -/
theorem checkMask_eq_ok_iff (role : Role) (masked : Bool) :
    checkMask role masked = .ok () ↔ (masked = true ↔ role = .server) := by
  cases role <;> cases masked <;> simp [checkMask]

/-- The bits of a first byte without reserved bits are those of its opcode and its FIN flag. -/
theorem first_eq : ∀ first : UInt8, first &&& 0x70 = 0 →
    ∀ opcode ∈ Opcode.ofCode? (first &&& 0x0F),
      first = opcode.code ||| (if decide (first &&& 0x80 ≠ 0) then 0x80 else 0) :=
  Bytes.forall_byte (by decide +kernel)

/-- The bits of a second byte are those of its mask flag and of its short length, which has seven
of them. -/
theorem second_eq : ∀ second : UInt8,
    second = (if decide (second &&& 0x80 ≠ 0) then 0x80 else 0) |||
        UInt8.ofNat (second &&& 0x7F).toNat ∧
      (second &&& 0x7F).toNat < 128 :=
  Bytes.forall_byte (by decide +kernel)

/-- The two bytes that are read, bit by bit. -/
theorem of_read {role : Role} {first second : UInt8} {lead : Lead}
    (h : Lead.read role first second = .ok lead) :
    first = lead.opcode.code ||| (if lead.fin then 0x80 else 0) ∧
      lead.masked = decide (second &&& 0x80 ≠ 0) ∧
      lead.shortLength = (second &&& 0x7F).toNat ∧ (lead.masked = true ↔ role = .server) := by
  unfold Lead.read at h
  split at h
  · cases h
  · rename_i hreserved
    split at h
    · cases h
    · rename_i opcode hopcode
      simp only [bind, Except.bind, pure, Except.pure] at h
      split at h
      · cases h
      · rename_i hmask
        split at h
        · cases h
        · cases h
          exact ⟨first_eq first (by simpa using hreserved) opcode hopcode, rfl, rfl,
            (checkMask_eq_ok_iff _ _).mp hmask⟩

/-- The width of the length is that of its form. -/
theorem lengthWidth_eq {lead : Lead} {second : UInt8}
    (h : lead.shortLength = (second &&& 0x7F).toNat) :
    lead.lengthWidth = (LengthForm.ofByte second).width := by
  unfold lengthWidth LengthForm.ofByte
  rw [h]
  split
  · rfl
  · split <;> rfl

/-- The length that is read, and its bytes. -/
theorem of_readLength {lead : Lead} {bytes rest : Bytes} {length : Nat}
    (h : lead.readLength bytes = some (length, rest)) :
    ∃ field, bytes = field ++ rest ∧ field.length = lead.lengthWidth ∧
      length = if lead.lengthWidth = 0 then lead.shortLength else Bytes.toNatBE field := by
  unfold readLength at h
  split at h
  · rename_i hzero
    cases h
    exact ⟨[], rfl, hzero.symm, (if_pos hzero).symm⟩
  · rename_i hwide
    rw [Option.map_eq_some_iff] at h
    obtain ⟨⟨field, rest'⟩, hsplit, hfound⟩ := h
    obtain ⟨hfield, rfl⟩ := (Bytes.splitExact?_eq_some_iff _ _ _ _).mp hsplit
    cases hfound
    exact ⟨field, rfl, hfield, (if_neg hwide).symm⟩

/-- The masking key that is read, and its bytes. -/
theorem of_readMask {lead : Lead} {bytes rest : Bytes} {mask : Option MaskKey}
    (h : lead.readMask bytes = some (mask, rest)) :
    mask.isSome = lead.masked ∧ bytes = (mask.elim [] MaskKey.toBytes) ++ rest := by
  unfold readMask at h
  split at h
  · rename_i hplain
    cases h
    exact ⟨by simpa using hplain, rfl⟩
  · rename_i hmasked
    split at h
    · cases h
      exact ⟨by simpa using hmasked, rfl⟩
    · cases h

end Lead

namespace Frame

/-- How the bytes lie that were read as a frame, where `second` is the second one and `field` is
the extended length. All others are the ones that the frame is written with. -/
structure Layout (bytes rest : Bytes) (frame : Frame) (second : UInt8) (field : Bytes) :
    Prop where
  bytes_eq : bytes =
    frame.firstByte :: second :: (field ++ frame.keyField ++ frame.wirePayload) ++ rest
  masked : decide (second &&& 0x80 ≠ 0) = frame.mask.isSome
  width : field.length = (LengthForm.ofByte second).width
  length : frame.payload.length =
    if (LengthForm.ofByte second).width = 0 then (second &&& 0x7F).toNat else Bytes.toNatBE field

/-- The bytes of a frame that is read lie so, and a server reads exactly those with a mask. -/
theorem exists_layout {role : Role} {limit : Nat} {bytes rest : Bytes} {frame : Frame}
    (h : Frame.read role limit bytes = .ok (some (frame, rest))) :
    (frame.mask.isSome = true ↔ role = .server) ∧
      ∃ second field, Layout bytes rest frame second field := by
  obtain ⟨header, payload, hheader, hpayload⟩ := read_eq_some_iff.mp h
  obtain ⟨first, second, fields, lead, keyed, rfl, hlead, hlength, hmask, hfin, hopcode⟩ :=
    Header.exists_of_read_eq_ok hheader
  obtain ⟨hfirst, hmasked, hshort, hrole⟩ := Lead.of_read hlead
  have hwidth := Lead.lengthWidth_eq hshort
  obtain ⟨field, rfl, hfield, hsize⟩ := Lead.of_readLength hlength
  obtain ⟨hkey, rfl⟩ := Lead.of_readMask hmask
  rw [Header.readPayload, Option.map_eq_some_iff] at hpayload
  obtain ⟨⟨front, rest'⟩, hsplit, hfound⟩ := hpayload
  obtain ⟨hfront, rfl⟩ := (Bytes.splitExact?_eq_some_iff _ _ _ _).mp hsplit
  cases hfound
  -- Unmasking the payload and masking it again gives the bytes as they came in.
  have hwire : (header.toFrame front).wirePayload = front := by
    unfold wirePayload Header.toFrame
    cases header.mask <;> simp
  have hkeyField : (header.toFrame front).keyField = header.mask.elim [] MaskKey.toBytes := by
    unfold keyField Header.toFrame
    cases header.mask <;> rfl
  have hpayloadLength : (header.toFrame front).payload.length = header.length := by
    rw [← Header.length_wirePayload, hwire, hfront]
  refine ⟨?_, second, field, ?_⟩
  · rw [← hrole, ← hkey]
    rfl
  · exact {
      bytes_eq := by
        have hbyte : (header.toFrame front).firstByte = first := by
          rw [hfirst, ← hopcode, ← hfin]
          rfl
        rw [hbyte, hwire, hkeyField]
        simp only [List.cons_append, List.append_assoc]
      masked := by
        rw [← hmasked, ← hkey]
        rfl
      width := hfield.trans hwidth
      length := by rw [hpayloadLength, hsize, hwidth, hshort] }

/-- The form that a written frame announces. -/
theorem ofByte_secondByte (frame : Frame) :
    LengthForm.ofByte frame.secondByte = LengthForm.ofSize frame.payload.length := by
  have hshort := (Lead.secondByte_bits frame).2
  unfold LengthForm.ofByte LengthForm.ofSize
  rw [hshort, shortLength]
  split
  · rw [if_neg (by omega), if_neg (by omega)]
  · split <;> rfl

/-- The seven bits that are written are the ones of the form. -/
theorem shortLength_eq (frame : Frame) :
    frame.shortLength = (LengthForm.ofSize frame.payload.length).code frame.payload.length := by
  unfold shortLength LengthForm.ofSize
  split
  · rfl
  · split <;> rfl

/-- The extended length that is written takes the bytes of the form. -/
theorem lengthField_eq (frame : Frame) :
    frame.lengthField =
      Bytes.ofNatBE (LengthForm.ofSize frame.payload.length).width frame.payload.length := by
  unfold lengthField LengthForm.ofSize
  split
  · rfl
  · split <;> rfl

/-- The bytes of a wire form, part by part. -/
theorem wire_eq (frame : Frame) :
    frame.wire = frame.firstByte :: frame.secondByte ::
      (frame.lengthField ++ frame.keyField ++ frame.wirePayload) := by
  rw [wire, writeHeader_eq]
  rfl

/-- The bytes `bytes` use the shortest form that gives this length. -/
def Shortest (bytes : Bytes) (size : Nat) : Prop :=
  ∃ second ∈ bytes[1]?, ∀ form : LengthForm, form.Gives size →
    (LengthForm.ofByte second).width ≤ form.width

namespace Layout

variable {bytes rest : Bytes} {frame : Frame} {second : UInt8} {field : Bytes}

/-- The form that the bytes announce can give the length. -/
theorem gives (h : Layout bytes rest frame second field) :
    (LengthForm.ofByte second).Gives frame.payload.length := by
  have hlength := h.length
  have hfield := Bytes.toNatBE_lt field
  rw [h.width] at hfield
  have hbyte := (Lead.second_eq second).2
  cases hform : LengthForm.ofByte second with
  | short =>
    -- The two numbers that announce the other forms are left out.
    rw [hform, if_pos (show LengthForm.short.width = 0 from rfl)] at hlength
    unfold LengthForm.ofByte at hform
    show frame.payload.length < 126
    split at hform
    · cases hform
    · split at hform
      · cases hform
      · omega
  | medium | long =>
    rw [hform] at hlength hfield
    rw [if_neg (by decide)] at hlength
    rw [hlength]
    exact hfield

/-- The bytes use the shortest form exactly if it is the one that the frame is written in. -/
theorem shortest_iff (h : Layout bytes rest frame second field) :
    Shortest bytes frame.payload.length ↔
      LengthForm.ofByte second = LengthForm.ofSize frame.payload.length := by
  rw [← LengthForm.shortest_iff _ _ h.gives, Shortest, h.bytes_eq]
  simp

/-- The seven bits of the second byte are the ones of its form. -/
theorem code_eq (h : Layout bytes rest frame second field) :
    (second &&& 0x7F).toNat = (LengthForm.ofByte second).code frame.payload.length := by
  cases hform : LengthForm.ofByte second with
  | short =>
    have hlength := h.length
    rw [hform, if_pos (show LengthForm.short.width = 0 from rfl)] at hlength
    exact hlength.symm
  | medium => exact LengthForm.ofByte_eq_medium_iff.mp hform
  | long => exact LengthForm.ofByte_eq_long_iff.mp hform

/-- The extended length is the number of its bytes that the form takes. -/
theorem field_eq (h : Layout bytes rest frame second field) :
    field = Bytes.ofNatBE (LengthForm.ofByte second).width frame.payload.length := by
  have hlength := h.length
  have hwidth := h.width
  split at hlength
  · rename_i hzero
    rw [hzero] at hwidth ⊢
    exact List.length_eq_zero_iff.mp hwidth
  · rw [hlength, ← hwidth]
    exact (Bytes.ofNatBE_toNatBE field).symm

/-- With the form that the frame is written in, the second byte and the length are those that it
is written with. -/
theorem fields_eq (h : Layout bytes rest frame second field)
    (hform : LengthForm.ofByte second = LengthForm.ofSize frame.payload.length) :
    second = frame.secondByte ∧ field = frame.lengthField := by
  have hcode := h.code_eq
  have hfield := h.field_eq
  rw [hform] at hcode hfield
  refine ⟨?_, hfield.trans frame.lengthField_eq.symm⟩
  have hsecond := (Lead.second_eq second).1
  rwa [h.masked, hcode, ← frame.shortLength_eq] at hsecond

/-- The bytes in front of the rest are the ones that the frame is written with exactly if they
use the shortest form. -/
theorem wire_eq_iff (h : Layout bytes rest frame second field) :
    frame.wire =
        frame.firstByte :: second :: (field ++ frame.keyField ++ frame.wirePayload) ↔
      Shortest bytes frame.payload.length := by
  rw [h.shortest_iff, wire_eq]
  constructor
  · intro hsame
    simp only [List.cons.injEq] at hsame
    rw [← hsame.2.1, ofByte_secondByte]
  · intro hform
    obtain ⟨hsecond, hfield⟩ := h.fields_eq hform
    rw [← hsecond, ← hfield]

/-- No bytes that are read as a frame are fewer than it is written with. -/
theorem length_wire_le (h : Layout bytes rest frame second field) :
    frame.wire.length ≤
      (frame.firstByte :: second :: (field ++ frame.keyField ++ frame.wirePayload)).length := by
  have hwritten : frame.lengthField.length = (LengthForm.ofSize frame.payload.length).width := by
    rw [frame.lengthField_eq, Bytes.length_ofNatBE]
  have hshort := LengthForm.width_ofSize_le _ _ h.gives
  rw [← hwritten, ← h.width] at hshort
  rw [wire_eq]
  simp only [List.length_cons, List.length_append]
  omega

end Layout

/-- Writing undoes reading, up to the form of the length. Some bytes are read as a frame, by
either end and with any limit. They begin with the bytes of the frame, `taken`, and

- the payload is within the limit, there is a mask exactly if a server reads, and a control frame
  is final and short;
- the frame has a wire form, which every buffer gets behind what it holds, and which is read as
  the frame again, whatever follows it;
- the wire form is no longer than what was taken, and it is the same exactly if the bytes use the
  shortest form that gives the length;
- all bytes that are read as this frame, by whichever end and limit, begin with the same ones if
  they and these both use the shortest form. -/
theorem writeTo_of_read {role : Role} {limit : Nat} {bytes rest : Bytes} {frame : Frame}
    (h : Frame.read role limit bytes = .ok (some (frame, rest))) :
    ∃ taken wire, bytes = taken ++ rest ∧
      frame.payload.length ≤ limit ∧
      (frame.mask.isSome = true ↔ role = .server) ∧
      (frame.opcode.isControl → frame.fin ∧ frame.payload.length ≤ maxControlPayload) ∧
      (∀ buffer, frame.writeTo buffer = (.ok (), buffer ++ wire)) ∧
      (∀ more, Frame.read role limit (wire ++ more) = .ok (some (frame, more))) ∧
      wire.length ≤ taken.length ∧
      (wire = taken ↔ Shortest bytes frame.payload.length) ∧
      ∀ role' limit' bytes' rest', Frame.read role' limit' bytes' = .ok (some (frame, rest')) →
        Shortest bytes frame.payload.length → Shortest bytes' frame.payload.length →
          bytes' = taken ++ rest' := by
  obtain ⟨hrole, second, field, hlayout⟩ := exists_layout h
  obtain ⟨header, payload, hheader, hpayload⟩ := read_eq_some_iff.mp h
  obtain ⟨hopcode, hfin, hlength⟩ := Header.of_readPayload hpayload
  have hsendable : frame.Sendable limit :=
    { control := by
        rw [hopcode, hfin, hlength]
        exact Header.control_of_read_eq_ok hheader
      size := hlayout.gives.lt
      limit := hlength ▸ Header.length_le_of_read hheader }
  have hreader : frame.reader = role := by
    cases role with
    | server => exact if_pos (hrole.mpr rfl)
    | client => exact if_neg fun hmask => nomatch hrole.mp hmask
  refine ⟨_, frame.wire, hlayout.bytes_eq, hsendable.limit, hrole, hsendable.control, ?_, ?_,
    hlayout.length_wire_le, hlayout.wire_eq_iff, ?_⟩
  · intro buffer
    rw [writeTo_eq, hsendable.write]
  · intro more
    rw [← hreader]
    exact read_wire_append hsendable more
  · intro role' limit' bytes' rest' h' hshortest hshortest'
    obtain ⟨-, second', field', hlayout'⟩ := exists_layout h'
    rw [← hlayout.wire_eq_iff.mpr hshortest, hlayout'.wire_eq_iff.mpr hshortest']
    exact hlayout'.bytes_eq

/-- A payload of one byte, with a mask and with its length in eight bytes. The frame is written
in eight bytes fewer. -/
theorem writeTo_of_read_longForm :
    let taken : Bytes := [0x82, 0xFF, 0, 0, 0, 0, 0, 0, 0, 1, 0x11, 0x22, 0x33, 0x44, 0xBB]
    let frame : Frame := ⟨true, .binary, some ⟨0x11, 0x22, 0x33, 0x44⟩, [0xAA]⟩
    Frame.read .server 1 (taken ++ [0x81]) = .ok (some (frame, [0x81])) ∧
      ∃ wire, frame.writeTo [] = (.ok (), wire) ∧ wire.length + 8 = taken.length ∧
        Frame.read .server 1 wire = .ok (some (frame, [])) ∧
        ¬ Shortest (taken ++ [0x81]) frame.payload.length := by
  intro taken frame
  have hread : Frame.read .server 1 (taken ++ [0x81]) = .ok (some (frame, [0x81])) := by
    decide +kernel
  obtain ⟨taken', wire, htaken, -, -, -, hwrite, hagain, hle, hsame, -⟩ := writeTo_of_read hread
  obtain rfl : taken = taken' := List.append_cancel_right htaken
  have hwire : wire = (frame.writeTo []).2 := by rw [hwrite, List.nil_append]
  have hlength : wire.length = 7 := by
    rw [hwire]
    decide +kernel
  refine ⟨hread, wire, hwrite [], by rw [hlength]; rfl, ?_, fun hshortest => ?_⟩
  · rw [← List.append_nil wire]
    exact hagain []
  · rw [hsame.mpr hshortest] at hlength
    cases hlength

end Frame

end SocketGate
