import SocketGate.Proofs.Message.Pieces

/-!
# `SocketGate.Proofs.Message.Origin`: which frames a message comes from

An assembler takes any sequence of frames, and it goes on after a violation. This module says
what it holds after each of the frames, and which of them a message was put together from.
Frames are named by their place in the sequence, since equal frames may well come twice.

`Assembler.Pushed` lists what one frame can do. Two of its six cases take a piece: what is in
progress with that piece is kept or given. `Assembler.Spans` is the invariant of a message in
progress, and of one that has just been completed. It began at a certain frame, something has
been in progress ever since, and its bytes are those of that frame and of all continuations
after it. So the stretches of two messages cannot overlap, because nothing is in progress at
the end of the first one.

* `Assembler.pushed_push`: every push is one of the six cases.
* `Assembler.Traced.of_le`: what is in progress comes from a stretch of the frames.
* `Assembler.of_given`: and so does a message that is given.
* `Assembler.origin_of_frames`: the whole account, for every limit and every sequence.
-/

set_option autoImplicit false

namespace SocketGate

namespace Assembler

/-! ### What a frame can do -/

/-- The frame brings a piece, and with it the message in progress is `begun`. -/
inductive Piece (assembler : Assembler) (frame : Frame) : Begun → Prop where
  /-- It starts a message. -/
  | start (type : MessageType) (own : frame.opcode = type.opcode)
      (pending : assembler.pending = none) :
      Piece assembler frame { type, payload := frame.payload }
  /-- It goes on with the one in progress. -/
  | next (begun : Begun) (own : frame.opcode = .continuation)
      (pending : assembler.pending = some begun) :
      Piece assembler frame (begun.extend frame.payload)

/-- What a frame gives, and the assembler after it. -/
inductive Pushed (assembler : Assembler) (frame : Frame) : Outcome → Assembler → Prop where
  | control (isControl : frame.opcode.isControl) : Pushed assembler frame (.ok none) assembler
  | stray (own : frame.opcode = .continuation) (pending : assembler.pending = none) :
      Pushed assembler frame (.error .strayContinuation) assembler
  | interleaved (type : MessageType) (own : frame.opcode = type.opcode)
      (pending : assembler.pending.isSome) :
      Pushed assembler frame (.error .interleavedMessage) assembler
  | exceeds (begun : Begun) (piece : assembler.Piece frame begun)
      (exceeds : assembler.limit < begun.payload.length) :
      Pushed assembler frame
        (.error (.oversizedMessage begun.payload.length assembler.limit))
        { assembler with pending := none }
  | held (begun : Begun) (piece : assembler.Piece frame begun) (fin : frame.fin = false)
      (fits : begun.payload.length ≤ assembler.limit) :
      Pushed assembler frame (.ok none) { assembler with pending := some begun }
  | finished (begun : Begun) (piece : assembler.Piece frame begun) (fin : frame.fin = true)
      (fits : begun.payload.length ≤ assembler.limit) :
      Pushed assembler frame ((begun.type.finish begun.payload).map some)
        { assembler with pending := none }

/-- A push is one of the six cases. -/
theorem pushed_push (assembler : Assembler) (frame : Frame) :
    assembler.Pushed frame (assembler.push frame).1 (assembler.push frame).2 := by
  -- A frame that starts a message is refused or taken by one rule for both types.
  have hstart (type : MessageType) (own : frame.opcode = type.opcode) :
      assembler.Pushed frame (assembler.push frame).1 (assembler.push frame).2 := by
    cases hpending : assembler.pending with
    | some begun =>
      rw [push_start assembler type own, pushStart, hpending, if_pos (by rfl)]
      exact .interleaved type own (by rw [hpending]; rfl)
    | none =>
      have hsame : ({ assembler with pending := none } : Assembler) = assembler := by
        rw [← hpending]
      have hpiece := Piece.start type own hpending
      by_cases hexceeds : assembler.limit < frame.payload.length
      · have h := Pushed.exceeds _ hpiece hexceeds
        rw [hsame] at h
        rwa [push_start_of_exceeds own hpending hexceeds]
      · have hfits := Nat.le_of_not_lt hexceeds
        rw [push_start_of_fits own hpending hfits]
        cases hfin : frame.fin with
        | false => exact .held _ hpiece hfin hfits
        | true =>
          have h := Pushed.finished _ hpiece hfin hfits
          rwa [hsame] at h
  cases hopcode : frame.opcode with
  | text => exact hstart .text hopcode
  | binary => exact hstart .binary hopcode
  | continuation =>
    cases hpending : assembler.pending with
    | none =>
      simp only [push, hopcode, pushContinuation, hpending]
      exact .stray hopcode hpending
    | some begun =>
      have hpiece := Piece.next begun hopcode hpending
      by_cases hexceeds : assembler.limit < begun.payload.length + frame.payload.length
      · rw [push_continuation_of_exceeds hopcode hpending hexceeds, ← begun.length_extend]
        exact .exceeds _ hpiece (by rwa [begun.length_extend])
      · have hfits : (begun.extend frame.payload).payload.length ≤ assembler.limit := by
          rw [begun.length_extend]
          exact Nat.le_of_not_lt hexceeds
        rw [push_continuation_of_fits hopcode hpending (Nat.le_of_not_lt hexceeds)]
        cases hfin : frame.fin with
        | false => exact .held _ hpiece hfin hfits
        | true => exact .finished _ hpiece hfin hfits
  | close | ping | pong =>
    have hcontrol : frame.opcode.isControl = true := by rw [hopcode]; rfl
    rw [push_control assembler frame hcontrol]
    exact .control hcontrol

/-- Control frames are neither pieces nor the start of a message. -/
theorem Piece.isControl {assembler : Assembler} {frame : Frame} {begun : Begun}
    (h : assembler.Piece frame begun) : frame.opcode.isControl = false := by
  cases h with
  | start type own => cases type <;> rw [own] <;> rfl
  | next begun own => rw [own]; rfl

namespace Pushed

variable {assembler after : Assembler} {frame : Frame} {outcome : Outcome}

/-- A control frame gives nothing and changes nothing. -/
theorem of_isControl (h : assembler.Pushed frame outcome after)
    (hcontrol : frame.opcode.isControl) : outcome = .ok none ∧ after = assembler := by
  cases h with
  | control => exact ⟨rfl, rfl⟩
  | stray own =>
    rw [own] at hcontrol
    cases hcontrol
  | interleaved type own =>
    rw [own] at hcontrol
    cases type <;> cases hcontrol
  | exceeds begun piece | held begun piece | finished begun piece =>
    rw [piece.isControl] at hcontrol
    cases hcontrol

/-- A message inside another is refused, and the one in progress stays as it is. -/
theorem of_interleaved (h : assembler.Pushed frame outcome after)
    (houtcome : outcome = .error .interleavedMessage) :
    after = assembler ∧ assembler.pending.isSome := by
  cases h with
  | interleaved type own pending => exact ⟨rfl, pending⟩
  | finished begun piece =>
    -- The bytes of a whole message can only be wrong in that they are no text.
    unfold MessageType.finish at houtcome
    split at houtcome
    · split at houtcome <;> cases houtcome
    · cases houtcome
  | control | stray | exceeds | held => cases houtcome

/-- Every other violation leaves nothing in progress. -/
theorem pending_of_violation (h : assembler.Pushed frame outcome after) {violation : Violation}
    (houtcome : outcome = .error violation) (hother : violation ≠ .interleavedMessage) :
    after.pending = none := by
  cases h with
  | stray own pending => exact pending
  | exceeds | finished => rfl
  | interleaved =>
    cases houtcome
    exact absurd rfl hother
  | control | held => cases houtcome

end Pushed

/-- A push does not change the limit. -/
theorem limit_push (assembler : Assembler) (frame : Frame) :
    (assembler.push frame).2.limit = assembler.limit := by
  have h := assembler.pushed_push frame
  generalize (assembler.push frame).1 = outcome, (assembler.push frame).2 = after at h
  cases h <;> rfl

/-! ### Places in a sequence -/

theorem pushAll_append (assembler : Assembler) (frames more : List Frame) :
    assembler.pushAll (frames ++ more) =
      ((assembler.pushAll frames).1 ++ ((assembler.pushAll frames).2.pushAll more).1,
        ((assembler.pushAll frames).2.pushAll more).2) := by
  induction frames generalizing assembler with
  | nil => rfl
  | cons frame frames ih =>
    rw [List.cons_append, pushAll_of_push _ rfl, pushAll_of_push frames rfl, ih]
    rfl

theorem length_pushAll (assembler : Assembler) (frames : List Frame) :
    (assembler.pushAll frames).1.length = frames.length := by
  induction frames generalizing assembler with
  | nil => rfl
  | cons frame frames ih => rw [pushAll_of_push frames rfl, List.length_cons, ih, List.length_cons]

theorem limit_pushAll (assembler : Assembler) (frames : List Frame) :
    (assembler.pushAll frames).2.limit = assembler.limit := by
  induction frames generalizing assembler with
  | nil => rfl
  | cons frame frames ih =>
    rw [pushAll_of_push frames rfl]
    exact (ih _).trans (limit_push assembler frame)

/-- A new assembler with this limit after the first `count` frames. -/
def heldAfter (limit : Nat) (frames : List Frame) (count : Nat) : Assembler :=
  (({ limit } : Assembler).pushAll (frames.take count)).2

/-- What the frame at `index` gives. -/
def given? (limit : Nat) (frames : List Frame) (index : Nat) : Option Outcome :=
  (({ limit } : Assembler).pushAll frames).1[index]?

variable {limit : Nat} {frames : List Frame}

theorem limit_heldAfter (count : Nat) : (heldAfter limit frames count).limit = limit :=
  limit_pushAll _ _

/-- What a frame gives, and what is held after it, is decided by what was held before it. -/
theorem pushed_at (limit : Nat) {index : Nat} {frame : Frame} (h : frames[index]? = some frame) :
    ∃ outcome, given? limit frames index = some outcome ∧
      (heldAfter limit frames index).Pushed frame outcome (heldAfter limit frames (index + 1)) := by
  have hlt : index < frames.length := (List.getElem?_eq_some_iff.mp h).1
  have htake : frames.take (index + 1) = frames.take index ++ [frame] := by
    rw [List.take_add_one, h, Option.toList_some]
  have hsplit : frames = frames.take index ++ frame :: frames.drop (index + 1) := by
    rw [List.append_cons, ← htake, List.take_append_drop]
  refine ⟨((heldAfter limit frames index).push frame).1, ?_, ?_⟩
  · have hlength : index = (({ limit } : Assembler).pushAll (frames.take index)).1.length := by
      rw [length_pushAll, List.length_take]
      omega
    conv => lhs; rw [given?, hsplit, pushAll_append]
    rw [List.getElem?_append_right (Nat.le_of_eq hlength.symm), ← hlength, Nat.sub_self,
      pushAll_of_push _ rfl]
    rfl
  · have hnext : heldAfter limit frames (index + 1) =
        ((heldAfter limit frames index).push frame).2 := by
      rw [heldAfter, htake, pushAll_append, pushAll_of_push [] rfl]
      rfl
    rw [hnext]
    exact pushed_push _ frame

/-! ### The stretch of a message -/

/-- The bytes of the message that the first of some frames starts: its own, and then those of
all continuations. -/
def gathered : List Frame → Bytes
  | [] => []
  | start :: since =>
    start.payload ++ (since.filter (·.opcode = .continuation)).flatMap (·.payload)

theorem gathered_append (frames : List Frame) (frame : Frame) (hne : frames ≠ []) :
    gathered (frames ++ [frame]) =
      gathered frames ++ if frame.opcode = .continuation then frame.payload else [] := by
  cases frames with
  | nil => exact absurd rfl hne
  | cons start since =>
    simp only [List.cons_append, gathered, List.filter_append, List.flatMap_append,
      List.append_assoc]
    split <;> simp [*]

/-- A message of this type began at `first`, something has been in progress since, and before
the frame at `count` its bytes are these. -/
structure Spans (limit : Nat) (frames : List Frame) (first count : Nat) (type : MessageType)
    (payload : Bytes) : Prop where
  lt : first < count
  start : frames[first]?.map (·.opcode) = some type.opcode
  payload_eq : payload = gathered ((frames.take count).drop first)
  idle : (heldAfter limit frames first).pending = none
  busy : ∀ between, first < between → between < count →
    (heldAfter limit frames between).pending.isSome

namespace Spans

variable {first count : Nat} {type : MessageType} {payload : Bytes} {frame : Frame}

/-- A message in progress goes over one more frame, which brings its bytes if it is a
continuation. -/
theorem extend (h : Spans limit frames first count type payload)
    (hframe : frames[count]? = some frame)
    (hpending : (heldAfter limit frames count).pending.isSome) :
    Spans limit frames first (count + 1) type
      (payload ++ if frame.opcode = .continuation then frame.payload else []) where
  lt := Nat.lt_succ_of_lt h.lt
  start := h.start
  payload_eq := by
    have hlt : count < frames.length := (List.getElem?_eq_some_iff.mp hframe).1
    have hfirst := h.lt
    have hlength : ((frames.take count).drop first).length ≠ 0 := by
      rw [List.length_drop, List.length_take]
      omega
    rw [List.take_add_one, hframe, Option.toList_some,
      List.drop_append_of_le_length (by rw [List.length_take]; omega),
      gathered_append _ frame (fun hnil => hlength (by rw [hnil, List.length_nil])),
      ← h.payload_eq]
  idle := h.idle
  busy between hfirst hbetween := by
    rcases Nat.lt_succ_iff_lt_or_eq.mp hbetween with hbefore | rfl
    · exact h.busy between hfirst hbefore
    · exact hpending

/-- A frame that is no continuation adds nothing to the message in progress. -/
theorem past (h : Spans limit frames first count type payload)
    (hframe : frames[count]? = some frame)
    (hpending : (heldAfter limit frames count).pending.isSome)
    (hother : frame.opcode ≠ .continuation) :
    Spans limit frames first (count + 1) type payload := by
  have hextend := h.extend hframe hpending
  rwa [if_neg hother, List.append_nil] at hextend

/-- A message begins. -/
theorem begin (hframe : frames[count]? = some frame) (hown : frame.opcode = type.opcode)
    (hpending : (heldAfter limit frames count).pending = none) :
    Spans limit frames count (count + 1) type frame.payload where
  lt := Nat.lt_succ_self count
  start := by rw [hframe, Option.map_some, hown]
  payload_eq := by
    have hlt : count < frames.length := (List.getElem?_eq_some_iff.mp hframe).1
    rw [List.take_add_one, hframe, Option.toList_some, List.drop_append_of_le_length
      (by rw [List.length_take]; omega), List.drop_eq_nil_of_le (by rw [List.length_take]; omega)]
    simp [gathered]
  idle := hpending
  busy between hfirst hbetween := by omega

end Spans

/-- What is held after some frames is within the limit, and it comes from a stretch of
them. -/
def Traced (limit : Nat) (frames : List Frame) (count : Nat) : Prop :=
  ∀ begun ∈ (heldAfter limit frames count).pending, begun.payload.length ≤ limit ∧
    ∃ first, Spans limit frames first count begun.type begun.payload

namespace Traced

variable {count : Nat} {frame : Frame} {begun : Begun}

/-- With one more piece the message in progress still comes from a stretch. -/
theorem piece (h : Traced limit frames count) (hframe : frames[count]? = some frame)
    (hpiece : (heldAfter limit frames count).Piece frame begun) :
    ∃ first, Spans limit frames first (count + 1) begun.type begun.payload := by
  cases hpiece with
  | start type own pending => exact ⟨count, .begin hframe own pending⟩
  | next begun own pending =>
    obtain ⟨-, first, hspans⟩ := h begun pending
    have hextend := hspans.extend hframe (by rw [pending]; rfl)
    rw [if_pos own] at hextend
    exact ⟨first, hextend⟩

/-- What is in progress stays in progress when a frame leaves it alone. -/
theorem same (h : Traced limit frames count) (hframe : frames[count]? = some frame)
    (hsame : heldAfter limit frames (count + 1) = heldAfter limit frames count)
    (hother : frame.opcode ≠ .continuation ∨ (heldAfter limit frames count).pending = none) :
    Traced limit frames (count + 1) := by
  intro begun hbegun
  rw [hsame] at hbegun
  obtain ⟨hfits, first, hspans⟩ := h begun hbegun
  rcases hother with hother | hnone
  · exact ⟨hfits, first, hspans.past hframe (by rw [Option.mem_def.mp hbegun]; rfl) hother⟩
  · rw [hnone] at hbegun
    cases hbegun

/-- Nothing in progress comes from anywhere. -/
theorem of_none (hnone : (heldAfter limit frames count).pending = none) :
    Traced limit frames count := by
  intro begun hbegun
  rw [hnone] at hbegun
  cases hbegun

/-- One more frame. -/
theorem succ (h : Traced limit frames count) (hframe : frames[count]? = some frame) :
    Traced limit frames (count + 1) := by
  obtain ⟨outcome, -, hpushed⟩ := pushed_at limit hframe
  have hlimit : (heldAfter limit frames count).limit = limit := limit_heldAfter count
  generalize hafter : heldAfter limit frames (count + 1) = after at hpushed
  cases hpushed with
  | control isControl =>
    refine h.same hframe hafter (.inl ?_)
    intro hown
    rw [hown] at isControl
    cases isControl
  | stray own pending => exact h.same hframe hafter (.inr pending)
  | interleaved type own pending =>
    refine h.same hframe hafter (.inl ?_)
    rw [own]
    cases type <;> decide
  | exceeds begun piece exceeds => exact of_none (by rw [hafter])
  | held begun piece fin fits =>
    intro begun' hbegun'
    rw [hafter] at hbegun'
    cases hbegun'
    exact ⟨hlimit ▸ fits, h.piece hframe piece⟩
  | finished begun piece fin fits => exact of_none (by rw [hafter])

/-- However many frames have come, what is in progress comes from a stretch of them. -/
theorem of_le (hcount : count ≤ frames.length) : Traced limit frames count := by
  induction count with
  | zero => exact of_none rfl
  | succ count ih => exact (ih (by omega)).succ (List.getElem?_eq_getElem (by omega))

end Traced

/-! ### Messages -/

/-- The message with some bytes has their type. -/
theorem of_finish {type : MessageType} {payload : Bytes} {message : Message}
    (h : type.finish payload = .ok message) :
    typeOf message = type ∧ message.payload = payload := by
  cases type with
  | binary =>
    cases h
    exact ⟨rfl, rfl⟩
  | text =>
    unfold MessageType.finish at h
    dsimp only at h
    split at h
    · rename_i content htext
      cases h
      exact ⟨rfl, Bytes.ofText_of_toText? htext⟩
    · cases h

/-- The frame at `last` gives a message, which began with the one at `first`. -/
structure Gives (limit : Nat) (frames : List Frame) (first last : Nat) (message : Message) :
    Prop where
  given : given? limit frames last = some (.ok (some message))
  spans : Spans limit frames first (last + 1) (typeOf message) message.payload

/-- A message that is given is within the limit and comes from a stretch, and nothing is left in
progress. -/
theorem of_given {last : Nat} {message : Message}
    (hgiven : given? limit frames last = some (.ok (some message))) :
    message.payload.length ≤ limit ∧ (heldAfter limit frames (last + 1)).pending = none ∧
      ∃ first, Gives limit frames first last message := by
  have hlt : last < frames.length := by
    have h := (List.getElem?_eq_some_iff.mp hgiven).1
    rwa [length_pushAll] at h
  have hframe := List.getElem?_eq_getElem hlt
  obtain ⟨outcome, houtcome, hpushed⟩ := pushed_at limit hframe
  have hlimit : (heldAfter limit frames last).limit = limit := limit_heldAfter last
  obtain rfl : outcome = .ok (some message) := Option.some.inj (houtcome.symm.trans hgiven)
  -- Only a frame that finishes a message gives one.
  generalize hresult : (Except.ok (some message) : Outcome) = result at hpushed
  generalize hafter : heldAfter limit frames (last + 1) = after at hpushed
  cases hpushed with
  | finished begun piece fin fits =>
    cases hfinish : begun.type.finish begun.payload with
    | error violation =>
      rw [hfinish] at hresult
      cases hresult
    | ok whole =>
      rw [hfinish] at hresult
      cases hresult
      obtain ⟨htype, hpayload⟩ := of_finish hfinish
      obtain ⟨first, hspans⟩ := (Traced.of_le (Nat.le_of_lt hlt)).piece hframe piece
      rw [← htype, ← hpayload] at hspans
      exact ⟨hpayload ▸ hlimit ▸ fits, rfl, first, hgiven, hspans⟩
  | control | stray | interleaved | exceeds | held => cases hresult

/-- The stretch of a message begins behind that of each earlier one. -/
theorem Gives.apart {first last first' last' : Nat} {message message' : Message}
    (h : Gives limit frames first last message) (h' : Gives limit frames first' last' message')
    (hlast : last < last') : last < first' := by
  -- Nothing is in progress at the end of the first stretch, so that is not inside the second.
  by_contra hoverlap
  have hbusy := h'.spans.busy (last + 1) (by omega) (by omega)
  rw [(of_given h.given).2.1] at hbusy
  cases hbusy

/-! ### The whole account -/

/-- What an assembler makes of any sequence of frames, violations included. In order:

- at all times what is in progress is within the limit; it has the type of the frame that began
  it, and its bytes are those of that frame and of all continuations since, in order;
- so is each message that is given, and it comes from a stretch of frames in the same way;
- the stretches of two messages do not overlap, so no frame is used by two of them;
- a control frame gives nothing and changes nothing;
- a frame that starts a message inside another is refused and changes nothing, so a final
  continuation that fits still completes the message in progress;
- after every other violation nothing is in progress. -/
theorem origin_of_frames (limit : Nat) (frames : List Frame) :
    let held := heldAfter limit frames
    let given := given? limit frames
    (∀ count, count ≤ frames.length → ∀ begun ∈ (held count).pending,
      begun.payload.length ≤ limit ∧
        ∃ first, Spans limit frames first count begun.type begun.payload) ∧
    (∀ last message, given last = some (.ok (some message)) →
      message.payload.length ≤ limit ∧ ∃ first, Gives limit frames first last message) ∧
    (∀ first last message first' last' message', Gives limit frames first last message →
      Gives limit frames first' last' message' → last < last' → last < first') ∧
    ∀ index frame, frames[index]? = some frame →
      (frame.opcode.isControl → given index = some (.ok none) ∧ held (index + 1) = held index) ∧
      (given index = some (.error .interleavedMessage) →
        held (index + 1) = held index ∧
        ∃ begun ∈ (held (index + 1)).pending, ∀ last : Frame, last.opcode = .continuation →
          last.fin → begun.payload.length + last.payload.length ≤ limit →
            ((held (index + 1)).push last).1 =
              (begun.type.finish (begun.payload ++ last.payload)).map some) ∧
      ∀ violation, given index = some (.error violation) → violation ≠ .interleavedMessage →
        (held (index + 1)).pending = none := by
  intro held given
  refine ⟨fun count hcount => Traced.of_le hcount, ?_, ?_, ?_⟩
  · intro last message hgiven
    obtain ⟨hfits, -, hgives⟩ := of_given hgiven
    exact ⟨hfits, hgives⟩
  · intro first last message first' last' message' h h' hlast
    exact h.apart h' hlast
  · intro index frame hframe
    obtain ⟨outcome, houtcome, hpushed⟩ := pushed_at limit hframe
    have hgiven (other : Outcome) (h : given index = some other) : outcome = other :=
      Option.some.inj (houtcome.symm.trans h)
    refine ⟨fun hcontrol => ?_, fun hrefused => ?_, fun violation hviolated hother => ?_⟩
    · obtain ⟨hnothing, hsame⟩ := hpushed.of_isControl hcontrol
      exact ⟨houtcome.trans (congrArg some hnothing), hsame⟩
    · obtain ⟨hsame, hpending⟩ := hpushed.of_interleaved (hgiven _ hrefused)
      obtain ⟨begun, hbegun⟩ := Option.isSome_iff_exists.mp hpending
      have hheld : held (index + 1) = held index := hsame
      have hlimit : (held index).limit = limit := limit_heldAfter index
      refine ⟨hheld, begun, hheld ▸ hbegun, fun last hown hfin hfits => ?_⟩
      rw [hheld, push_continuation_of_fits hown hbegun (hlimit.symm ▸ hfits), if_pos hfin]
    · exact hpushed.pending_of_violation (hgiven _ hviolated) hother

/-- A text is refused inside a binary message, which is then completed with the bytes before and
after it. -/
example :
    (pushAll { limit := 4 }
      [⟨false, .binary, none, [1]⟩, ⟨true, .text, none, [0x61]⟩, .ping [],
        ⟨true, .continuation, none, [2]⟩]).1 =
      [.ok none, .error .interleavedMessage, .ok none, .ok (some (.binary [1, 2]))] :=
  rfl

end Assembler

end SocketGate
