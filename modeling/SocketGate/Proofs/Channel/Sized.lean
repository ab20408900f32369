import SocketGate.Channel.Sized
import SocketGate.Proofs.Channel.Inbound
import SocketGate.Proofs.Frame.Sized
import SocketGate.Proofs.Message.Fragments
import SocketGate.Proofs.Message.Origin

/-!
# `SocketGate.Proofs.Channel.Sized`: the sizes that a channel computes

`Channel.sizes` are the sizes that are computed in an action, and `Channel.sizesOver` those of a
run. None of them leaves the 64 bits, whatever the settings are and whatever the peer sends: a
buffer has fewer than 2^63 bytes, and each sum is one of two lengths of buffers
(`Channel.sizesOver_ne_range`). What a peer can do with a large limit is to announce a payload
that no buffer has room for; with limits below 2^63 it cannot (`Channel.sizesOver_eq_ok`).

Two sums do not depend on buffers alone, and the settings are checked from below only. The places
of the queue are the setting and two more, and where a frame ends is up to the length that it
announces. With settings near 2^64 both leave the 64 bits.

* `Assembler.push?_cases`: the size of a message in progress.
* `Channel.sizes_cases`: the sizes of one action.
* `Channel.sizes_of_actions`: for which settings each size is within range.
-/

set_option autoImplicit false

namespace SocketGate

/-! ### Messages in progress -/

namespace Assembler

variable {assembler : Assembler} {frame : Frame}

/-- The message in progress is in a buffer. -/
def Held (assembler : Assembler) : Prop :=
  ∀ begun ∈ assembler.pending, begun.payload.length < 2 ^ 63

/-- With the next piece the message is within its limit, but it is too large for any buffer. -/
def Overgrown (assembler : Assembler) (frame : Frame) : Prop :=
  frame.opcode = .continuation ∧ ∃ begun ∈ assembler.pending,
    2 ^ 63 ≤ begun.payload.length + frame.payload.length ∧
      begun.payload.length + frame.payload.length ≤ assembler.limit

/-- A piece is put together with what is there if a buffer has room for both. -/
theorem held_push (h : assembler.Held) (hframe : frame.payload.length < 2 ^ 63)
    (hroom : ¬ assembler.Overgrown frame) : (assembler.push frame).2.Held := by
  have hpushed := assembler.pushed_push frame
  generalize (assembler.push frame).1 = outcome, (assembler.push frame).2 = after at hpushed ⊢
  cases hpushed with
  | control | stray | interleaved => exact h
  | exceeds | finished => exact nofun
  | held begun piece fin fits =>
    rintro _ ⟨⟩
    cases piece with
    | start type own pending => exact hframe
    | next begun own pending =>
      rw [begun.length_extend] at fits ⊢
      exact Nat.lt_of_not_le fun hlarge => hroom ⟨own, begun, pending, hlarge, fits⟩

/-- A frame that is no next piece has no size to be added. -/
theorem push?_of_not_next
    (h : ∀ begun, frame.opcode = .continuation → assembler.pending ≠ some begun) :
    assembler.push? frame = .ok (assembler.push frame) := by
  unfold push?
  split
  · rename_i begun hopcode hpending
    exact absurd hpending (h begun hopcode)
  · rfl

/-- The size of a message in progress is a sum of two lengths of buffers, so it is within range.
There may be no room for it. -/
theorem push?_of_next {begun : Begun} (h : assembler.Held)
    (hframe : frame.payload.length < 2 ^ 63) (hopcode : frame.opcode = .continuation)
    (hpending : assembler.pending = some begun) :
    assembler.push? frame =
      if begun.payload.length + frame.payload.length ≤ assembler.limit ∧
          2 ^ 63 ≤ begun.payload.length + frame.payload.length then .error .capacity
      else .ok (assembler.push frame) := by
  have hbegun := h begun hpending
  simp only [push?, hopcode, hpending]
  rw [Size.add_of_lt (by omega), Size.ok_bind]
  by_cases hfits : begun.payload.length + frame.payload.length ≤ assembler.limit
  · by_cases hlarge : 2 ^ 63 ≤ begun.payload.length + frame.payload.length
    · rw [if_pos hfits, if_pos ⟨hfits, hlarge⟩, Size.hold_of_le hlarge]
      rfl
    · rw [if_pos hfits, if_neg fun hboth => hlarge hboth.2,
        Size.hold_of_lt (Nat.lt_of_not_le hlarge)]
      rfl
  · rw [if_neg hfits, if_neg fun hboth => hfits hboth.1]
    rfl

/-- A frame is taken as it is without sizes, or the message has no room. -/
theorem push?_cases (h : assembler.Held) (hframe : frame.payload.length < 2 ^ 63) :
    (assembler.push? frame = .ok (assembler.push frame) ∧ ¬ assembler.Overgrown frame) ∨
      (assembler.push? frame = .error .capacity ∧ assembler.Overgrown frame) := by
  by_cases hnext : ∃ begun, frame.opcode = .continuation ∧ assembler.pending = some begun
  · obtain ⟨begun, hopcode, hpending⟩ := hnext
    have hpush := push?_of_next h hframe hopcode hpending
    split at hpush
    · rename_i hboth
      exact .inr ⟨hpush, hopcode, begun, hpending, hboth.2, hboth.1⟩
    · rename_i hroom
      refine .inl ⟨hpush, ?_⟩
      rintro ⟨-, begun', hpending', hlarge, hfits⟩
      obtain rfl := Option.some.inj (hpending.symm.trans hpending')
      exact hroom ⟨hfits, hlarge⟩
  · refine .inl ⟨push?_of_not_next fun begun hopcode hpending =>
      hnext ⟨begun, hopcode, hpending⟩, ?_⟩
    rintro ⟨hopcode, begun, hpending, -⟩
    exact hnext ⟨begun, hopcode, hpending⟩

end Assembler

/-! ### Messages that are sent -/

/-- The sizes that are computed when a message is cut into frames. -/
def Message.sizes (message : Message) (limit : Nat) : Sized Unit := do
  Size.hold message.payload.length
  match message.frames? limit with
  | some _ => return ()
  | none => throw .range

/-- A message whose bytes are in a buffer is cut without a size out of range. -/
theorem Message.sizes_eq (message : Message) (limit : Nat) :
    message.sizes limit = if message.payload.length < 2 ^ 63 then .ok () else .error .capacity := by
  unfold Message.sizes
  by_cases hsize : message.payload.length < 2 ^ 63
  · rw [if_pos hsize, Size.hold_of_lt hsize, Size.ok_bind, message.frames?_eq _ hsize]
    rfl
  · rw [if_neg hsize, Size.hold_of_le (Nat.le_of_not_lt hsize)]
    rfl

/-! ### Channels -/

namespace Channel

variable {channel : Channel}

/-- The sizes that are computed for a frame that comes in: those of the message it belongs to. -/
def frameSizes (channel : Channel) (frame : Frame) : Sized Unit :=
  if channel.session.state = .opened then do
    let _ ← channel.assembler.push? frame
    return ()
  else .ok ()

/-- The sizes that the reader computes: those of the buffer, of the next frame in it, and of the
message that this frame belongs to. -/
def readSizes (channel : Channel) : Sized Unit := do
  Size.hold channel.absorb.decoder.buffer.length
  match ← channel.absorb.decoder.next? with
  | (.ok (some frame), _) => channel.frameSizes frame
  | _ => return ()

/-- The sizes that are computed in an action: those of the frames of a message, and those of the
reader. -/
def sizes (channel : Channel) : Action → Sized Unit
  | .call (.send message) => message.sizes channel.session.frameLimit
  | .read _ .inbound => if channel.reader = .reading then channel.readSizes else .ok ()
  | _ => .ok ()

/-- The sizes that are computed during some actions. -/
def sizesOver (channel : Channel) : List Action → Sized Unit
  | [] => .ok ()
  | action :: actions => do
    channel.sizes action
    (channel.after action).sizesOver actions

/-- No buffer has room for what the reader would need. -/
inductive Cramped (channel : Channel) : Prop where
  /-- For the bytes that are there. -/
  | buffer (large : 2 ^ 63 ≤ channel.absorb.decoder.buffer.length)
  /-- For the payload that is announced. -/
  | payload (starved : channel.absorb.decoder.Starved)
  /-- For the message in progress. -/
  | message (frame : Frame) (incoming : channel.incoming = .ok (some frame))
      (overgrown : channel.assembler.Overgrown frame)

/-- A frame brings no size that is out of range. If there is room for it, the message in progress
is still in a buffer after it. -/
theorem frameSizes_cases {frame : Frame} (h : channel.assembler.Held)
    (hframe : frame.payload.length < 2 ^ 63) :
    (channel.frameSizes frame = .ok () ∧
        (channel.session.state = .opened → (channel.assembler.push frame).2.Held)) ∨
      (channel.frameSizes frame = .error .capacity ∧ channel.assembler.Overgrown frame) := by
  unfold frameSizes
  split
  · obtain ⟨hpush, hroom⟩ | ⟨hpush, hgrown⟩ := Assembler.push?_cases h hframe
    · exact .inl ⟨by rw [hpush]; rfl, fun _ => Assembler.held_push h hframe hroom⟩
    · exact .inr ⟨by rw [hpush]; rfl, hgrown⟩
  · rename_i hclosed
    exact .inl ⟨rfl, fun hopened => absurd hopened hclosed⟩

/-- The reader computes no size that is out of range. If it has room, the message in progress is
still in a buffer after the next frame. -/
theorem readSizes_cases (h : channel.assembler.Held) :
    (channel.readSizes = .ok () ∧ ∀ frame, channel.incoming = .ok (some frame) →
        channel.session.state = .opened → (channel.assembler.push frame).2.Held) ∨
      (channel.readSizes = .error .capacity ∧ channel.Cramped) := by
  unfold readSizes
  by_cases hlarge : 2 ^ 63 ≤ channel.absorb.decoder.buffer.length
  · refine .inr ⟨?_, .buffer hlarge⟩
    rw [Size.hold_of_le hlarge]
    rfl
  have hbuffer := Nat.lt_of_not_le hlarge
  rw [Size.hold_of_lt hbuffer, Size.ok_bind]
  obtain ⟨hnext, -⟩ | ⟨hnext, hstarved⟩ := channel.absorb.decoder.next?_cases
  · have hincoming : channel.absorb.decoder.next.1 = channel.incoming := rfl
    rw [hnext, Size.ok_bind]
    generalize channel.absorb.decoder.next = found at hincoming
    obtain ⟨found, decoder⟩ := found
    cases found with
    | error violation => exact .inl ⟨rfl, by simp [← hincoming]⟩
    | ok found =>
      cases found with
      | none => exact .inl ⟨rfl, by simp [← hincoming]⟩
      | some frame =>
        -- The payload of the frame has been in the buffer.
        have hframe : frame.payload.length < 2 ^ 63 :=
          Nat.lt_of_le_of_lt (Decoder.length_le_of_next hincoming.symm) hbuffer
        obtain ⟨hsizes, hheld⟩ | ⟨hsizes, hgrown⟩ := frameSizes_cases h hframe
        · refine .inl ⟨hsizes, fun other hother => ?_⟩
          obtain rfl : frame = other := by simpa using hincoming.trans hother
          exact hheld
        · exact .inr ⟨hsizes, .message frame hincoming.symm hgrown⟩
  · refine .inr ⟨?_, .payload hstarved⟩
    rw [hnext]
    rfl

/-- A frame that comes in changes the message in progress by being pushed in an open session, and
in no other way. -/
theorem assembler_receive (channel : Channel) (time : Nat) (frame : Frame) :
    (channel.receive time frame).1.assembler =
      if channel.session.state = .opened then (channel.assembler.push frame).2
      else channel.assembler := by
  have hdata : (channel.receiveData time frame).1.assembler =
      if channel.session.state = .opened then (channel.assembler.push frame).2
      else channel.assembler := by
    have hstate : (channel.session.recordInbound time true).state = channel.session.state := rfl
    unfold receiveData
    dsimp only
    rw [hstate]
    by_cases hopened : channel.session.state = .opened
    · rw [if_neg (fun h => h hopened), if_pos hopened]
      split <;> rfl
    · rw [if_pos hopened, if_neg hopened]
  -- A control frame is pushed without a change.
  have hcontrol (h : frame.opcode.isControl) :
      (if channel.session.state = .opened then (channel.assembler.push frame).2
        else channel.assembler) = channel.assembler := by
    rw [Assembler.push_control _ _ h, ite_self]
  unfold receive
  cases hopcode : frame.opcode with
  | ping | pong => exact (hcontrol (by rw [hopcode]; rfl)).symm
  | close =>
    rw [hcontrol (by rw [hopcode]; rfl)]
    dsimp only [receiveClose]
    split <;> rfl
  | text | binary | continuation => exact hdata

/-- The message in progress is changed by the frames that are read while the session is open. -/
theorem assembler_after (channel : Channel) (action : Action) :
    (channel.after action).assembler =
      match channel.frame? action with
      | some frame =>
        if channel.session.state = .opened then (channel.assembler.push frame).2
        else channel.assembler
      | none => channel.assembler := by
  cases action with
  | start =>
    show channel.start.assembler = channel.assembler
    unfold start
    split <;> rfl
  | read now wakeup =>
    obtain ⟨frame, hframe, -, houtcome⟩ | ⟨hframe, hless⟩ :=
      channel.after_read_cases now wakeup
    · rw [hframe, after, houtcome]
      exact channel.fetch.assembler_receive now.time frame
    · rw [hframe]
      generalize channel.after (.read now wakeup) = next at hless ⊢
      cases hless <;> rfl
  | write now =>
    show ((channel.write now).getD channel).assembler = channel.assembler
    cases hwrite : channel.write now with
    | none => rfl
    | some next => exact assembler_write hwrite
  | _ => rfl

theorem held_after (h : channel.assembler.Held) (action : Action)
    (hpush : ∀ frame, channel.frame? action = some frame → channel.session.state = .opened →
      (channel.assembler.push frame).2.Held) : (channel.after action).assembler.Held := by
  rw [assembler_after]
  split
  · rename_i frame hframe
    split
    · rename_i hopened
      exact hpush frame hframe hopened
    · exact h
  · exact h

/-- An action has no size that is out of range. If there is room for what it needs, the message in
progress is still in a buffer after it. -/
theorem sizes_cases (h : channel.assembler.Held) (action : Action) :
    (channel.sizes action = .ok () ∧ (channel.after action).assembler.Held) ∨
      (channel.sizes action = .error .capacity ∧ (channel.Cramped ∨
        ∃ message, action = .call (.send message) ∧ 2 ^ 63 ≤ message.payload.length)) := by
  -- Where no frame is read, the message in progress stays as it is.
  have hrest (hframe : channel.frame? action = none) : (channel.after action).assembler.Held :=
    held_after h action (by simp [hframe])
  cases action with
  | call request =>
    cases request with
    | send message =>
      show message.sizes _ = _ ∧ _ ∨ message.sizes _ = _ ∧ _
      rw [message.sizes_eq]
      split
      · exact .inl ⟨rfl, hrest rfl⟩
      · rename_i hlarge
        exact .inr ⟨rfl, .inr ⟨message, rfl, Nat.le_of_not_lt hlarge⟩⟩
    | _ => exact .inl ⟨rfl, hrest rfl⟩
  | read now wakeup =>
    cases wakeup with
    | inbound =>
      show (if _ then _ else _) = _ ∧ _ ∨ (if _ then _ else _) = _ ∧ _
      split
      · rename_i hreading
        obtain ⟨hsizes, hheld⟩ | ⟨hsizes, hcramped⟩ := readSizes_cases h
        · exact .inl ⟨hsizes, held_after h _ fun frame hframe =>
            hheld frame (incoming_of_frame? hframe)⟩
        · exact .inr ⟨hsizes, .inl hcramped⟩
      · rename_i hreading
        exact .inl ⟨rfl, hrest (frame?_of_no_frame fun hyes => absurd hyes hreading)⟩
    | _ => exact .inl ⟨rfl, hrest rfl⟩
  | _ => exact .inl ⟨rfl, hrest rfl⟩

/-- No size of a run is out of range. -/
theorem sizesOver_ne_range (h : channel.assembler.Held) (actions : List Action) :
    channel.sizesOver actions ≠ .error .range := by
  induction actions generalizing channel with
  | nil => exact nofun
  | cons action actions ih =>
    rw [sizesOver]
    obtain ⟨hsizes, hheld⟩ | ⟨hsizes, -⟩ := sizes_cases h action
    · rw [hsizes]
      exact ih hheld
    · rw [hsizes]
      exact nofun

theorem limit_assembler_after (channel : Channel) (action : Action) :
    (channel.after action).assembler.limit = channel.assembler.limit := by
  rw [assembler_after]
  split
  · split
    · exact Assembler.limit_push _ _
    · rfl
  · rfl

/-- There is room for all that a reader needs if the limits are small, and the stream is. -/
theorem not_cramped {limit : Nat} {bytes : Bytes} {frames : List Frame}
    (h : ReadOf limit bytes frames channel) (hframe : limit < 2 ^ 63)
    (hmessage : channel.assembler.limit < 2 ^ 63) (hbytes : bytes.length < 2 ^ 63) :
    ¬ channel.Cramped := by
  obtain ⟨left, hbefore, hend, -⟩ := h
  have habsorbed : Decoder.Before .server limit (left ++ channel.transport.source.bytes)
      channel.absorb.decoder := hbefore.feed _
  -- What is in the buffer is the end of the stream, and what is awaited is within the limits.
  have hlength := hend.length_le
  rintro (hlarge | ⟨header, payload, hinside, -, hlarge⟩ | ⟨frame, -, -, begun, -, hlarge, hfits⟩)
  · have hbuffer := habsorbed.length_buffer_le
    omega
  · have hheader := habsorbed.length_le_of_inside hinside
    omega
  · omega

/-- With small limits there is room for every size of a run, as long as what comes in and what is
sent is itself in buffers. -/
theorem sizesOver_eq_ok {limit : Nat} {bytes : Bytes} {frames : List Frame}
    (h : ReadOf limit bytes frames channel) (hheld : channel.assembler.Held)
    (hframe : limit < 2 ^ 63) (hmessage : channel.assembler.limit < 2 ^ 63)
    (actions : List Action) (hbytes : (bytes ++ arrived actions).length < 2 ^ 63)
    (hsent : ∀ message, .call (.send message) ∈ actions → message.payload.length < 2 ^ 63) :
    channel.sizesOver actions = .ok () := by
  induction actions generalizing channel bytes frames with
  | nil => rfl
  | cons action actions ih =>
    have hsplit : bytes ++ arrived (action :: actions) =
        (bytes ++ action.arriving) ++ arrived actions := (List.append_assoc _ _ _).symm
    rw [hsplit] at hbytes
    rw [sizesOver]
    -- Neither the reader nor a message that is sent can be what needs too much.
    obtain ⟨hsizes, hheld⟩ | ⟨-, hcramped | ⟨message, rfl, hlarge⟩⟩ := sizes_cases hheld action
    · rw [hsizes]
      exact ih (h.after action) hheld (by rwa [limit_assembler_after]) hbytes
        fun message hmem => hsent message (List.mem_cons_of_mem action hmem)
    · have hlength : bytes.length < 2 ^ 63 := by
        simp only [List.length_append] at hbytes
        omega
      exact absurd hcramped (not_cramped h hframe hmessage hlength)
    · exact absurd (hsent message List.mem_cons_self) (Nat.not_lt.mpr hlarge)

/-- The channel is there if its queue is. -/
theorem ofTransport?_eq (transport : Transport) (id : SessionId) (path : String)
    (limits : Limits) (now : Nat) :
    ofTransport? transport id path limits now =
      if 2 ^ 64 ≤ limits.queue + Outbox.headroom then .error .range
      else if Outbox.maxCapacity < limits.queue + Outbox.headroom then .error .capacity
      else .ok (ofTransport transport id path limits now) := by
  rw [ofTransport?, Outbox.ofLimit?]
  by_cases hrange : limits.queue + Outbox.headroom < 2 ^ 64
  · rw [Size.add_of_lt hrange, Size.ok_bind, if_neg (Nat.not_le.mpr hrange)]
    by_cases hroom : limits.queue + Outbox.headroom ≤ Outbox.maxCapacity
    · rw [if_pos hroom, if_neg (Nat.not_lt.mpr hroom)]
      rfl
    · rw [if_neg hroom, if_pos (Nat.lt_of_not_le hroom)]
      rfl
  · have hlarge := Nat.le_of_not_lt hrange
    rw [Size.add_of_le hlarge, if_pos hlarge]
    rfl

/-- Which sizes are within range, for any settings: those of the queue if the setting is, those of
a single frame if the largest header and the largest payload together are, and all others, whatever
comes in. With limits below 2^63 there is room for all of them. -/
theorem sizes_of_actions (config : Config) (transport : Transport) (id : SessionId)
    (path : String) (now : Nat) (actions : List Action) :
    let start := ofTransport transport id path config.limits now
    let made := ofTransport? transport id path config.limits now
    (made = .error .range ↔ 2 ^ 64 ≤ config.maxQueuedFrames.toNat + Outbox.headroom) ∧
    (made = .ok start ↔
      config.maxQueuedFrames.toNat + Outbox.headroom ≤ Outbox.maxCapacity) ∧
    ((∃ bytes : Bytes, bytes.length ≤ 14 ∧
        Frame.decode? .server config.limits.frame bytes = .error .range) ↔
      2 ^ 64 ≤ 14 + config.maxFrameSize.toNat) ∧
    (14 + config.maxFrameSize.toNat < 2 ^ 64 → ∀ bytes : Bytes,
      Frame.decode? .server config.limits.frame bytes =
        .ok ((Frame.read .server config.limits.frame bytes).map
          (Option.map fun found => (found.1, bytes.length - found.2.length)))) ∧
    start.sizesOver actions ≠ .error .range ∧
    (config.maxFrameSize.toNat < 2 ^ 63 → config.maxMessageSize.toNat < 2 ^ 63 →
      (transport.source.bytes ++ arrived actions).length < 2 ^ 63 →
      (∀ message, .call (.send message) ∈ actions → message.payload.length < 2 ^ 63) →
      start.sizesOver actions = .ok ()) := by
  intro start made
  have hheld : start.assembler.Held := nofun
  have hqueue : made = if 2 ^ 64 ≤ config.maxQueuedFrames.toNat + Outbox.headroom then
        .error .range
      else if Outbox.maxCapacity < config.maxQueuedFrames.toNat + Outbox.headroom then
        .error .capacity
      else .ok start :=
    ofTransport?_eq transport id path config.limits now
  have hcapacity : Outbox.maxCapacity < 2 ^ 64 := by decide
  refine ⟨?_, ?_, Frame.decode?_range_iff .server _, ?_, sizesOver_ne_range hheld actions, ?_⟩
  · rw [hqueue]
    split
    · rename_i hrange
      exact iff_of_true rfl hrange
    · rename_i hrange
      refine iff_of_false ?_ hrange
      split <;> exact nofun
  · rw [hqueue]
    split
    · exact iff_of_false nofun (by omega)
    · split
      · exact iff_of_false nofun (by omega)
      · exact iff_of_true rfl (by omega)
  · intro hrange bytes
    have hannounced := Frame.announced_le .server config.limits.frame bytes
    rw [Frame.decode?_eq]
    exact if_pos (Nat.lt_of_le_of_lt hannounced hrange)
  · intro hframe hmessage hbytes hsent
    exact sizesOver_eq_ok (readOf_ofTransport transport id path config.limits now) hheld hframe
      hmessage actions hbytes hsent

/-- Settings that are accepted, with a queue that cannot be made and a header whose frame has no
end. -/
theorem out_of_range_of_accepted :
    let config : Config :=
      { maxFrameSize := 0xFFFFFFFFFFFFFFFF, maxQueuedFrames := 0xFFFFFFFFFFFFFFFE }
    config.flaw? = none ∧ Outbox.ofLimit? config.limits.queue = .error .range ∧
      Frame.decode? .server config.limits.frame
        [0x82, 0xFF, 0xFF, 0xFF, 0xFF, 0xFF, 0xFF, 0xFF, 0xFF, 0xF2, 0, 0, 0, 0] =
          .error .range := by
  decide

end Channel

end SocketGate
