import SocketGate.Proofs.Channel.Inbound
import SocketGate.Proofs.Channel.Rest
import SocketGate.Proofs.Frame.Truncation

/-!
# `SocketGate.Proofs.Channel.Truncation`: connections that end inside a frame

A channel reports an error when the stream of its peer ends inside a frame, with one exception.
Where the stream ends exactly behind a header, all bytes have been taken off the buffer, and the
end is taken for one between two frames although the payload is missing.

* `Channel.told_of_exhausted`: what a reader reports at the end of its stream, whatever the
  application and the writer have done before.
* `Assembler.leftover_mem_events_iff`: the error is reported unless a frame before it has ended
  the connection.
* `Channel.truncation_of_prefix`: which streams of written frames a decoder and a channel report.
-/

set_option autoImplicit false

namespace SocketGate

open SocketGate.Frame (SendableTo StopsInside wires)

/-! ### The end of a stream -/

/-- A decoder that finds nothing has looked at all it has left. -/
theorem Decoder.Before.next_eq_of_none {role : Role} {limit : Nat} {bytes : Bytes}
    {decoder : Decoder} (h : Before role limit bytes decoder) (hnone : decoder.next.1 = .ok none) :
    Frame.read role limit bytes = .ok none ∧ decoder.next.2 = waiting role limit bytes := by
  have hnext := h.next
  cases hread : Frame.read role limit bytes with
  | error violation =>
    rw [hnext, hread] at hnone
    cases hnone
  | ok found =>
    cases found with
    | none =>
      rw [hnext, hread]
      exact ⟨rfl, rfl⟩
    | some found =>
      rw [hnext, hread] at hnone
      cases hnone

namespace Channel

variable {limit : Nat} {stream : Bytes} {frames : List Frame} {channel : Channel}

/-- What a reader that has read all frames of an ended stream reports. -/
theorem told_of_exhausted (h : ReadOf limit stream frames channel)
    (hreading : channel.reader = .reading) (hended : channel.transport.source.ending = .ended)
    (hincoming : channel.incoming = .ok none) (now : Moment) :
    channel.told (.read now .inbound) =
      if (Decoder.waiting .server limit (Frame.readAll .server limit stream).2.2).buffer = []
      then none else some (channel.session.state, .failed (.io .leftover)) := by
  obtain ⟨left, hbefore, -, hread⟩ := h
  have hnext := (hbefore.feed channel.transport.source.bytes).next_eq_of_none hincoming
  have hrest : (Frame.readAll .server limit stream).2.2 =
      left ++ channel.transport.source.bytes := by
    rw [hread, Frame.readAll_of_none hnext.1]
  have hbuffer : channel.fetch.decoder.buffer =
      (Decoder.waiting .server limit (Frame.readAll .server limit stream).2.2).buffer := by
    rw [hrest, ← hnext.2]
    rfl
  have hstep : channel.read now .inbound = some (channel.fetch.leave CloseReason.abnormal
      ((Ending.failure? channel.fetch.decoder.buffer .ended).map .failed)) := by
    simp only [Channel.read, hreading]
    rcases readSource_of_exhausted hincoming now.time with ⟨hopen, -⟩ | ⟨-, hleave⟩
    · simp [hended] at hopen
    · rw [hleave, hended]
  rw [told, after, outcome_of_read hstep, ← hbuffer]
  unfold Ending.failure?
  cases channel.fetch.decoder.buffer <;> rfl

end Channel

/-! ### The events of a stream -/

namespace Assembler

/-- Whether none of these frames ends the connection. -/
def outlives (assembler : Assembler) : List Frame → Bool
  | [] => true
  | frame :: frames =>
    match (assembler.take frame).2 with
    | some assembler => assembler.outlives frames
    | none => false

/-- No frame is reported as bytes that form no frame. -/
theorem leftover_notMem_take (assembler : Assembler) (frame : Frame) :
    Event.failed (.io .leftover) ∉ (assembler.take frame).1 := by
  unfold take
  split
  · simp
  · simp
  · split <;> simp [Violation.events]
  all_goals split <;> simp [Violation.events]

theorem leftover_mem_events_iff (assembler : Assembler) (last : List Event)
    (frames : List Frame) :
    .failed (.io .leftover) ∈ assembler.events last frames ↔
      assembler.outlives frames ∧ .failed (.io .leftover) ∈ last := by
  induction frames generalizing assembler with
  | nil => simp [events, outlives]
  | cons frame frames ih =>
    have hframe := assembler.leftover_notMem_take frame
    rw [events, outlives]
    generalize assembler.take frame = taken at hframe ⊢
    obtain ⟨reported, after⟩ := taken
    cases after with
    | none => simpa using hframe
    | some after => simp [hframe, ih]

/-- A stream without a violation is reported to have ended inside a frame if something is left in
the buffer and no frame has ended the connection. -/
theorem leftover_mem_trace_iff (assembler : Assembler) (limit : Nat) (stream : Bytes)
    (hviolation : (Frame.readAll .server limit stream).2.1 = none) :
    .failed (.io .leftover) ∈ assembler.trace limit stream .ended ↔
      (Decoder.waiting .server limit (Frame.readAll .server limit stream).2.2).buffer ≠ [] ∧
        assembler.outlives (Frame.readAll .server limit stream).1 := by
  unfold trace
  simp only [hviolation]
  rw [leftover_mem_events_iff, ← Decoder.buffer_waiting, and_comm]
  refine and_congr_left fun _ => ?_
  unfold Ending.events Ending.failure?
  cases (Decoder.waiting .server limit (Frame.readAll .server limit stream).2.2).buffer <;> simp

end Assembler

namespace Channel

/-- What channels report of a stream of written frames that comes in these pieces and ends. -/
structure Notices (config : Config) (frames : List Frame) (pieces : List Bytes) : Prop where
  /-- Whatever has been done before: a reader that finds the end of the stream. -/
  told : ∀ (transport : Transport) (id : SessionId) (path : String) (time : Nat)
    (actions : List Action) (now : Moment),
    let channel := (ofTransport transport id path config.limits time).run actions
    transport.source.bytes ++ arrived actions = pieces.flatten → channel.reader = .reading →
    channel.transport.source.ending = .ended → channel.incoming = .ok none →
      (StopsInside frames pieces.flatten →
        channel.told (.read now .inbound) =
          some (channel.session.state, .failed (.io .leftover))) ∧
      (¬ StopsInside frames pieces.flatten → channel.told (.read now .inbound) = none)
  /-- If the application does nothing and the peer takes everything: all that is reported until
  the channel can only wait, which it can always come to. A frame that ends the connection, such
  as a close frame, ends the reading too. -/
  quiet : ∀ (transport : Transport) (id : SessionId) (path : String) (time : Nat)
    (actions : List Action) (now : Moment),
    let channel := (ofTransport transport id path config.limits time).run [.announce, .start]
    transport.TakesAll → transport.source = {} → (∀ action ∈ actions, action.isStep) →
    actions.filterMap Action.peer? = delivery pieces .ended →
      ((channel.run actions).Rests now →
        ((∃ state, (state, .failed (.io .leftover)) ∈ channel.events actions) ↔
          StopsInside frames pieces.flatten ∧
            ({ limit := config.limits.message } : Assembler).outlives
              (Frame.readAll .server config.limits.frame pieces.flatten).1)) ∧
      ∃ more : List Action, (∀ action ∈ more, action.isStep ∧ action.peer? = none) ∧
        (channel.run (actions ++ more)).Rests now

theorem notices_of_prefix (config : Config) (frames : List Frame) (pieces : List Bytes)
    (hframes : SendableTo .server config.limits.frame frames)
    (hstart : pieces.flatten <+: wires frames) : Notices config frames pieces := by
  obtain ⟨whole, rest, hcut, hstream⟩ := Frame.exists_cut frames _ hstart
  have hread : Frame.readAll .server config.limits.frame pieces.flatten = (whole, none, rest) := by
    rw [hstream, Frame.readAll_cut hcut hframes]
  have hinside := Frame.stopsInside_iff hcut hframes
  rw [← hstream] at hinside
  constructor
  · intro transport id path time actions now channel hbytes hreading hended hincoming
    have hreadOf := readOf_run transport id path config.limits time actions
    rw [hbytes] at hreadOf
    have htold := told_of_exhausted hreadOf hreading hended hincoming now
    rw [hread] at htold
    rw [hinside]
    exact ⟨fun h => htold.trans (if_neg h), fun h => htold.trans (if_pos (not_not.mp h))⟩
  · intro transport id path time actions now channel htakes hsource hsteps hpeer
    obtain ⟨-, hrests, hmore⟩ := events_of_stream config transport id path time pieces .ended
      actions htakes (by rw [hsource]) hsteps hpeer
    refine ⟨fun hrest => ?_, ?_⟩
    · have htrace := hrests now hrest
      rw [hsource, List.nil_append, Config.trace] at htrace
      have hmem : (∃ state, (state, .failed (.io .leftover)) ∈ channel.events actions) ↔
          .failed (.io .leftover) ∈ (channel.events actions).map (·.2) := by simp
      rw [hmem, htrace, Assembler.leftover_mem_trace_iff _ _ _ (by rw [hread]), hread, hinside]
    · obtain ⟨more, hall, hrest, -⟩ := hmore now
      exact ⟨more, hall, hrest⟩

/-- A stream of written frames that ends is reported to end inside a frame exactly if it does so
elsewhere than behind a header. Decoders report it, of either end and with any limit, in whatever
pieces the stream comes and wherever it stops: they find the frames that are there as a whole,
meet no violation, and make an error of the end, or not. Channels pass this error on. -/
theorem truncation_of_prefix (role : Role) (limit : Nat) (frames : List Frame)
    (pieces : List Bytes) (hframes : SendableTo role limit frames)
    (hstart : pieces.flatten <+: wires frames) :
    Decoder.Finds role limit frames pieces (({ role, limit } : Decoder).drainPieces pieces) ∧
    ∀ config : Config, role = .server → limit = config.maxFrameSize.toNat →
      Notices config frames pieces := by
  refine ⟨Decoder.finds_of_prefix frames hframes pieces hstart, ?_⟩
  rintro config rfl rfl
  exact notices_of_prefix config frames pieces hframes hstart

/-- A frame of eight bytes, six of which are its header. -/
def maskedPair : Frame where
  fin := true
  opcode := .binary
  mask := some ⟨0xAA, 0xBB, 0xCC, 0xDD⟩
  payload := [1, 2]

theorem sendableTo_maskedPair : SendableTo .server 125 [maskedPair] := by
  intro frame hframe
  obtain rfl := List.mem_singleton.mp hframe
  exact ⟨⟨nofun, by decide, by decide⟩, rfl⟩

/-- The last byte of the payload is missing, and the stream comes in two pieces. -/
theorem truncation_of_prefix_insidePayload :
    let pieces : List Bytes := [[0x82, 0x82, 0xAA], [0xBB, 0xCC, 0xDD, 0xAB]]
    let found := ({ role := .server, limit := 125 } : Decoder).drainPieces pieces
    SendableTo .server 125 [maskedPair] ∧ pieces.flatten <+: wires [maskedPair] ∧
    found.2.2.nextAtEnd.1 = .error .leftover ∧
    Notices { maxFrameSize := 125 } [maskedPair] pieces := by
  intro pieces found
  have hstart : pieces.flatten <+: wires [maskedPair] := by decide
  obtain ⟨hfinds, hnotices⟩ :=
    truncation_of_prefix .server 125 [maskedPair] pieces sendableTo_maskedPair hstart
  have hcut : Frame.Cut [maskedPair] [] (maskedPair.wire.take 7) :=
    .inside 0 maskedPair 7 rfl (by decide) (by decide)
  have hinside : StopsInside [maskedPair] pieces.flatten :=
    (Frame.stopsInside_iff hcut sendableTo_maskedPair).mpr (by decide)
  exact ⟨sendableTo_maskedPair, hstart, hfinds.leftover_iff.mpr hinside, hnotices _ rfl rfl⟩

/-- Both bytes of the payload are missing. Neither the decoder nor a channel makes an error of
it, although the stream does not stop between two frames. -/
theorem silent_behind_header :
    let stream : Bytes := [0x82, 0x82, 0xAA, 0xBB, 0xCC, 0xDD]
    let channel := (ofTransport {} ⟨0, 0⟩ "/" { maxFrameSize := 125 : Config }.limits 0).run
      [.announce, .start]
    stream <+: wires [maskedPair] ∧ ¬ Frame.StopsBetween [maskedPair] stream ∧
    (({ role := .server, limit := 125 } : Decoder).drainPieces [stream]).2.2.nextAtEnd.1 =
      .ok none ∧
    channel.events [.peer (.receive stream), .peer .finish, .read ⟨0, 0⟩ .inbound,
      .read ⟨0, 0⟩ .wrapUp, .write ⟨0, 0⟩, .write ⟨0, 0⟩, .read ⟨0, 0⟩ .wrapUp] =
      [(.closed, .closed CloseReason.abnormal)] := by
  intro stream channel
  have hstart : stream <+: wires [maskedPair] := by decide
  refine ⟨hstart, ?_, ?_, by decide⟩
  · rintro ⟨count, hstream⟩
    -- Neither no frame at all nor the whole frame has six bytes.
    cases count with
    | zero => exact absurd hstream (by decide)
    | succ count =>
      rw [List.take_succ_cons, List.take_nil] at hstream
      exact absurd hstream (by decide)
  · have hfinds := Decoder.finds_of_prefix [maskedPair] sendableTo_maskedPair [stream]
      (by rwa [List.flatten_singleton])
    refine hfinds.clean_iff.mpr fun hinside => hinside.2 ?_
    exact ⟨0, maskedPair, rfl, nofun, by decide⟩

end Channel

end SocketGate
