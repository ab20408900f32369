import SocketGate.Proofs.Channel.Activity
import SocketGate.Proofs.Channel.Trace

/-!
# `SocketGate.Proofs.Channel.Inbound`: what a channel has read of its stream

The bytes of a stream come in at some times, and the reader takes frames out of them at others.
In between the application, the keepalive and the writer go on. None of that makes a difference:
the frames that have been read, and the bytes that are left, are at all times those of the
stream as a whole.

`Channel.ReadOf` is the invariant. Some of what is left is in the buffer of the decoder, with the
header in front of it set aside or not, and the rest is still in the source.

* `Channel.ReadOf.after` and `Channel.ReadOf.run`: one action, and then any actions.
* `Channel.readOf_run`: so the invariant holds of every channel at all times.
* `Channel.ReadOf.isPrefix`: the frames that have been read are the first ones of the stream.
-/

set_option autoImplicit false

namespace SocketGate.Channel

/-! ### What comes in and what is read -/

/-- The bytes that come in. -/
def Action.arriving : Action → Bytes
  | .peer (.receive bytes) => bytes
  | _ => []

/-- All bytes that come in during some actions. -/
def arrived (actions : List Action) : Bytes := actions.flatMap Action.arriving

/-- The frame that the reader reads in an action. -/
def frame? (channel : Channel) : Action → Option Frame
  | .read _ .inbound =>
    match channel.reader, channel.incoming with
    | .reading, .ok (some frame) => some frame
    | _, _ => none
  | _ => none

/-- The frames that are read during some actions, first one first. -/
def frames (channel : Channel) : List Action → List Frame
  | [] => []
  | action :: actions => (channel.frame? action).toList ++ (channel.after action).frames actions

theorem frames_append (channel : Channel) (before after : List Action) :
    channel.frames (before ++ after) =
      channel.frames before ++ (channel.run before).frames after := by
  induction before generalizing channel with
  | nil => rfl
  | cons action before ih =>
    rw [List.cons_append, frames, frames, ih, List.append_assoc]
    rfl

theorem frame?_of_incoming {channel : Channel} {now : Moment} {frame : Frame}
    (hreading : channel.reader = .reading) (hincoming : channel.incoming = .ok (some frame)) :
    channel.frame? (.read now .inbound) = some frame := by
  simp only [frame?, hreading, hincoming]

/-- A frame that is read was at the front of what has come in. -/
theorem incoming_of_frame? {channel : Channel} {now : Moment} {wakeup : Wakeup} {frame : Frame}
    (h : channel.frame? (.read now wakeup) = some frame) :
    channel.incoming = .ok (some frame) := by
  unfold frame? at h
  split at h
  · split at h
    · cases h
      assumption
    · cases h
  · cases h

theorem frame?_of_other {channel : Channel} {now : Moment} {wakeup : Wakeup}
    (h : wakeup ≠ .inbound) : channel.frame? (.read now wakeup) = none := by
  cases wakeup <;> first | rfl | exact absurd rfl h

theorem frame?_of_no_frame {channel : Channel} {now : Moment}
    (h : channel.reader = .reading → ∀ frame, channel.incoming ≠ .ok (some frame)) :
    channel.frame? (.read now .inbound) = none := by
  unfold frame?
  dsimp only
  split
  · rename_i hreading hincoming
    exact absurd hincoming (h hreading _)
  · rfl

/-! ### Steps of the reader -/

/-- A step of the reader in which it reads no frame, or no step at all. -/
inductive Frameless (channel : Channel) (now : Moment) : Channel → Prop where
  /-- At most the reader itself goes on. -/
  | rest (reader : Reader) : Frameless channel now { channel with reader }
  /-- What comes in is no frame. -/
  | violation (violation : Violation) (incoming : channel.incoming = .error violation) :
      Frameless channel now (channel.fetch.rejectPeer violation).1
  /-- Nothing more will come. -/
  | exhausted (event : Option Event) (incoming : channel.incoming = .ok none) :
      Frameless channel now (channel.fetch.leave CloseReason.abnormal event).1
  /-- The loop has been left. -/
  | drain (reason : CloseReason) : Frameless channel now (channel.beginDrain now reason).1
  /-- The writer is stopped. -/
  | abandon :
      Frameless channel now
        { channel with
          session := { channel.session with outbox := channel.session.outbox.detach }
          writer := .aborted
          reader := .finished }

/-- The reader reads a frame and looks at it, or it reads none. -/
theorem after_read_cases (channel : Channel) (now : Moment) (wakeup : Wakeup) :
    (∃ frame, channel.frame? (.read now wakeup) = some frame ∧
      channel.incoming = .ok (some frame) ∧
      channel.outcome (.read now wakeup) = channel.fetch.receive now.time frame) ∨
    (channel.frame? (.read now wakeup) = none ∧
      channel.Frameless now (channel.after (.read now wakeup))) := by
  by_cases hinbound : wakeup = .inbound
  · subst hinbound
    by_cases hreading : channel.reader = .reading
    · have hread : channel.read now .inbound = channel.readSource now.time := by
        simp only [read, hreading]
      cases hincoming : channel.incoming with
      | error violation =>
        refine .inr ⟨frame?_of_no_frame fun _ => by simp [hincoming], ?_⟩
        rw [after, outcome_of_read (hread.trans (readSource_of_violation hincoming now.time))]
        exact .violation violation hincoming
      | ok found =>
        cases found with
        | some frame =>
          refine .inl ⟨frame, frame?_of_incoming hreading hincoming, rfl, ?_⟩
          exact outcome_of_read (hread.trans (readSource_of_frame hincoming now.time))
        | none =>
          refine .inr ⟨frame?_of_no_frame fun _ => by simp [hincoming], ?_⟩
          rcases readSource_of_none hincoming now.time with ⟨-, hwait⟩ | ⟨-, event, hleave⟩
          · rw [after, outcome_of_read_eq_none (hread.trans hwait)]
            exact .rest channel.reader
          · rw [after, outcome_of_read (hread.trans hleave)]
            exact .exhausted event hincoming
    · have hread : channel.read now .inbound = none := by
        cases hreader : channel.reader <;> simp_all [read]
      refine .inr ⟨frame?_of_no_frame fun h => absurd h hreading, ?_⟩
      rw [after, outcome_of_read_eq_none hread]
      exact .rest channel.reader
  · refine .inr ⟨frame?_of_other hinbound, ?_⟩
    cases hread : channel.read now wakeup with
    | none =>
      rw [after, outcome_of_read_eq_none hread]
      exact .rest channel.reader
    | some step =>
      obtain ⟨next, event⟩ := step
      rw [after, outcome_of_read hread]
      cases readStep_of_read hread with
      | violation | frame | exhausted => exact absurd rfl hinbound
      | lost | finish => exact .rest _
      | drain reason => exact .drain reason
      | abandon => exact .abandon

/-- The writer does not touch what has come in. -/
theorem source_write {channel next : Channel} {now : Moment}
    (h : channel.write now = some next) : next.transport.source = channel.transport.source := by
  cases writeStep_of_write h with
  | send unsent rest isClose transport hsending hmore hsent =>
    unfold Transport.write at hsent
    split at hsent <;> cases hsent
    rfl
  | finish transport result hfinishing hlast => rcases hlast with rfl | rfl <;> rfl
  | _ => rfl

/-! ### The invariant -/

/-- Of a stream that begins with `bytes` the channel has read these frames. What is left in its
decoder goes on in its source, and the two are the end of these bytes and hold the other
frames. -/
def ReadOf (limit : Nat) (bytes : Bytes) (frames : List Frame) (channel : Channel) : Prop :=
  ∃ left, Decoder.Before .server limit left channel.decoder ∧
    left ++ channel.transport.source.bytes <:+ bytes ∧
    let others := Frame.readAll .server limit (left ++ channel.transport.source.bytes)
    Frame.readAll .server limit bytes = (frames ++ others.1, others.2)

variable {limit : Nat} {bytes : Bytes} {frames : List Frame} {channel next : Channel}

theorem readOf_ofTransport (transport : Transport) (id : SessionId) (path : String)
    (limits : Limits) (now : Nat) :
    ReadOf limits.frame transport.source.bytes [] (ofTransport transport id path limits now) :=
  ⟨[], .whole, List.suffix_rfl, rfl⟩

namespace ReadOf

/-- What has nothing to do with the stream makes no difference to what has been read. -/
theorem of_eq (h : ReadOf limit bytes frames channel)
    (hdecoder : next.decoder = channel.decoder)
    (hsource : next.transport.source.bytes = channel.transport.source.bytes) :
    ReadOf limit bytes frames next := by
  obtain ⟨left, hbefore, hend, hread⟩ := h
  exact ⟨left, hdecoder ▸ hbefore, hsource ▸ hend, hsource ▸ hread⟩

/-- More bytes of the stream come in. -/
theorem receive (h : ReadOf limit bytes frames channel) (more : Bytes)
    (hdecoder : next.decoder = channel.decoder)
    (hsource : next.transport.source.bytes = channel.transport.source.bytes ++ more) :
    ReadOf limit (bytes ++ more) frames next := by
  obtain ⟨left, hbefore, hend, hread⟩ := h
  refine ⟨left, hdecoder ▸ hbefore, ?_, ?_⟩
  · rw [hsource, ← List.append_assoc]
    exact List.suffix_append_self_iff.mpr hend
  · dsimp only at hread ⊢
    rw [hsource, ← List.append_assoc, Frame.readAll_append _ _ _ more, hread,
      Frame.readAll_append _ _ (left ++ _) more, List.append_assoc]

/-- The reader has looked at all that is there, and it was no frame. -/
theorem fetch_of_no_frame (h : ReadOf limit bytes frames channel)
    (hnone : ∀ frame, channel.incoming ≠ .ok (some frame)) :
    ReadOf limit bytes frames channel.fetch := by
  obtain ⟨left, hbefore, hend, hread⟩ := h
  have hnext := (hbefore.feed channel.transport.source.bytes).next
  have hsource : channel.fetch.transport.source.bytes = [] := rfl
  have hdecoder : Decoder.Before .server limit (left ++ channel.transport.source.bytes)
      channel.fetch.decoder := by
    show Decoder.Before _ _ _ (channel.decoder.feed channel.transport.source.bytes).next.2
    cases hfront : Frame.read .server limit (left ++ channel.transport.source.bytes) with
    | error violation =>
      rw [hnext, hfront]
      exact Decoder.before_waiting _ _ _
    | ok found =>
      cases found with
      | none =>
        rw [hnext, hfront]
        exact Decoder.before_waiting _ _ _
      | some found =>
        rw [hfront] at hnext
        exact absurd (congrArg Prod.fst hnext) (hnone found.1)
  refine ⟨left ++ channel.transport.source.bytes, hdecoder, ?_, ?_⟩
  · rwa [hsource, List.append_nil]
  · rw [hsource, List.append_nil]
    exact hread

/-- The reader has found a frame and taken it. -/
theorem fetch_of_frame {frame : Frame} (h : ReadOf limit bytes frames channel)
    (hincoming : channel.incoming = .ok (some frame)) :
    ReadOf limit bytes (frames ++ [frame]) channel.fetch := by
  obtain ⟨left, hbefore, hend, hread⟩ := h
  have hnext := (hbefore.feed channel.transport.source.bytes).next
  cases hfront : Frame.read .server limit (left ++ channel.transport.source.bytes) with
  | error violation =>
    rw [hfront] at hnext
    exact absurd (hincoming.symm.trans (congrArg Prod.fst hnext)) nofun
  | ok found =>
    cases found with
    | none =>
      rw [hfront] at hnext
      exact absurd (hincoming.symm.trans (congrArg Prod.fst hnext)) nofun
    | some found =>
      obtain ⟨frame', rest⟩ := found
      rw [hfront] at hnext
      obtain rfl : frame = frame' := by
        simpa using hincoming.symm.trans (congrArg Prod.fst hnext)
      have hdecoder : channel.fetch.decoder = { role := .server, limit, buffer := rest } :=
        congrArg Prod.snd hnext
      have hsource : channel.fetch.transport.source.bytes = [] := rfl
      refine ⟨rest, hdecoder ▸ .whole, ?_, ?_⟩
      · rw [hsource, List.append_nil]
        exact (Frame.suffix_of_read hfront).trans hend
      · dsimp only at hread ⊢
        rw [hread, Frame.readAll_of_frame hfront, hsource, List.append_nil, List.append_assoc]
        rfl

/-- The reader goes on. -/
theorem read (h : ReadOf limit bytes frames channel) (now : Moment) (wakeup : Wakeup) :
    ReadOf limit bytes (frames ++ (channel.frame? (.read now wakeup)).toList)
      (channel.after (.read now wakeup)) := by
  obtain ⟨frame, hframe, hincoming, houtcome⟩ | ⟨hframe, hless⟩ :=
    channel.after_read_cases now wakeup
  · have hsame := channel.fetch.undisturbed_receive now.time frame
    rw [hframe, Channel.after, houtcome]
    exact (h.fetch_of_frame hincoming).of_eq hsame.decoder (by rw [hsame.transport])
  · rw [hframe, Option.toList_none, List.append_nil]
    generalize channel.after (.read now wakeup) = next at hless ⊢
    cases hless with
    | violation violation hincoming =>
      exact (h.fetch_of_no_frame (by simp [hincoming])).of_eq rfl rfl
    | exhausted event hincoming =>
      exact (h.fetch_of_no_frame (by simp [hincoming])).of_eq rfl rfl
    | rest | drain | abandon => exact h.of_eq rfl rfl

/-- Whatever happens to the channel, it has read the frames that it is said to. -/
theorem after (h : ReadOf limit bytes frames channel) (action : Action) :
    ReadOf limit (bytes ++ action.arriving) (frames ++ (channel.frame? action).toList)
      (channel.after action) := by
  -- All but the bytes of the peer and the steps of the reader leaves the stream alone.
  have hrest (hdecoder : (channel.after action).decoder = channel.decoder)
      (hsource : (channel.after action).transport.source.bytes =
        channel.transport.source.bytes) :
      ReadOf limit (bytes ++ []) (frames ++ []) (channel.after action) := by
    rw [List.append_nil, List.append_nil]
    exact h.of_eq hdecoder hsource
  cases action with
  | peer step =>
    show ReadOf limit _ (frames ++ []) _
    rw [List.append_nil]
    cases step with
    | receive more => exact h.receive more rfl rfl
    | finish =>
      refine (List.append_nil bytes).symm ▸ h.of_eq rfl ?_
      show channel.transport.source.finish.bytes = _
      unfold Source.finish
      split <;> rfl
    | _ => exact (List.append_nil bytes).symm ▸ h.of_eq rfl rfl
  | start =>
    have hsame : (channel.after .start).decoder = channel.decoder ∧
        (channel.after .start).transport = channel.transport := by
      show channel.start.decoder = _ ∧ channel.start.transport = _
      unfold start
      split <;> exact ⟨rfl, rfl⟩
    exact hrest hsame.1 (by rw [hsame.2])
  | read now wakeup =>
    show ReadOf limit (bytes ++ []) _ _
    rw [List.append_nil]
    exact h.read now wakeup
  | write now =>
    cases hwrite : channel.write now with
    | none =>
      refine hrest ?_ ?_ <;> simp only [Channel.after, outcome, hwrite, Option.getD_none]
    | some next =>
      have hkeeps : channel.KeepsReading next := by
        cases write_turn hwrite <;> assumption
      have hnext : channel.after (.write now) = next := by
        simp only [Channel.after, outcome, hwrite, Option.getD_some]
      rw [hnext] at hrest ⊢
      exact hrest hkeeps.decoder (by rw [source_write hwrite])
  | _ => exact hrest rfl rfl

theorem run (h : ReadOf limit bytes frames channel) (actions : List Action) :
    ReadOf limit (bytes ++ arrived actions) (frames ++ channel.frames actions)
      (channel.run actions) := by
  induction actions generalizing channel bytes frames with
  | nil =>
    show ReadOf limit (bytes ++ []) (frames ++ []) channel
    rwa [List.append_nil, List.append_nil]
  | cons action actions ih =>
    have hrest := ih (h.after action)
    rw [List.append_assoc, List.append_assoc] at hrest
    exact hrest

end ReadOf

/-- At all times a channel has read the first frames of its stream. -/
theorem readOf_run (transport : Transport) (id : SessionId) (path : String) (limits : Limits)
    (now : Nat) (actions : List Action) :
    let start := ofTransport transport id path limits now
    ReadOf limits.frame (transport.source.bytes ++ arrived actions) (start.frames actions)
      (start.run actions) :=
  (readOf_ofTransport transport id path limits now).run actions

/-- The frames that have been read are the first ones of the stream. -/
theorem ReadOf.isPrefix (h : ReadOf limit bytes frames channel) :
    frames <+: (Frame.readAll .server limit bytes).1 := by
  obtain ⟨left, -, -, hread⟩ := h
  exact hread ▸ List.prefix_append frames _

end SocketGate.Channel
