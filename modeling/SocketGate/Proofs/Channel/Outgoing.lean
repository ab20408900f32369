import SocketGate.Config.Basic
import SocketGate.Proofs.Channel.Course
import SocketGate.Proofs.Frame.RoundTrip
import SocketGate.Proofs.Session.Sending

/-!
# `SocketGate.Proofs.Channel.Outgoing`: every frame that is queued can be sent

The writer stops for good at a frame that cannot be written, so nobody may queue one. What a
session queues comes from the application, from the peer and from the wording of violations, and
each of these is cut to size before: a message is cut into fragments, the text of a close frame is
clipped, and the payload of a ping has passed the check of the decoder.

`Frame.Outgoing` says what holds of all these frames, and `Channel.Fluent` that they are all that
the writer ever meets. So it ends without a failure or with one of the byte stream.

* `Session.outgoing_of_mem_enqueued`: the frames that operations of a session queue.
* `Channel.Fluent.after`: what one action preserves.
* `Channel.outgoing_of_actions`: all frames that any run queues, and how its writer can end.
-/

set_option autoImplicit false

namespace SocketGate

/-- A frame that a server with this frame limit sends. -/
structure Frame.Outgoing (limit : Nat) (frame : Frame) : Prop where
  unmasked : frame.mask = none
  /-- It has a wire form, which every buffer takes behind what it holds. -/
  written : ∃ bytes, frame.write = .ok bytes ∧
    ∀ buffer, frame.writeTo buffer = (.ok (), buffer ++ bytes)
  data : frame.opcode.isData → frame.payload.length ≤ max 1 limit
  control : frame.opcode.isControl → frame.fin ∧ frame.payload.length ≤ 125

namespace Frame

/-- The rules for its opcode are all that a frame has to keep to be written. -/
theorem Outgoing.of_rules {limit : Nat} {frame : Frame} (hmask : frame.mask = none)
    (hdata : frame.opcode.isData → frame.payload.length ≤ max 1 limit)
    (hcontrol : frame.opcode.isControl → frame.fin ∧ frame.payload.length ≤ 125) :
    frame.Outgoing limit where
  unmasked := hmask
  written := by
    have hwrite : frame.write = .ok frame.wire :=
      (frame.write_eq_ok_iff frame.wire).mpr ⟨hcontrol, rfl⟩
    refine ⟨frame.wire, hwrite, fun buffer => ?_⟩
    rw [writeTo_eq, hwrite]
  data := hdata
  control := hcontrol

/-- A fragment of a message is a data frame, and no longer than the limit. -/
theorem outgoing_of_mem_fragments {limit : Nat} {message : Message} {frame : Frame}
    (h : frame ∈ message.fragments limit) : frame.Outgoing limit := by
  obtain ⟨hmask, hdata, hsize⟩ := Assembler.of_mem_fragments message limit frame h
  exact .of_rules hmask (fun _ => hsize) fun hcontrol => by simp [hdata] at hcontrol

theorem IsSignal.outgoing {frame : Frame} (h : frame.IsSignal) (limit : Nat) :
    frame.Outgoing limit :=
  .of_rules h.mask (fun hdata => by simp [Opcode.isData, h.isControl] at hdata)
    fun _ => ⟨h.fin, h.size⟩

end Frame

/-- The frames that operations of a session queue can all be sent. -/
theorem Session.outgoing_of_mem_enqueued (session : Session) (operations : List Operation)
    (hbrief : ∀ operation ∈ operations, operation.Brief) (frame : Frame)
    (hframe : frame ∈ Outbound.frames (session.enqueued operations)) :
    frame.Outgoing session.frameLimit := by
  induction operations generalizing session with
  | nil => simp [enqueued] at hframe
  | cons operation operations ih =>
    rw [enqueued, Outbound.frames_append, List.mem_append] at hframe
    rcases hframe with hfirst | hlater
    · obtain ⟨message, -, hadded⟩ | ⟨-, hsignals⟩ :=
        session.enqueued_cases operation (hbrief operation List.mem_cons_self)
      · rw [hadded, Outbound.frames_map_frame] at hfirst
        exact Frame.outgoing_of_mem_fragments hfirst
      · exact (hsignals frame hfirst).outgoing session.frameLimit
    · have hrest := ih (session.after operation)
        (fun other hother => hbrief other (List.mem_cons_of_mem operation hother)) hlater
      rwa [(session.settings_after operation).2] at hrest

namespace Channel

/-- The writer meets frames only that can be sent, and no frame has ended it. -/
structure Fluent (limit : Nat) (channel : Channel) : Prop where
  frameLimit : channel.session.frameLimit = limit
  waiting : ∀ frame ∈ Outbound.frames channel.session.outbox.waiting, frame.Outgoing limit
  ended : ∀ failure, channel.writer = .ended (.error failure) → ∃ fault, failure = .io fault

namespace Fluent

variable {limit : Nat} {channel next : Channel}

/-- The session queues more frames. -/
theorem perform (h : Fluent limit channel) {operations : List Session.Operation}
    (hperforms : channel.session.Performs next.session operations)
    (hwriter : ∀ failure, next.writer = .ended (.error failure) → ∃ fault, failure = .io fault) :
    Fluent limit next where
  frameLimit := by
    rw [hperforms.run_eq, Session.frameLimit_run, h.frameLimit]
  waiting frame hframe := by
    rw [hperforms.outbox_eq, Outbox.waiting_append, Outbound.frames_append, List.mem_append]
      at hframe
    rcases hframe with hold | hnew
    · exact h.waiting frame hold
    · have hout := channel.session.outgoing_of_mem_enqueued operations hperforms.brief frame hnew
      rwa [h.frameLimit] at hout
  ended := hwriter

/-- Frames leave the queue, and none enters it. -/
theorem shrink (h : Fluent limit channel)
    (hframeLimit : next.session.frameLimit = channel.session.frameLimit)
    (hwaiting : next.session.outbox.waiting <:+ channel.session.outbox.waiting)
    (hended : ∀ failure, next.writer = .ended (.error failure) → ∃ fault, failure = .io fault) :
    Fluent limit next where
  frameLimit := hframeLimit.trans h.frameLimit
  waiting frame hframe := by
    rw [Outbound.mem_frames_iff] at hframe
    exact h.waiting frame ((Outbound.mem_frames_iff _ _).mpr (hwaiting.mem hframe))
  ended := hended

/-- The writer ends in this way, and what waits is lost. -/
theorem endWriter (h : Fluent limit channel) {result : Except Failure Unit}
    (hresult : ∀ failure, result = .error failure → ∃ fault, failure = .io fault) :
    Fluent limit (channel.endWriter result) :=
  h.shrink rfl List.nil_suffix fun failure hended => hresult failure (Writer.ended.inj hended)

/-- The last step of the writer can fail in the transport only. -/
theorem finishWriting (h : Fluent limit channel) : Fluent limit channel.finishWriting := by
  unfold Channel.finishWriting
  split
  · exact h.endWriter fun failure hfailure => ⟨_, (Except.error.inj hfailure).symm⟩
  · have hmiddle : Fluent limit { channel with transport := channel.transport.shutdown.2 } :=
      h.shrink rfl List.suffix_rfl h.ended
    refine hmiddle.endWriter fun failure hfailure => ?_
    cases hfault : channel.transport.shutdownFault with
    | some fault =>
      rw [hfault] at hfailure
      exact ⟨fault, (Except.error.inj hfailure).symm⟩
    | none =>
      rw [hfault] at hfailure
      cases hfailure

/-- A step of the writer. Every frame that it takes can be written. -/
theorem write (h : Fluent limit channel) {now : Moment} (hwrite : channel.write now = some next) :
    Fluent limit next := by
  have hframeLimit := (channel.session.settings_after .take).2
  -- The item that is taken is the first one.
  have htaken {item : Outbound} {rest : List Outbound}
      (hwaiting : channel.session.outbox.waiting = item :: rest)
      (hremaining : channel.taken.session.outbox.waiting = rest) :
      channel.taken.session.outbox.waiting <:+ channel.session.outbox.waiting := by
    rw [hwaiting, hremaining]
    exact List.suffix_cons item rest
  cases writeStep_of_write hwrite with
  | stop rest waits waiting remaining =>
    exact h.shrink hframeLimit (htaken waiting remaining) nofun
  | take frame rest bytes idle waiting remaining =>
    exact h.shrink hframeLimit (htaken waiting remaining) nofun
  | refuse frame rest violation idle waiting remaining write =>
    have hmem : frame ∈ Outbound.frames channel.session.outbox.waiting := by
      rw [Outbound.mem_frames_iff, waiting]
      exact List.mem_cons_self
    obtain ⟨bytes, hbytes, -⟩ := (h.waiting frame hmem).written
    rw [write] at hbytes
    cases hbytes
  | flush isClose =>
    refine h.shrink rfl List.suffix_rfl ?_
    cases isClose <;> exact nofun
  | send => exact h.shrink rfl List.suffix_rfl nofun
  | fail unsent isClose fault =>
    exact h.endWriter fun failure hfailure => ⟨fault, (Except.error.inj hfailure).symm⟩
  | drop since deadline frame rest awaiting waiting remaining =>
    exact h.shrink hframeLimit (htaken waiting remaining) h.ended
  | expire => exact h.shrink rfl List.suffix_rfl nofun
  | finish transport result finishing =>
    have hstep : channel.write now = some channel.finishWriting := by
      simp only [Channel.write, finishing]
    rw [← Option.some.inj (hstep.symm.trans hwrite)]
    exact h.finishWriting

/-- A step of the reader. -/
theorem read (h : Fluent limit channel) (hsound : channel.decoder.Sound) {now : Moment}
    {wakeup : Wakeup} {event : Option Event}
    (hread : channel.read now wakeup = some (next, event)) : Fluent limit next := by
  have hserves (operations : List Session.Operation) (hserves : channel.Serves next operations) :
      Fluent limit next :=
    h.perform hserves.performs (hserves.writer ▸ h.ended)
  cases read_turn hread hsound with
  | goOn operations received serves => exact hserves operations serves
  | leave operations reason failure serves => exact hserves operations serves
  | drain reason left since deadline serves => exact hserves _ serves
  | finish reason since deadline result serves => exact hserves _ serves
  | abandon reason since deadline before after session sent aborted =>
    refine h.shrink ?_ ?_ (aborted ▸ nofun)
    · rw [session]
      rfl
    · rw [session]
      exact List.nil_suffix

/-- Whatever happens to a channel, it stays fluent. -/
theorem after (h : Fluent limit channel) (hsound : channel.decoder.Sound) (action : Action) :
    Fluent limit (channel.after action) := by
  rcases channel.after_cases action with hsame | ⟨now, wakeup, event, -, hread⟩ |
    ⟨now, -, hwrite⟩ | ⟨hread, hwrite⟩
  · exact hsame.symm ▸ h
  · exact h.read hsound hread
  · exact h.write hwrite
  · obtain ⟨⟨operations, hperforms⟩, hwriter, -⟩ := channel.performs_after action hread hwrite
    exact h.perform hperforms (hwriter ▸ h.ended)

theorem run (h : Fluent limit channel) (hsound : channel.decoder.Sound) (actions : List Action) :
    Fluent limit (channel.run actions) := by
  induction actions generalizing channel with
  | nil => exact h
  | cons action actions ih =>
    exact ih (h.after hsound action) (channel.sound_after action hsound)

end Fluent

/-- Every frame that is queued can be sent, whatever happens to a channel. It is unmasked and has
a wire form, as a data frame it keeps to the frame limit, and as a control frame it is final and
has at most 125 bytes of payload. This holds of all frames that any calls, sweeps and inbound
bytes have queued and of those that still wait. So if the writer fails, the byte stream has
failed. -/
theorem outgoing_of_actions (config : Config) (transport : Transport) (id : SessionId)
    (path : String) (now : Nat) (actions : List Action) :
    let start := ofTransport transport id path config.limits now
    let channel := start.run actions
    (∀ frame ∈ Outbound.frames (start.enqueued actions),
      frame.Outgoing config.maxFrameSize.toNat) ∧
    (∀ frame ∈ Outbound.frames channel.session.outbox.waiting,
      frame.Outgoing config.maxFrameSize.toNat) ∧
    ∀ failure, channel.writer = .ended (.error failure) → ∃ fault, failure = .io fault := by
  intro start channel
  have hsound : start.decoder.Sound := nofun
  obtain ⟨operations, hbrief, -, henqueued, -⟩ := start.exists_operations actions hsound
  have hstart : Fluent config.maxFrameSize.toNat start :=
    { frameLimit := rfl, waiting := nofun, ended := nofun }
  have hfluent := hstart.run hsound actions
  refine ⟨fun frame hframe => ?_, hfluent.waiting, hfluent.ended⟩
  rw [henqueued] at hframe
  exact start.session.outgoing_of_mem_enqueued operations hbrief frame hframe

/-- A writer that fails in the transport. -/
example :
    let fault : IoFault := ⟨.brokenPipe, "broken pipe"⟩
    let start := ofTransport { writeFault := some fault } ⟨0, 0⟩ "/" ({} : Config).limits 0
    let channel := start.run [.call (.close (.other 4999) "bye"), .write ⟨0, 0⟩, .write ⟨0, 0⟩]
    channel.writer = .ended (.error (.io fault)) := by
  rfl

end Channel

end SocketGate
