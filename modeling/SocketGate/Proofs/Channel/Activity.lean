import SocketGate.Proofs.Channel.Inversion
import SocketGate.Proofs.Channel.Reason

/-!
# `SocketGate.Proofs.Channel.Activity`: what a keepalive goes by

A sweep looks at two things in a session: how many pings it has missed, and when it was active
last. `Session.marks` holds the two. Only a keepalive and a frame that comes in make a
difference to them, and not even every frame does: a close frame whose reason cannot be read
is refused before it is recorded.

* `Channel.intake?`: the frame that a reader takes in and records.
* `Channel.marks_read`: what a step of the reader makes of the marks.
* `Channel.marks_after_of_silent`: what leaves them alone.
-/

set_option autoImplicit false

namespace SocketGate

namespace Session

/-- The count of missed pings, and the time of the last activity. -/
def marks (session : Session) : UInt32 × Nat := (session.missedPings, session.lastActivity)

/-- The marks at a time when this frame has come in, or none has. -/
def marksWith (session : Session) (time : Nat) : Option Frame → UInt32 × Nat
  | none => session.marks
  | some frame => (0, if frame.opcode.isData then time else session.lastActivity)

/-- Whether an operation changes the marks: a keepalive and a frame that comes in do. -/
def Operation.isCounted : Operation → Bool
  | .keepalive _ | .recordInbound .. => true
  | _ => false

theorem marks_after (session : Session) (operation : Operation)
    (h : operation.isCounted = false) : (session.after operation).marks = session.marks := by
  have hoffer (frames : List Frame) : (session.offer frames).2.marks = session.marks := by
    unfold offer
    split
    · rfl
    · split <;> rfl
  have hstop (session : Session) : session.queueShutdown.marks = session.marks := by
    unfold queueShutdown
    split <;> rfl
  have hbreak (reason : CloseReason) : (session.breakOff reason).marks = session.marks := by
    unfold breakOff
    dsimp only
    split <;> split <;> first | rfl | exact hstop _
  cases operation with
  | announce =>
    show session.announce.marks = _
    unfold announce
    split <;> rfl
  | call request =>
    cases request with
    | send message => exact hoffer _
    | ping =>
      show session.ping.2.marks = _
      unfold ping sendControl
      split
      · rfl
      · exact hoffer _
    | close code text =>
      show (session.close code text).marks = _
      unfold close
      split <;> rfl
  | keepalive payload => cases h
  | recordInbound time data => cases h
  | answerPing payload => exact hoffer _
  | acknowledgeClose reason =>
    show (session.acknowledgeClose reason).marks = _
    unfold acknowledgeClose
    split <;> first | rfl | exact hstop _
  | breakOff reason => exact hbreak reason
  | forceClose reason =>
    show (session.forceClose reason).marks = _
    unfold forceClose
    split
    · rfl
    · exact hbreak reason
  | markClosed => exact hstop _
  | cancel | take | detach => rfl

theorem marks_run (session : Session) (operations : List Operation)
    (h : ∀ operation ∈ operations, operation.isCounted = false) :
    (session.run operations).marks = session.marks := by
  induction operations generalizing session with
  | nil => rfl
  | cons operation operations ih =>
    exact (ih _ fun other hother => h other (List.mem_cons_of_mem operation hother)).trans
      (session.marks_after operation (h operation List.mem_cons_self))

end Session

/-- Whether a frame that comes in is recorded: a close frame is if its reason can be read. -/
def Frame.isRecorded (frame : Frame) : Bool :=
  match frame.opcode with
  | .close => (CloseReason.ofPayload? frame.payload).isOk
  | _ => true

namespace Channel

/-- The frame that the reader takes in and records when it is woken up like this. -/
def intake? (channel : Channel) (wakeup : Wakeup) : Option Frame :=
  match channel.reader, wakeup, channel.incoming with
  | .reading, .inbound, .ok (some frame) => if frame.isRecorded then some frame else none
  | _, _, _ => none

theorem intake?_of_incoming {channel : Channel} {frame : Frame}
    (hreading : channel.reader = .reading) (hincoming : channel.incoming = .ok (some frame)) :
    channel.intake? .inbound = if frame.isRecorded then some frame else none := by
  unfold intake?
  rw [hreading, hincoming]

theorem intake?_eq_none {channel : Channel} {wakeup : Wakeup}
    (h : wakeup = .inbound → ∀ frame, channel.incoming ≠ .ok (some frame)) :
    channel.intake? wakeup = none := by
  unfold intake?
  split
  · rename_i hincoming
    exact absurd hincoming (h rfl _)
  · rfl

/-- A violation is no frame. -/
theorem marks_rejectPeer (channel : Channel) (violation : Violation) :
    (channel.rejectPeer violation).1.session.marks = channel.session.marks :=
  channel.session.marks_after (.breakOff _) rfl

/-- A data frame is recorded before it is looked at, so it does not matter what becomes of it. -/
theorem marks_receiveData (channel : Channel) (time : Nat) (frame : Frame) :
    (channel.receiveData time frame).1.session.marks = (0, time) := by
  unfold receiveData
  dsimp only
  split
  · rfl
  · split
    · exact marks_rejectPeer _ _
    · rfl

/-- What a frame makes of the marks. -/
theorem marks_receive (channel : Channel) (time : Nat) (frame : Frame) :
    (channel.receive time frame).1.session.marks =
      channel.session.marksWith time (if frame.isRecorded then some frame else none) := by
  -- A control frame that is recorded is answered, or it is not.
  have hcontrol (operation : Session.Operation) (hquiet : operation.isCounted = false) :
      ((channel.session.recordInbound time false).after operation).marks =
        (0, channel.session.lastActivity) :=
    (channel.session.recordInbound time false).marks_after operation hquiet
  obtain ⟨fin, opcode, mask, payload⟩ := frame
  cases opcode with
  | ping => exact hcontrol (.answerPing payload) rfl
  | pong => rfl
  | close =>
    show (channel.receiveClose time payload).1.session.marks = _
    unfold receiveClose Frame.isRecorded
    dsimp only
    cases CloseReason.ofPayload? payload with
    | error violation => exact channel.marks_rejectPeer violation
    | ok reason => exact hcontrol (.acknowledgeClose reason) rfl
  | text | binary | continuation => exact channel.marks_receiveData time _

/-- What a reader finds in its source makes of the marks. -/
theorem marks_readSource {channel next : Channel} {time : Nat} {event : Option Event}
    (hreading : channel.reader = .reading)
    (hread : channel.readSource time = some (next, event)) :
    next.session.marks = channel.session.marksWith time (channel.intake? .inbound) := by
  cases hincoming : channel.incoming with
  | error violation =>
    rw [readSource_of_violation hincoming] at hread
    cases hread
    rw [intake?_eq_none fun _ => by simp [hincoming]]
    exact channel.fetch.marks_rejectPeer violation
  | ok found =>
    cases found with
    | some frame =>
      rw [readSource_of_frame hincoming] at hread
      have hnext : (channel.fetch.receive time frame).1 = next :=
        congrArg (·.1) (Option.some.inj hread)
      rw [intake?_of_incoming hreading hincoming, ← hnext]
      exact channel.fetch.marks_receive time frame
    | none =>
      rw [intake?_eq_none fun _ => by simp [hincoming]]
      rcases readSource_of_none hincoming time with ⟨-, hnone⟩ | ⟨-, event', hleave⟩
      · simp [hnone] at hread
      · rw [hleave] at hread
        cases hread
        rfl

/-- What a step of the reader makes of the marks. If there is no step, no frame is there. -/
theorem marks_read (channel : Channel) (now : Moment) (wakeup : Wakeup) :
    (channel.after (.read now wakeup)).session.marks =
      channel.session.marksWith now.time (channel.intake? wakeup) := by
  cases hread : channel.read now wakeup with
  | none =>
    have hnone : channel.intake? wakeup = none := by
      unfold intake?
      split
      · rename_i hreading hincoming
        simp [read, hreading, readSource_of_frame hincoming] at hread
      · rfl
    rw [after, outcome_of_read_eq_none hread, hnone]
    rfl
  | some step =>
    obtain ⟨next, event⟩ := step
    rw [after, outcome_of_read hread]
    by_cases hinbound : wakeup = .inbound
    · subst hinbound
      cases hreader : channel.reader with
      | reading =>
        simp only [read, hreader] at hread
        exact marks_readSource hreader hread
      | _ => simp [read, hreader] at hread
    · rw [intake?_eq_none fun h => absurd h hinbound]
      show next.session.marks = channel.session.marks
      cases readStep_of_read hread with
      | violation | frame | exhausted => exact absurd rfl hinbound
      | drain reason => exact channel.session.marks_after .markClosed rfl
      | lost | finish | abandon => rfl

/-- An action is no keepalive and takes in no frame. -/
def Silent (channel : Channel) : Action → Prop
  | .keepalive _ => False
  | .read _ wakeup => channel.intake? wakeup = none
  | _ => True

theorem marks_after_of_silent (channel : Channel) (action : Action)
    (hsilent : channel.Silent action) :
    (channel.after action).session.marks = channel.session.marks := by
  cases action with
  | peer step => rfl
  | announce => exact channel.session.marks_after .announce rfl
  | start =>
    show channel.start.session.marks = _
    unfold start
    split <;> rfl
  | call request => exact channel.session.marks_after (.call request) rfl
  | keepalive number => cases hsilent
  | expire => exact channel.session.marks_after (.forceClose _) rfl
  | read now wakeup =>
    have hread := channel.marks_read now wakeup
    rwa [show channel.intake? wakeup = none from hsilent] at hread
  | write now =>
    show ((channel.write now).getD channel).session.marks = _
    cases hwrite : channel.write now with
    | none => rfl
    | some next =>
      obtain ⟨operations, hwriters, hsession⟩ := (write_turn hwrite).exists_writers
      show next.session.marks = _
      rw [hsession]
      refine channel.session.marks_run operations fun operation hmem => ?_
      have hwriter := hwriters operation hmem
      cases operation <;> first | rfl | cases hwriter

theorem marks_run_calls (channel : Channel) (requests : List Call) :
    (channel.run (requests.map .call)).session.marks = channel.session.marks := by
  induction requests generalizing channel with
  | nil => rfl
  | cons request requests ih =>
    exact (ih _).trans (channel.marks_after_of_silent (.call request) trivial)

end Channel

end SocketGate
