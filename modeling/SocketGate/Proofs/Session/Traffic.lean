import SocketGate.Proofs.Frame.CloseReason
import SocketGate.Proofs.Frame.Stream
import SocketGate.Proofs.Message.Assembly
import SocketGate.Proofs.Session.Operation

/-!
# `SocketGate.Proofs.Session.Traffic`: the frames that a session queues

The items of an outbox are frames and the request to shut down. This module says which
frames they are. An operation queues all fragments of a message that it accepts, or it
accepts none and queues signals only: control frames that are unmasked, final and short
(`Session.enqueued_cases`). So the frames of any run carry the messages that were accepted,
in order, with signals only between two of them (`Session.carries_enqueued`), and each of
them can be written and is accepted by a client (`Session.sendable_of_mem_enqueued`).

What a connection reports has to be short for this: the payload of a ping that is answered
and the reason of a close frame that is not cut to size. `Operation.Brief` says so; the
channel has checked it.
-/

set_option autoImplicit false

namespace SocketGate

/-! ### Frames among the items -/

namespace Outbound

/-- The frame of an item, if it has one. -/
def frame? : Outbound → Option Frame
  | .frame f => some f
  | .shutdown => none

/-- The frames among some items, first one first. -/
def frames (items : List Outbound) : List Frame := items.filterMap frame?

@[simp] theorem frames_nil : frames [] = [] :=
  rfl

@[simp] theorem frames_append (items items' : List Outbound) :
    frames (items ++ items') = frames items ++ frames items' :=
  List.filterMap_append

@[simp] theorem frames_map_frame (fs : List Frame) : frames (fs.map .frame) = fs := by
  simp [frames, List.filterMap_map, Function.comp_def, frame?]

theorem mem_frames_iff (items : List Outbound) (f : Frame) :
    f ∈ frames items ↔ .frame f ∈ items := by
  unfold frames
  rw [List.mem_filterMap]
  constructor
  · rintro ⟨item, hitem, hframe⟩
    cases item with
    | frame f' =>
      cases hframe
      exact hitem
    | shutdown => cases hframe
  · exact fun h => ⟨_, h, rfl⟩

end Outbound

/-! ### Signals -/

namespace Frame

/-- A control frame of a server: unmasked, final and short. -/
structure IsSignal (frame : Frame) : Prop where
  isControl : frame.opcode.isControl
  fin : frame.fin
  mask : frame.mask = none
  size : frame.payload.length ≤ maxControlPayload

theorem isSignal_ofPayload (opcode : Opcode) (payload : Bytes) (hcontrol : opcode.isControl)
    (hsize : payload.length ≤ maxControlPayload) : (ofPayload opcode payload).IsSignal where
  isControl := hcontrol
  fin := rfl
  mask := rfl
  size := hsize

end Frame

namespace Outbox

/-- Behind the items that wait there are some more, and the frames among them are
signals. -/
def Signals (before after : Outbox) : Prop :=
  ∃ items, after = before.append items ∧ ∀ frame, .frame frame ∈ items → frame.IsSignal

namespace Signals

variable {before middle after : Outbox}

theorem refl (outbox : Outbox) : outbox.Signals outbox :=
  ⟨[], (outbox.append_nil).symm, by simp⟩

theorem trans (h : before.Signals middle) (h' : middle.Signals after) :
    before.Signals after := by
  obtain ⟨items, rfl, hitems⟩ := h
  obtain ⟨items', rfl, hitems'⟩ := h'
  refine ⟨items ++ items', append_append before items items', fun frame hframe => ?_⟩
  rcases List.mem_append.mp hframe with hold | hnew
  · exact hitems frame hold
  · exact hitems' frame hnew

theorem put_shutdown (outbox : Outbox) : outbox.Signals (outbox.put .shutdown) := by
  refine ⟨outbox.admitted .shutdown, outbox.put_eq _, fun frame hframe => ?_⟩
  have hsame := (List.mem_ite_nil_right.mp hframe).2
  simp at hsame

theorem put_frame (outbox : Outbox) (frame : Frame) (h : frame.IsSignal) :
    outbox.Signals (outbox.put (.frame frame)) := by
  refine ⟨outbox.admitted (.frame frame), outbox.put_eq _, fun frame' hframe => ?_⟩
  have hsame := (List.mem_ite_nil_right.mp hframe).2
  obtain rfl : frame' = frame := by simpa using hsame
  exact h

theorem append_frame (outbox : Outbox) (frame : Frame) (h : frame.IsSignal) :
    outbox.Signals (outbox.append [.frame frame]) := by
  refine ⟨[.frame frame], rfl, fun frame' hframe => ?_⟩
  obtain rfl : frame' = frame := by simpa using hframe
  exact h

/-- The frames among what was added are signals. -/
theorem of_mem_added (h : before.Signals after) (frame : Frame)
    (hframe : frame ∈ Outbound.frames (before.added after)) : frame.IsSignal := by
  obtain ⟨items, rfl, hitems⟩ := h
  rw [added_append, Outbound.mem_frames_iff] at hframe
  exact hitems frame hframe

end Signals

end Outbox

namespace Session

/-- What the connection reports in an operation fits into a control frame. -/
def Operation.Brief : Operation → Prop
  | .keepalive payload | .answerPing payload => payload.length ≤ maxControlPayload
  | .breakOff reason | .forceClose reason => reason.toPayload.length ≤ maxControlPayload
  | _ => True

/-! ### What an operation queues -/

theorem isSignal_close (reason : CloseReason)
    (h : reason.toPayload.length ≤ maxControlPayload) : (Frame.close reason).IsSignal :=
  Frame.isSignal_ofPayload .close reason.toPayload rfl h

/-- A signal that is offered is queued or refused. -/
theorem offer_signals (session : Session) (frame : Frame) (h : frame.IsSignal) :
    session.outbox.Signals (session.offer [frame]).2.outbox := by
  obtain ⟨refusal, hoffer⟩ | ⟨-, -, -, hoffer⟩ := session.offer_cases [frame]
  · rw [hoffer]
    exact .refl session.outbox
  · rw [hoffer]
    exact .append_frame session.outbox frame h

theorem queueShutdown_signals (session : Session) :
    session.outbox.Signals session.queueShutdown.outbox := by
  unfold queueShutdown
  split
  · exact .refl session.outbox
  · exact .put_shutdown session.outbox

theorem putClose_signals (session : Session) (reason : CloseReason)
    (h : reason.toPayload.length ≤ maxControlPayload) :
    session.outbox.Signals (session.putClose reason).outbox :=
  .put_frame session.outbox _ (isSignal_close reason h)

theorem breakOff_signals (session : Session) (reason : CloseReason)
    (h : reason.toPayload.length ≤ maxControlPayload) :
    session.outbox.Signals (session.breakOff reason).outbox := by
  -- The close frame comes first, if the session can still send one.
  have hclose : session.outbox.Signals
      (if session.state.isWritable then session.putClose reason else session).outbox := by
    split
    · exact session.putClose_signals reason h
    · exact .refl session.outbox
  unfold breakOff
  generalize (if session.state.isWritable then session.putClose reason else session) = middle
    at hclose ⊢
  dsimp only
  split
  · exact hclose
  · exact hclose.trans (queueShutdown_signals { middle with state := .closing })

theorem acknowledgeClose_signals (session : Session) (reason : CloseReason) :
    session.outbox.Signals (session.acknowledgeClose reason).outbox := by
  -- The answer has the code of the peer, but not its text.
  have hshort := CloseReason.length_toPayload_of reason.code ""
  have hboth : session.outbox.Signals (({ session with state := .closing }.putClose
      (CloseReason.of reason.code "")).queueShutdown).outbox :=
    (putClose_signals { session with state := .closing } _ hshort).trans
      (queueShutdown_signals _)
  cases hstate : session.state with
  | handshakeDone | opened =>
    simp only [acknowledgeClose, hstate]
    exact hboth
  | closing =>
    simp only [acknowledgeClose, hstate]
    exact session.queueShutdown_signals
  | closed =>
    simp only [acknowledgeClose, hstate]
    exact .refl session.outbox

/-- A keepalive is queued or left out. -/
theorem keepalive_signals (session : Session) (payload : Bytes)
    (h : payload.length ≤ maxControlPayload) :
    session.outbox.Signals (session.keepalive payload).2.outbox := by
  unfold keepalive
  split
  · exact .refl session.outbox
  · cases hpush : session.outbox.push [Frame.ping payload] with
    | error refusal => exact .refl session.outbox
    | ok outbox =>
      obtain ⟨-, -, rfl⟩ := (Outbox.push_eq_ok_iff _ _ _).mp hpush
      exact .append_frame session.outbox _ (Frame.isSignal_ofPayload .ping payload rfl h)

/-- Sending a message queues all its fragments and is accepted, or does nothing and is
refused. -/
theorem send_cases (session : Session) (message : Message) :
    (session.acceptedBy (.call (.send message)) = some message ∧
      session.outbox.added (session.after (.call (.send message))).outbox =
        (message.fragments session.frameLimit).map .frame) ∨
    (session.acceptedBy (.call (.send message)) = none ∧
      session.after (.call (.send message)) = session) := by
  obtain ⟨refusal, h⟩ | ⟨-, -, -, h⟩ :=
    session.offer_cases (message.fragments session.frameLimit)
  · have hsend : session.send message = (.error refusal, session) := h
    refine .inr ⟨by simp only [acceptedBy, hsend], ?_⟩
    show (session.send message).2 = session
    rw [hsend]
  · have hsend : session.send message = _ := h
    refine .inl ⟨by simp only [acceptedBy, hsend], ?_⟩
    show session.outbox.added (session.send message).2.outbox = _
    rw [hsend, Outbox.added_append]

/-- An operation other than sending a message, and other than what the writer does, only
queues signals. -/
theorem after_signals (session : Session) (operation : Operation) (hbrief : operation.Brief)
    (hsend : ∀ message, operation ≠ .call (.send message)) (htake : operation ≠ .take)
    (hdetach : operation ≠ .detach) :
    session.outbox.Signals (session.after operation).outbox := by
  cases operation with
  | announce =>
    show session.outbox.Signals session.announce.outbox
    unfold announce
    split <;> exact .refl session.outbox
  | call call =>
    cases call with
    | send message => exact absurd rfl (hsend message)
    | ping =>
      exact session.offer_signals _ (Frame.isSignal_ofPayload .ping [] rfl (Nat.zero_le _))
    | close code text =>
      show session.outbox.Signals (session.close code text).outbox
      unfold close
      split
      · exact .refl session.outbox
      · exact putClose_signals { session with state := .closing } _
          (CloseReason.length_toPayload_of code text)
  | keepalive payload => exact session.keepalive_signals payload hbrief
  | recordInbound time data => exact .refl session.outbox
  | answerPing payload =>
    exact session.offer_signals _ (Frame.isSignal_ofPayload .pong payload rfl hbrief)
  | acknowledgeClose reason => exact session.acknowledgeClose_signals reason
  | breakOff reason => exact session.breakOff_signals reason hbrief
  | forceClose reason =>
    show session.outbox.Signals (session.forceClose reason).outbox
    unfold forceClose
    split
    · exact .refl session.outbox
    · exact session.breakOff_signals reason hbrief
  | markClosed => exact queueShutdown_signals { session with state := .closed }
  | cancel => exact .refl session.outbox
  | take => exact absurd rfl htake
  | detach => exact absurd rfl hdetach

/-- Nothing enters the outbox when the writer takes an item. -/
theorem added_take (session : Session) :
    session.outbox.added (session.after .take).outbox = [] := by
  show session.outbox.added ((session.outbox.take?.map (·.2)).getD session.outbox) = []
  cases hwaiting : session.outbox.waiting with
  | nil => simp [Outbox.take?, hwaiting]
  | cons item waiting => simp [Outbox.take?, hwaiting, Outbox.added]

/-- An operation accepts a message and queues its fragments, or it accepts none and queues
signals only. -/
theorem enqueued_cases (session : Session) (operation : Operation) (hbrief : operation.Brief) :
    (∃ message, session.acceptedBy operation = some message ∧
      session.outbox.added (session.after operation).outbox =
        (message.fragments session.frameLimit).map .frame) ∨
    (session.acceptedBy operation = none ∧
      ∀ frame ∈ Outbound.frames (session.outbox.added (session.after operation).outbox),
        frame.IsSignal) := by
  by_cases hsend : ∃ message, operation = .call (.send message)
  · obtain ⟨message, rfl⟩ := hsend
    obtain ⟨haccepted, hadded⟩ | ⟨haccepted, hsame⟩ := session.send_cases message
    · exact .inl ⟨message, haccepted, hadded⟩
    · exact .inr ⟨haccepted, by simp [hsame]⟩
  · have hother : ∀ message, operation ≠ .call (.send message) :=
      fun message h => hsend ⟨message, h⟩
    refine .inr ⟨?_, ?_⟩
    · unfold acceptedBy
      split
      · exact absurd rfl (hother _)
      · rfl
    · -- What the writer does adds nothing, and the others add signals.
      by_cases htake : operation = .take
      · rw [htake, added_take]
        simp
      · by_cases hdetach : operation = .detach
        · simp [hdetach, after, Outbox.added, Outbox.detach]
        · exact (session.after_signals operation hbrief hother htake hdetach).of_mem_added

/-! ### What a run queues -/

/-- No operation changes the id of a session or the limit of its frames. -/
theorem settings_after (session : Session) (operation : Operation) :
    (session.after operation).id = session.id ∧
      (session.after operation).frameLimit = session.frameLimit := by
  have hoffer : ∀ frames, (session.offer frames).2.id = session.id ∧
      (session.offer frames).2.frameLimit = session.frameLimit := by
    intro frames
    obtain ⟨refusal, h⟩ | ⟨-, -, -, h⟩ := session.offer_cases frames <;> simp [h]
  have hstop : ∀ session : Session, session.queueShutdown.id = session.id ∧
      session.queueShutdown.frameLimit = session.frameLimit := by
    intro session
    unfold queueShutdown
    split <;> exact ⟨rfl, rfl⟩
  have hbreak : ∀ reason, (session.breakOff reason).id = session.id ∧
      (session.breakOff reason).frameLimit = session.frameLimit := by
    intro reason
    unfold breakOff putClose
    split <;> dsimp only <;> split <;> simp [hstop]
  cases operation with
  | announce =>
    show session.announce.id = _ ∧ session.announce.frameLimit = _
    unfold announce
    split <;> exact ⟨rfl, rfl⟩
  | call call =>
    cases call with
    | send message => exact hoffer _
    | ping => exact hoffer _
    | close code text =>
      show (session.close code text).id = _ ∧ (session.close code text).frameLimit = _
      unfold close
      split <;> exact ⟨rfl, rfl⟩
  | keepalive payload =>
    show (session.keepalive payload).2.id = _ ∧ (session.keepalive payload).2.frameLimit = _
    unfold keepalive
    split
    · exact ⟨rfl, rfl⟩
    · split <;> exact ⟨rfl, rfl⟩
  | recordInbound time data => exact ⟨rfl, rfl⟩
  | answerPing payload => exact hoffer _
  | acknowledgeClose reason =>
    show (session.acknowledgeClose reason).id = _ ∧
      (session.acknowledgeClose reason).frameLimit = _
    unfold acknowledgeClose putClose
    split <;> simp [hstop]
  | breakOff reason => exact hbreak reason
  | forceClose reason =>
    show (session.forceClose reason).id = _ ∧ (session.forceClose reason).frameLimit = _
    unfold forceClose
    split
    · exact ⟨rfl, rfl⟩
    · exact hbreak reason
  | markClosed => exact hstop _
  | cancel => exact ⟨rfl, rfl⟩
  | take => exact ⟨rfl, rfl⟩
  | detach => exact ⟨rfl, rfl⟩

theorem id_run (session : Session) (operations : List Operation) :
    (session.run operations).id = session.id := by
  induction operations generalizing session with
  | nil => rfl
  | cons operation operations ih => exact (ih _).trans (session.settings_after operation).1

/-- The frames that a run queues carry the messages that it accepts, in order. -/
theorem carries_enqueued (session : Session) (operations : List Operation)
    (hbrief : ∀ operation ∈ operations, operation.Brief) (frames : List Frame)
    (messages : List Message) (h : Assembler.Carries session.frameLimit frames messages) :
    Assembler.Carries session.frameLimit
      (frames ++ Outbound.frames (session.enqueued operations))
      (messages ++ session.accepted operations) := by
  -- What was carried before the first operation varies, since each one appends to it.
  induction operations generalizing session frames messages with
  | nil => simpa [enqueued, accepted] using h
  | cons operation operations ih =>
    have hlimit := (session.settings_after operation).2
    have hrest := fun other hother => hbrief other (List.mem_cons_of_mem operation hother)
    rw [enqueued, accepted, Outbound.frames_append, ← List.append_assoc, ← List.append_assoc,
      ← hlimit]
    apply ih _ hrest
    rw [hlimit]
    obtain ⟨message, haccepted, hadded⟩ | ⟨haccepted, hsignals⟩ :=
      session.enqueued_cases operation (hbrief operation List.mem_cons_self)
    · rw [haccepted, hadded, Outbound.frames_map_frame]
      exact h.message message
    · rw [haccepted, Option.toList_none, List.append_nil]
      exact h.controls _ fun frame hframe => (hsignals frame hframe).isControl

/-- Every frame that a run queues is unmasked, can be written, and is accepted by a client
that accepts control frames and frames of the session's size. -/
theorem sendable_of_mem_enqueued (session : Session) (operations : List Operation)
    (hbrief : ∀ operation ∈ operations, operation.Brief) (hlimit : session.frameLimit < 2 ^ 64)
    (limit : Nat) (hcontrol : maxControlPayload ≤ limit) (hdata : session.frameLimit ≤ limit)
    (frame : Frame) (hframe : frame ∈ Outbound.frames (session.enqueued operations)) :
    frame.mask = none ∧ frame.Sendable limit := by
  have hmax : maxControlPayload = 125 := rfl
  induction operations generalizing session with
  | nil => simp [enqueued] at hframe
  | cons operation operations ih =>
    have hsame := (session.settings_after operation).2
    rw [enqueued, Outbound.frames_append, List.mem_append] at hframe
    rcases hframe with hfirst | hlater
    · obtain ⟨message, -, hadded⟩ | ⟨-, hsignals⟩ :=
        session.enqueued_cases operation (hbrief operation List.mem_cons_self)
      · -- It is a fragment: a data frame of at most the session's size, or of one byte.
        rw [hadded, Outbound.frames_map_frame] at hfirst
        obtain ⟨hmask, hdataFrame, hsize⟩ := Assembler.of_mem_fragments message _ frame hfirst
        exact ⟨hmask, {
          control := fun hcontrolFrame => by simp [hdataFrame] at hcontrolFrame
          size := by omega
          limit := by omega }⟩
      · have hsignal := hsignals frame hfirst
        have hsize := hsignal.size
        exact ⟨hsignal.mask, {
          control := fun _ => ⟨hsignal.fin, hsize⟩
          size := by omega
          limit := by omega }⟩
    · exact ih _ (fun other hother => hbrief other (List.mem_cons_of_mem operation hother))
        (hsame ▸ hlimit) (hsame ▸ hdata) hlater

/-- Marking a session closed closes it. -/
theorem state_markClosed (session : Session) : session.markClosed.state = .closed := by
  unfold markClosed queueShutdown
  split <;> rfl

/-! ### What the writer does -/

/-- Whether an operation is the writer's: it queues nothing. -/
def Operation.isWriters : Operation → Bool
  | .cancel | .take | .detach => true
  | _ => false

theorem Operation.brief_of_isWriters {operation : Operation} (h : operation.isWriters) :
    operation.Brief := by
  cases operation <;> trivial

/-- The writer adds nothing to the outbox and accepts nothing. -/
theorem writers_after (session : Session) (operation : Operation) (h : operation.isWriters) :
    (session.after operation).outbox.waiting.length ≤ session.outbox.waiting.length ∧
      session.acceptedBy operation = none := by
  cases operation with
  | cancel => exact ⟨Nat.le_refl _, rfl⟩
  | take =>
    refine ⟨?_, rfl⟩
    show ((session.outbox.take?.map (·.2)).getD session.outbox).waiting.length ≤ _
    cases hwaiting : session.outbox.waiting <;> simp [Outbox.take?, hwaiting]
  | detach => exact ⟨Nat.zero_le _, rfl⟩
  | _ => cases h

theorem writers_run (session : Session) (operations : List Operation)
    (h : ∀ operation ∈ operations, operation.isWriters) :
    (session.run operations).outbox.waiting.length ≤ session.outbox.waiting.length ∧
      session.enqueued operations = [] ∧ session.accepted operations = [] := by
  induction operations generalizing session with
  | nil => exact ⟨Nat.le_refl _, rfl, rfl⟩
  | cons operation operations ih =>
    obtain ⟨hlength, haccepted⟩ := session.writers_after operation (h _ List.mem_cons_self)
    obtain ⟨hrest, henqueued, haccepted'⟩ := ih (session.after operation)
      fun other hother => h other (List.mem_cons_of_mem operation hother)
    refine ⟨Nat.le_trans hrest hlength, ?_, ?_⟩
    · rw [enqueued, henqueued, List.append_nil, Outbox.added, List.drop_eq_nil_of_le hlength]
    · rw [accepted, haccepted, haccepted']
      rfl

theorem added_of_writers (session : Session) (operations : List Operation)
    (h : ∀ operation ∈ operations, operation.isWriters) :
    session.outbox.added (session.run operations).outbox = [] := by
  rw [Outbox.added, List.drop_eq_nil_of_le (session.writers_run operations h).1]

/-! ### Operations that only queue -/

/-- `after` comes out of `before` by operations that queue items but take none, with brief
reports only. -/
structure Performs (before after : Session) (operations : List Operation) : Prop where
  brief : ∀ operation ∈ operations, operation.Brief
  run_eq : after = before.run operations
  outbox_eq : after.outbox = before.outbox.append (before.enqueued operations)

namespace Performs

theorem refl (session : Session) : session.Performs session [] where
  brief := by simp
  run_eq := rfl
  outbox_eq := session.outbox.append_nil.symm

/-- One operation that is not the writer's. -/
theorem single (session : Session) (operation : Operation) (hbrief : operation.Brief)
    (htake : operation ≠ .take) (hdetach : operation ≠ .detach) :
    session.Performs (session.after operation) [operation] where
  brief := by simpa using hbrief
  run_eq := rfl
  outbox_eq := by
    -- A message is the only thing that is not a signal, and it appends too.
    have happend : ∃ items, (session.after operation).outbox = session.outbox.append items := by
      by_cases hsend : ∃ message, operation = .call (.send message)
      · obtain ⟨message, rfl⟩ := hsend
        obtain ⟨refusal, h⟩ | ⟨-, -, -, h⟩ :=
          session.offer_cases (message.fragments session.frameLimit)
        · refine ⟨[], ?_⟩
          show (session.offer _).2.outbox = _
          rw [h, Outbox.append_nil]
        · refine ⟨(message.fragments session.frameLimit).map .frame, ?_⟩
          show (session.offer _).2.outbox = _
          rw [h]
      · obtain ⟨items, hitems, -⟩ := session.after_signals operation hbrief
          (fun message h => hsend ⟨message, h⟩) htake hdetach
        exact ⟨items, hitems⟩
    obtain ⟨items, hitems⟩ := happend
    rw [enqueued, enqueued, List.append_nil, hitems, Outbox.added_append]

theorem trans {before middle after : Session} {first second : List Operation}
    (h : before.Performs middle first) (h' : middle.Performs after second) :
    before.Performs after (first ++ second) where
  brief operation hoperation := by
    rcases List.mem_append.mp hoperation with hfirst | hsecond
    · exact h.brief operation hfirst
    · exact h'.brief operation hsecond
  run_eq := by rw [h'.run_eq, h.run_eq, run_append]
  outbox_eq := by
    rw [h'.outbox_eq, h.outbox_eq, Outbox.append_append, enqueued_append, h.run_eq]

/-- What was added is what the operations queued. -/
theorem added_eq {before after : Session} {operations : List Operation}
    (h : before.Performs after operations) :
    before.outbox.added after.outbox = before.enqueued operations := by
  rw [h.outbox_eq, Outbox.added_append]

end Performs

end Session

end SocketGate
