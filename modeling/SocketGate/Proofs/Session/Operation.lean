import SocketGate.Proofs.Message.Assembly
import SocketGate.Session.Basic

/-!
# `SocketGate.Proofs.Session.Operation`: sessions under any sequence of operations

`Session.Operation` lists everything that is ever done to a session: the calls of the
application, what the connection reports, the keepalive, and what the writer does at the
other end of the outbox. `Session.run` carries out a list of operations. Along it,
`Session.enqueued` collects what entered the outbox, in order, and `Session.accepted` the
messages whose sending was not refused.

The sessions keep no such record of their own. What an operation put into the outbox is
read off the two outboxes: `Outbox.added` is what stands behind the items that waited
before. No operation puts an item in front of another one, so nothing is missed.

* `Outbox.push_eq_ok_iff` and `Outbox.put_eq`: what enters the outbox, and when.
* `Session.after_turn`: the seven ways in which an operation can change the state, the
  outbox and the request to shut down. Every invariant of the queue is derived from it.
* `Session.run_append`, `Session.enqueued_append`: a run in two parts.
-/

set_option autoImplicit false

namespace SocketGate

/-! ### What enters the outbox -/

namespace Outbox

/-- The outbox with more items behind those that wait. -/
def append (outbox : Outbox) (items : List Outbound) : Outbox :=
  { outbox with waiting := outbox.waiting ++ items }

/-- What stands in `after` behind as many items as waited in `before`. -/
def added (before after : Outbox) : List Outbound :=
  after.waiting.drop before.waiting.length

/-- What `put` lets in of one item: the item, or nothing. -/
def admitted (outbox : Outbox) (item : Outbound) : List Outbound :=
  if outbox.attached ∧ 0 < outbox.free then [item] else []

@[simp] theorem added_self (outbox : Outbox) : outbox.added outbox = [] :=
  List.drop_length

@[simp] theorem added_append (outbox : Outbox) (items : List Outbound) :
    outbox.added (outbox.append items) = items :=
  List.drop_left

@[simp] theorem append_append (outbox : Outbox) (items items' : List Outbound) :
    (outbox.append items).append items' = outbox.append (items ++ items') := by
  simp [append]

@[simp] theorem append_nil (outbox : Outbox) : outbox.append [] = outbox := by
  simp [append]

@[simp] theorem attached_append (outbox : Outbox) (items : List Outbound) :
    (outbox.append items).attached = outbox.attached :=
  rfl

@[simp] theorem waiting_append (outbox : Outbox) (items : List Outbound) :
    (outbox.append items).waiting = outbox.waiting ++ items :=
  rfl

/-- Frames are queued exactly when the writer is there and they all fit within the
limit. -/
theorem push_eq_ok_iff (outbox after : Outbox) (frames : List Frame) :
    outbox.push frames = .ok after ↔
      outbox.attached ∧ outbox.waiting.length + frames.length ≤ outbox.limit ∧
        after = outbox.append (frames.map .frame) := by
  unfold push
  split
  · rename_i h
    simp_all
  · rename_i h
    have hattached : outbox.attached = true := by simpa using h
    -- Frames leave the headroom free, so they fit exactly when they fit within the limit.
    have hfree : outbox.free < frames.length + headroom ↔
        outbox.limit < outbox.waiting.length + frames.length := by
      unfold free capacity headroom
      omega
    by_cases hroom : outbox.free < frames.length + headroom
    · rw [if_pos hroom]
      simp only [reduceCtorEq, false_iff, not_and]
      exact fun _ h => absurd (hfree.mp hroom) (by omega)
    · rw [if_neg hroom]
      constructor
      · intro h
        cases h
        exact ⟨hattached, by omega, rfl⟩
      · rintro ⟨-, -, rfl⟩
        rfl

/-- One item is queued in any free place. -/
theorem put_eq (outbox : Outbox) (item : Outbound) :
    outbox.put item = outbox.append (outbox.admitted item) := by
  unfold put admitted
  split <;> simp [append]

/-- There is always a place for an item while fewer wait than fit in all. -/
theorem admitted_eq (outbox : Outbox) (item : Outbound) (hattached : outbox.attached)
    (hroom : outbox.waiting.length < outbox.limit + headroom) :
    outbox.admitted item = [item] := by
  have hfree : 0 < outbox.free := by
    unfold free capacity
    omega
  rw [admitted, if_pos ⟨hattached, hfree⟩]

/-- Without a writer nothing is let in. -/
theorem admitted_of_detached (outbox : Outbox) (item : Outbound)
    (hdetached : outbox.attached = false) : outbox.admitted item = [] := by
  simp [admitted, hdetached]

end Outbox

/-- The place of a state in the life of a session. -/
def SessionState.rank : SessionState → Nat
  | .handshakeDone => 0
  | .opened => 1
  | .closing => 2
  | .closed => 3

namespace Session

/-! ### Operations and runs -/

/-- Something that is done to a session. -/
inductive Operation where
  /-- It is announced to the application. -/
  | announce
  /-- The application calls it. -/
  | call (call : Call)
  /-- A sweep sends it a ping. -/
  | keepalive (payload : Bytes)
  /-- A frame has come in. -/
  | recordInbound (time : Nat) (data : Bool)
  /-- A ping of the peer is answered. -/
  | answerPing (payload : Bytes)
  /-- A close frame of the peer is answered. -/
  | acknowledgeClose (reason : CloseReason)
  /-- The peer broke a rule. -/
  | breakOff (reason : CloseReason)
  /-- It is closed by force. -/
  | forceClose (reason : CloseReason)
  /-- Its connection is gone. -/
  | markClosed
  /-- The writer gives up waiting, and the reading has to stop. -/
  | cancel
  /-- The writer takes the first item of the outbox. -/
  | take
  /-- The writer is gone. -/
  | detach

/-- The session after an operation. -/
def after (session : Session) : Operation → Session
  | .announce => session.announce
  | .call call => (session.call call).2
  | .keepalive payload => (session.keepalive payload).2
  | .recordInbound time data => session.recordInbound time data
  | .answerPing payload => session.answerPing payload
  | .acknowledgeClose reason => session.acknowledgeClose reason
  | .breakOff reason => session.breakOff reason
  | .forceClose reason => session.forceClose reason
  | .markClosed => session.markClosed
  | .cancel => { session with cancelled := true }
  | .take => { session with outbox := (session.outbox.take?.map (·.2)).getD session.outbox }
  | .detach => { session with outbox := session.outbox.detach }

/-- The message that an operation gets accepted, if it does. -/
def acceptedBy (session : Session) : Operation → Option Message
  | .call (.send message) =>
    match (session.send message).1 with
    | .ok () => some message
    | .error _ => none
  | _ => none

/-- The session after some operations. -/
def run (session : Session) (operations : List Operation) : Session :=
  operations.foldl after session

/-- Everything that entered the outbox during some operations, first item first. -/
def enqueued (session : Session) : List Operation → List Outbound
  | [] => []
  | operation :: operations =>
    session.outbox.added (session.after operation).outbox ++
      (session.after operation).enqueued operations

/-- The messages that were accepted during some operations, first one first. -/
def accepted (session : Session) : List Operation → List Message
  | [] => []
  | operation :: operations =>
    (session.acceptedBy operation).toList ++ (session.after operation).accepted operations

theorem run_append (session : Session) (before after : List Operation) :
    session.run (before ++ after) = (session.run before).run after :=
  List.foldl_append

theorem enqueued_append (session : Session) (before after : List Operation) :
    session.enqueued (before ++ after) =
      session.enqueued before ++ (session.run before).enqueued after := by
  induction before generalizing session with
  | nil => rfl
  | cons operation before ih =>
    rw [List.cons_append, enqueued, enqueued, ih, List.append_assoc]
    rfl

theorem accepted_append (session : Session) (before after : List Operation) :
    session.accepted (before ++ after) =
      session.accepted before ++ (session.run before).accepted after := by
  induction before generalizing session with
  | nil => rfl
  | cons operation before ih =>
    rw [List.cons_append, accepted, accepted, ih, List.append_assoc]
    rfl

/-! ### What an operation can do -/

/-- The two outcomes of offering frames: they are all queued, or nothing changes. -/
theorem offer_cases (session : Session) (frames : List Frame) :
    (∃ refusal, session.offer frames = (.error refusal, session)) ∨
    (session.state.isWritable ∧ session.outbox.attached ∧
      session.outbox.waiting.length + frames.length ≤ session.outbox.limit ∧
      session.offer frames =
        (.ok (), { session with outbox := session.outbox.append (frames.map .frame) })) := by
  unfold offer
  split
  · exact .inl ⟨_, rfl⟩
  · rename_i hwritable
    cases hpush : session.outbox.push frames with
    | error refusal => exact .inl ⟨refusal, rfl⟩
    | ok outbox =>
      obtain ⟨hattached, hroom, rfl⟩ := (Outbox.push_eq_ok_iff _ _ _).mp hpush
      exact .inr ⟨by simpa using hwritable, hattached, hroom, rfl⟩

/-- How an operation can change the state of a session, its outbox and the flag of the
request to shut down. Nothing else matters to the discipline of the queue. -/
inductive Turn (session next : Session) : Prop where
  /-- The queue is left alone, and at most the session is announced. -/
  | rest (outbox : next.outbox = session.outbox)
      (flag : next.shutdownQueued = session.shutdownQueued)
      (state : next.state = session.state ∨
        session.state = .handshakeDone ∧ next.state = .opened)
  /-- Frames are queued, none of which is a close frame. -/
  | accept (frames : List Frame) (plain : ∀ frame ∈ frames, frame.opcode ≠ .close)
      (writable : session.state.isWritable) (attached : session.outbox.attached)
      (room : session.outbox.waiting.length + frames.length ≤ session.outbox.limit)
      (outbox : next.outbox = session.outbox.append (frames.map .frame))
      (flag : next.shutdownQueued = session.shutdownQueued)
      (state : next.state = session.state)
  /-- The closing handshake begins. -/
  | close (reason : CloseReason) (writable : session.state.isWritable)
      (outbox : next.outbox = session.outbox.put (.frame (Frame.close reason)))
      (flag : next.shutdownQueued = session.shutdownQueued)
      (state : next.state = .closing)
  /-- The closing handshake begins, and the writer is asked to shut down. -/
  | closeAndStop (reason : CloseReason) (writable : session.state.isWritable)
      (outbox : next.outbox =
        if session.shutdownQueued then session.outbox.put (.frame (Frame.close reason))
        else (session.outbox.put (.frame (Frame.close reason))).put .shutdown)
      (flag : next.shutdownQueued = true) (state : next.state = .closing)
  /-- The writer is asked to shut down, unless it has been. -/
  | stop (outbox : next.outbox =
        if session.shutdownQueued then session.outbox else session.outbox.put .shutdown)
      (flag : next.shutdownQueued = true)
      (state : next.state = .closed ∨ session.state = .closing ∧ next.state = .closing)
  /-- The writer takes an item. -/
  | take (item : Outbound) (waiting : session.outbox.waiting = item :: next.outbox.waiting)
      (limit : next.outbox.limit = session.outbox.limit)
      (attached : next.outbox.attached = session.outbox.attached)
      (flag : next.shutdownQueued = session.shutdownQueued)
      (state : next.state = session.state)
  /-- The writer is gone. -/
  | detach (outbox : next.outbox = session.outbox.detach)
      (flag : next.shutdownQueued = session.shutdownQueued)
      (state : next.state = session.state)

theorem Turn.refl (session : Session) : session.Turn session :=
  .rest rfl rfl (.inl rfl)

/-- Frames are offered, none of which is a close frame. -/
theorem offer_turn (session : Session) (frames : List Frame)
    (hplain : ∀ frame ∈ frames, frame.opcode ≠ .close) :
    session.Turn (session.offer frames).2 := by
  obtain ⟨refusal, h⟩ | ⟨hwritable, hattached, hroom, h⟩ := session.offer_cases frames
  · rw [h]
    exact .refl session
  · rw [h]
    exact .accept frames hplain hwritable hattached hroom rfl rfl rfl

@[simp] theorem state_queueShutdown (session : Session) :
    session.queueShutdown.state = session.state := by
  unfold queueShutdown
  split <;> rfl

/-- The writer is asked to shut down by a session that goes on to `state`. -/
theorem queueShutdown_turn (session : Session) (state : SessionState)
    (hstate : state = .closed ∨ session.state = .closing ∧ state = .closing) :
    session.Turn { session with state }.queueShutdown := by
  unfold queueShutdown
  split
  · -- It has been asked before, and nothing is queued again.
    rename_i h
    exact .stop (if_pos h).symm h hstate
  · rename_i h
    exact .stop (if_neg h).symm rfl hstate

/-- The closing handshake begins with a close frame for `reason`, and the writer is asked
to shut down. -/
theorem closeAndStop_turn (session : Session) (reason : CloseReason)
    (hwritable : session.state.isWritable) :
    session.Turn ({ session with state := .closing }.putClose reason).queueShutdown := by
  unfold queueShutdown putClose
  split
  · rename_i h
    exact .closeAndStop reason hwritable (if_pos h).symm h rfl
  · rename_i h
    exact .closeAndStop reason hwritable (if_neg h).symm rfl rfl

/-- A writable session that breaks off queues the close frame and then the request to shut
down. -/
theorem breakOff_of_writable (session : Session) (reason : CloseReason)
    (h : session.state.isWritable) : session.breakOff reason =
      ({ session with state := .closing }.putClose reason).queueShutdown := by
  cases hstate : session.state with
  | handshakeDone | opened => simp [breakOff, putClose, hstate, SessionState.isWritable]
  | closing | closed => simp [hstate, SessionState.isWritable] at h

/-- A writable session answers a close frame in the same way, with the code alone. -/
theorem acknowledgeClose_of_writable (session : Session) (reason : CloseReason)
    (h : session.state.isWritable) : session.acknowledgeClose reason =
      ({ session with state := .closing }.putClose (CloseReason.of reason.code "")).queueShutdown
    := by
  cases hstate : session.state with
  | handshakeDone | opened => simp [acknowledgeClose, hstate]
  | closing | closed => simp [hstate, SessionState.isWritable] at h

/-- Breaking off closes a session that is writable, and stops the writer of one that is
closing. -/
theorem breakOff_turn (session : Session) (reason : CloseReason) :
    session.Turn (session.breakOff reason) := by
  cases hstate : session.state with
  | handshakeDone | opened =>
    have hwritable : session.state.isWritable = true := by simp [hstate, SessionState.isWritable]
    rw [session.breakOff_of_writable reason hwritable]
    exact session.closeAndStop_turn reason hwritable
  | closing =>
    have h : session.breakOff reason = { session with state := .closing }.queueShutdown := by
      simp [breakOff, hstate, SessionState.isWritable]
    rw [h]
    exact session.queueShutdown_turn .closing (.inr ⟨hstate, rfl⟩)
  | closed =>
    have h : session.breakOff reason = session := by
      simp [breakOff, hstate, SessionState.isWritable]
    rw [h]
    exact .refl session

/-- A message is cut into data frames. -/
theorem opcode_ne_close_of_mem_fragments (message : Message) (limit : Nat) (frame : Frame)
    (h : frame ∈ message.fragments limit) : frame.opcode ≠ .close := by
  have hdata := (Assembler.of_mem_fragments message limit frame h).2.1
  intro hclose
  rw [hclose] at hdata
  cases hdata

/-- A call of the application. -/
theorem call_turn (session : Session) (call : Call) : session.Turn (session.call call).2 := by
  cases call with
  | send message =>
    exact session.offer_turn _ (opcode_ne_close_of_mem_fragments message session.frameLimit)
  | ping =>
    show session.Turn (session.sendControl (Frame.ping [])).2
    unfold sendControl
    -- The check of the payload never fails for an empty ping, but it is there.
    split
    · exact .refl session
    · exact session.offer_turn _ (by simp [Frame.ping, Frame.ofPayload])
  | close code text =>
    show session.Turn (session.close code text)
    unfold close
    split
    · exact .refl session
    · rename_i h
      exact .close (CloseReason.of code text) (by simpa using h) rfl rfl rfl

/-- A sweep sends a ping. -/
theorem keepalive_turn (session : Session) (payload : Bytes) :
    session.Turn (session.keepalive payload).2 := by
  unfold keepalive
  -- A session that is writable but not announced yet gets no keepalive.
  split
  · exact .refl session
  · rename_i hstate
    cases hpush : session.outbox.push [Frame.ping payload] with
    | error refusal => exact .refl session
    | ok outbox =>
      obtain ⟨hattached, hroom, rfl⟩ := (Outbox.push_eq_ok_iff _ _ _).mp hpush
      have hopened : session.state = .opened := by simpa using hstate
      exact .accept [Frame.ping payload] (by simp [Frame.ping, Frame.ofPayload])
        (by simp [hopened, SessionState.isWritable]) hattached hroom rfl rfl rfl

/-- A close frame of the peer is answered. -/
theorem acknowledgeClose_turn (session : Session) (reason : CloseReason) :
    session.Turn (session.acknowledgeClose reason) := by
  cases hstate : session.state with
  | handshakeDone | opened =>
    have hwritable : session.state.isWritable = true := by simp [hstate, SessionState.isWritable]
    rw [session.acknowledgeClose_of_writable reason hwritable]
    exact session.closeAndStop_turn _ hwritable
  | closing =>
    simp only [acknowledgeClose, hstate]
    have h := session.queueShutdown_turn .closing (.inr ⟨hstate, rfl⟩)
    rwa [← hstate] at h
  | closed =>
    simp only [acknowledgeClose, hstate]
    exact .refl session

/-- Whatever is done to a session, its queue and its state change in one of seven ways. -/
theorem after_turn (session : Session) (operation : Operation) :
    session.Turn (session.after operation) := by
  cases operation with
  | announce =>
    show session.Turn session.announce
    unfold announce
    split
    · rename_i h
      exact .rest rfl rfl (.inr ⟨h, rfl⟩)
    · exact .refl session
  | call call => exact session.call_turn call
  | keepalive payload => exact session.keepalive_turn payload
  | recordInbound time data => exact .rest rfl rfl (.inl rfl)
  | answerPing payload =>
    exact session.offer_turn _ (by simp [Frame.pong, Frame.ofPayload])
  | acknowledgeClose reason => exact session.acknowledgeClose_turn reason
  | breakOff reason => exact session.breakOff_turn reason
  | forceClose reason =>
    show session.Turn (session.forceClose reason)
    unfold forceClose
    split
    · exact .refl session
    · -- The two other fields that a forced close sets play no part in the queue.
      cases session.breakOff_turn reason with
      | rest outbox flag state => exact .rest outbox flag state
      | accept frames plain writable attached room outbox flag state =>
        exact .accept frames plain writable attached room outbox flag state
      | close reason writable outbox flag state => exact .close reason writable outbox flag state
      | closeAndStop reason writable outbox flag state =>
        exact .closeAndStop reason writable outbox flag state
      | stop outbox flag state => exact .stop outbox flag state
      | take item waiting limit attached flag state =>
        exact .take item waiting limit attached flag state
      | detach outbox flag state => exact .detach outbox flag state
  | markClosed => exact session.queueShutdown_turn .closed (.inl rfl)
  | cancel => exact .rest rfl rfl (.inl rfl)
  | take =>
    show session.Turn { session with
      outbox := (session.outbox.take?.map (·.2)).getD session.outbox }
    -- If nothing waits, there is nothing to take and nothing happens.
    cases hwaiting : session.outbox.waiting with
    | nil =>
      simp only [Outbox.take?, hwaiting]
      exact .refl session
    | cons item waiting =>
      simp only [Outbox.take?, hwaiting]
      exact .take item hwaiting rfl rfl rfl rfl
  | detach => exact .detach rfl rfl rfl

end Session

end SocketGate
