import SocketGate.Proofs.Channel.Inbound
import SocketGate.Proofs.Session.Sending

/-!
# `SocketGate.Proofs.Channel.Pong`: pings of the peer and their answers

A ping is answered by a pong with its payload, if the queue takes one more frame at that moment.
Nothing else puts a pong into the queue. So the pongs are the answers to some of the pings, in
their order, and `Channel.pinged` says to which: it lists the pings that are read, each with
whether the session can answer it then.

* `Session.answerPing_eq`: when a ping is answered, and what that does to the session.
* `Session.pongs_added`: whatever else is done to a session queues no pong.
* `Channel.pongs_added`: the pongs that one action of a channel queues.
* `Channel.pongs_of_actions`: the pongs of any run, and what each ping does.
-/

set_option autoImplicit false

namespace SocketGate

/-- The payload of a frame with this opcode. -/
def Frame.payloadOf? (opcode : Opcode) (frame : Frame) : Option Bytes :=
  if frame.opcode = opcode then some frame.payload else none

/-- The payloads of the pongs among some items, first one first. -/
def Outbound.pongs (items : List Outbound) : List Bytes :=
  (Outbound.frames items).filterMap (Frame.payloadOf? .pong)

namespace Outbound

@[simp] theorem pongs_nil : pongs [] = [] := rfl

theorem pongs_append (items items' : List Outbound) :
    pongs (items ++ items') = pongs items ++ pongs items' := by
  rw [pongs, frames_append, List.filterMap_append]
  rfl

/-- There are no pongs where no frame is one. -/
theorem pongs_eq_nil {items : List Outbound}
    (h : ∀ frame, .frame frame ∈ items → frame.opcode ≠ .pong) : pongs items = [] := by
  refine List.filterMap_eq_nil_iff.mpr fun frame hframe => ?_
  exact if_neg (h frame ((mem_frames_iff items frame).mp hframe))

end Outbound

namespace Session

/-- Whether a ping that comes in now is answered. -/
def canAnswer (session : Session) : Bool :=
  session.state.isWritable && session.outbox.attached &&
    session.outbox.waiting.length < session.outbox.limit

theorem canAnswer_iff (session : Session) :
    session.canAnswer = true ↔
      (session.state = .handshakeDone ∨ session.state = .opened) ∧
        session.outbox.attached = true ∧
        session.outbox.waiting.length < session.outbox.limit := by
  simp [canAnswer, session.state.isWritable_iff, and_assoc]

/-- The items that the answer to a ping consists of: a pong, or nothing. -/
def answer (session : Session) (payload : Bytes) : List Outbound :=
  if session.canAnswer then [.frame (Frame.pong payload)] else []

/-- The answer to a ping goes behind everything that waits, and nothing else changes. -/
theorem answerPing_eq (session : Session) (payload : Bytes) :
    session.answerPing payload =
      { session with outbox := session.outbox.append (session.answer payload) } := by
  have hoffered := session.offer_offered [Frame.pong payload]
  have hone : session.canAnswer = true ↔ (session.offer [Frame.pong payload]).1 = .ok () := by
    rw [canAnswer_iff, hoffered.accepted_iff]
    rfl
  unfold answer answerPing
  split
  · rename_i h
    exact hoffered.queued (hone.mp h)
  · rename_i h
    rw [Outbox.append_nil]
    exact hoffered.unchanged (mt hone.mpr h)

theorem pongs_answer (session : Session) (payload : Bytes) :
    Outbound.pongs (session.answer payload) = if session.canAnswer then [payload] else [] := by
  unfold answer
  split <;> rfl

/-- Frames that are no pongs are offered. -/
theorem pongs_offer (session : Session) (frames : List Frame)
    (hother : ∀ frame ∈ frames, frame.opcode ≠ .pong) :
    Outbound.pongs (session.outbox.added (session.offer frames).2.outbox) = [] := by
  obtain ⟨refusal, h⟩ | ⟨-, -, -, h⟩ := session.offer_cases frames
  · rw [h, Outbox.added_self]
    rfl
  · rw [h, Outbox.added_append]
    refine Outbound.pongs_eq_nil fun frame hframe => hother frame ?_
    simpa using hframe

/-- Where the closing handshake has begun, nothing but a close frame or the request to shut down
was queued. -/
theorem Turn.pongs {session next : Session} (h : session.Turn next)
    (hnext : next.state.isWritable = false) :
    Outbound.pongs (session.outbox.added next.outbox) = [] := by
  refine Outbound.pongs_eq_nil fun frame hframe => ?_
  obtain hstop | ⟨-, reason, hclose⟩ := h.mem_added hnext _ hframe
  · cases hstop
  · cases hclose
    simp [Frame.close, Frame.ofPayload]

/-- Whether an operation begins the closing handshake or goes on with it. -/
def Operation.isClosing : Operation → Bool
  | .call (.close ..) | .acknowledgeClose _ | .breakOff _ | .forceClose _ | .markClosed => true
  | _ => false

theorem isWritable_breakOff (session : Session) (reason : CloseReason) :
    (session.breakOff reason).state.isWritable = false := by
  unfold breakOff
  cases hstate : session.state <;> simp [hstate, SessionState.isWritable, putClose]

theorem isWritable_after_of_isClosing (session : Session) (operation : Operation)
    (h : operation.isClosing) : (session.after operation).state.isWritable = false := by
  cases operation with
  | call request =>
    cases request with
    | close code text =>
      show (session.close code text).state.isWritable = false
      unfold close
      split
      · rename_i hclosing
        simpa using hclosing
      · rfl
    | _ => cases h
  | acknowledgeClose reason =>
    show (session.acknowledgeClose reason).state.isWritable = false
    unfold acknowledgeClose
    split <;> simp_all [putClose, SessionState.isWritable]
  | breakOff reason => exact session.isWritable_breakOff reason
  | forceClose reason =>
    show (session.forceClose reason).state.isWritable = false
    unfold forceClose
    split
    · rename_i hclosed
      rw [hclosed]
      rfl
    · exact session.isWritable_breakOff reason
  | markClosed =>
    show ({ session with state := .closed } : Session).queueShutdown.state.isWritable = false
    rw [state_queueShutdown]
    rfl
  | _ => cases h

/-- Whether an operation is the answer to a ping. -/
def Operation.isAnswer : Operation → Bool
  | .answerPing _ => true
  | _ => false

/-- Only the answer to a ping queues a pong. -/
theorem pongs_added (session : Session) (operation : Operation)
    (hother : operation.isAnswer = false) :
    Outbound.pongs (session.outbox.added (session.after operation).outbox) = [] := by
  have hrest {next : Session} (h : next.outbox = session.outbox) :
      Outbound.pongs (session.outbox.added next.outbox) = [] := by
    rw [h, Outbox.added_self]
    rfl
  have hclosing (h : operation.isClosing) :=
    (session.after_turn operation).pongs (session.isWritable_after_of_isClosing operation h)
  have hwriters (h : operation.isWriters) :
      Outbound.pongs (session.outbox.added (session.run [operation]).outbox) = [] := by
    rw [session.added_of_writers [operation] (by simpa using h)]
    rfl
  cases operation with
  | announce =>
    refine hrest ?_
    show session.announce.outbox = _
    unfold announce
    split <;> rfl
  | recordInbound => exact hrest rfl
  | call request =>
    cases request with
    | send message =>
      refine session.pongs_offer _ fun frame hframe hpong => ?_
      have hdata := (Assembler.of_mem_fragments message session.frameLimit frame hframe).2.1
      rw [hpong] at hdata
      cases hdata
    | ping => exact session.pongs_offer [Frame.ping []] (by simp [Frame.ping, Frame.ofPayload])
    | close code text => exact hclosing rfl
  | keepalive payload =>
    show Outbound.pongs (session.outbox.added (session.keepalive payload).2.outbox) = []
    unfold keepalive
    split
    · exact hrest rfl
    · split
      · exact hrest rfl
      · rename_i outbox hpush
        obtain ⟨-, -, rfl⟩ := (Outbox.push_eq_ok_iff _ _ _).mp hpush
        rw [Outbox.added_append]
        rfl
  | answerPing payload => cases hother
  | acknowledgeClose | breakOff | forceClose | markClosed => exact hclosing rfl
  | take | detach | cancel => exact hwriters rfl

/-- A session that keeps the discipline of its queue leaves a ping unanswered in one of these
cases. The queue is full then, but not beyond its limit. -/
theorem unanswered_iff {limit : Nat} {session : Session} {ledger : Ledger}
    (h : Disciplined limit session ledger) :
    session.canAnswer = false ↔ session.state = .closing ∨ session.state = .closed ∨
      session.outbox.attached = false ∨ session.outbox.waiting.length = limit := by
  have hlimit := h.holds.limit_eq
  unfold canAnswer
  cases hstate : session.state with
  | closing | closed => simp [SessionState.isWritable]
  | handshakeDone | opened =>
    have hfits := h.length_of_writable (by simp [hstate, SessionState.isWritable])
    have hfull : session.outbox.limit ≤ session.outbox.waiting.length ↔
        session.outbox.waiting.length = limit := by omega
    cases session.outbox.attached <;> simp [SessionState.isWritable, hfull]

end Session

namespace Channel

/-! ### What one action queues -/

/-- The payload of the ping that the reader reads in an action. -/
def ping? (channel : Channel) (action : Action) : Option Bytes :=
  (channel.frame? action).bind (Frame.payloadOf? .ping)

/-- The pings that are read during some actions, first one first, each with whether the session
can answer it at that moment. -/
def pinged (channel : Channel) : List Action → List (Bytes × Bool)
  | [] => []
  | action :: actions =>
    ((channel.ping? action).map fun payload => (payload, channel.session.canAnswer)).toList ++
      (channel.after action).pinged actions

/-- What becomes of the pongs when a frame has come in. -/
theorem pongs_receive (channel : Channel) (time : Nat) (frame : Frame) :
    Outbound.pongs (channel.session.outbox.added
        (channel.receive time frame).1.session.outbox) =
      ((frame.payloadOf? .ping).filter fun _ => channel.session.canAnswer).toList := by
  -- The frame is recorded first, and that leaves the queue alone.
  have hrecorded (data : Bool) (operation : Session.Operation)
      (hother : operation.isAnswer = false) :
      Outbound.pongs (channel.session.outbox.added
        ((channel.session.recordInbound time data).after operation).outbox) = [] :=
    (channel.session.recordInbound time data).pongs_added operation hother
  have hrest : Outbound.pongs (channel.session.outbox.added channel.session.outbox) = [] := by
    rw [Outbox.added_self]
    rfl
  have hdata : Outbound.pongs (channel.session.outbox.added
      (channel.receiveData time frame).1.session.outbox) = [] := by
    unfold receiveData
    dsimp only
    split
    · exact hrest
    · split
      · exact hrecorded true (.breakOff _) rfl
      · exact hrest
  obtain ⟨fin, opcode, mask, payload⟩ := frame
  cases opcode with
  | ping =>
    have hanswer := (channel.session.recordInbound time false).answerPing_eq payload
    show Outbound.pongs (channel.session.outbox.added
      ((channel.session.recordInbound time false).answerPing payload).outbox) = _
    rw [hanswer]
    show Outbound.pongs (channel.session.outbox.added
      (channel.session.outbox.append (channel.session.answer payload))) = _
    rw [Outbox.added_append, Session.pongs_answer]
    cases hcan : channel.session.canAnswer <;> rfl
  | pong => exact hrest
  | close =>
    show Outbound.pongs (channel.session.outbox.added
      (channel.receiveClose time payload).1.session.outbox) = []
    unfold receiveClose
    split
    · exact channel.session.pongs_added (.breakOff _) rfl
    · exact hrecorded false (.acknowledgeClose _) rfl
  | text | binary | continuation => exact hdata

/-- An action queues a pong if it is the answer to a ping that is read in it. -/
theorem pongs_added (channel : Channel) (action : Action) :
    Outbound.pongs (channel.session.outbox.added (channel.after action).session.outbox) =
      ((channel.ping? action).filter fun _ => channel.session.canAnswer).toList := by
  have hrest {next : Channel} (h : next.session.outbox = channel.session.outbox) :
      Outbound.pongs (channel.session.outbox.added next.session.outbox) = [] := by
    rw [h, Outbox.added_self]
    rfl
  cases action with
  | peer step => exact hrest rfl
  | announce => exact channel.session.pongs_added .announce rfl
  | start =>
    refine hrest ?_
    show channel.start.session.outbox = _
    unfold start
    split <;> rfl
  | call request => exact channel.session.pongs_added (.call request) rfl
  | keepalive number => exact channel.session.pongs_added (.keepalive _) rfl
  | expire => exact channel.session.pongs_added (.forceClose _) rfl
  | read now wakeup =>
    obtain ⟨frame, hframe, hincoming, houtcome⟩ | ⟨hframe, hless⟩ :=
      channel.after_read_cases now wakeup
    · rw [ping?, hframe, after, houtcome]
      exact channel.fetch.pongs_receive now.time frame
    · rw [ping?, hframe]
      generalize channel.after (.read now wakeup) = next at hless ⊢
      cases hless with
      | rest | exhausted => exact hrest rfl
      | violation => exact channel.session.pongs_added (.breakOff _) rfl
      | drain => exact channel.session.pongs_added .markClosed rfl
      | abandon => exact channel.session.pongs_added .detach rfl
  | write now =>
    cases hwrite : channel.write now with
    | none =>
      refine hrest ?_
      simp only [after, outcome, hwrite, Option.getD_none]
    | some next =>
      obtain ⟨operations, hwriters, hsession⟩ := (write_turn hwrite).exists_writers
      have hnext : channel.after (.write now) = next := by
        simp only [after, outcome, hwrite, Option.getD_some]
      rw [hnext, hsession, channel.session.added_of_writers operations hwriters]
      rfl

/-! ### The pongs of a run -/

/-- The pongs of a run are the answers to the pings that could be answered. -/
theorem pongs_enqueued (channel : Channel) (actions : List Action) :
    Outbound.pongs (channel.enqueued actions) =
      ((channel.pinged actions).filter (·.2)).map (·.1) := by
  induction actions generalizing channel with
  | nil => rfl
  | cons action actions ih =>
    rw [enqueued, pinged, Outbound.pongs_append, List.filter_append, List.map_append, ih,
      channel.pongs_added]
    congr 1
    cases channel.ping? action <;> cases channel.session.canAnswer <;> rfl

theorem map_pinged (channel : Channel) (actions : List Action) :
    (channel.pinged actions).map (·.1) =
      (channel.frames actions).filterMap (Frame.payloadOf? .ping) := by
  induction actions generalizing channel with
  | nil => rfl
  | cons action actions ih =>
    rw [pinged, frames, List.map_append, List.filterMap_append, ih]
    congr 1
    unfold ping?
    cases hframe : channel.frame? action with
    | none => rfl
    | some frame => cases hping : frame.payloadOf? .ping <;> simp [hping]

/-! ### What one ping does -/

/-- What a ping with this payload does to a channel where at most `limit` frames wait. -/
structure Pinged (limit : Nat) (channel next : Channel) (payload : Bytes) : Prop where
  /-- The pong stands behind everything that was queued before, and nothing else changes in the
  queue. -/
  outbox : next.session.outbox = channel.session.outbox.append
    (if channel.session.canAnswer then [.frame (Frame.pong payload)] else [])
  unanswered_iff : channel.session.canAnswer = false ↔
    channel.session.state = .closing ∨ channel.session.state = .closed ∨
      channel.session.outbox.attached = false ∨ channel.session.outbox.waiting.length = limit
  missedPings : next.session.missedPings = 0
  idle : ∀ time, next.session.idle time = channel.session.idle time
  state : next.session.state = channel.session.state
  /-- A message that has been begun goes on after the ping. -/
  assembler : next.assembler = channel.assembler

/-- The reader reads a ping. -/
theorem pinged_read {limit : Nat} {channel : Channel} {ledger : Ledger}
    (h : Session.Disciplined limit channel.session ledger) {now : Moment} {wakeup : Wakeup}
    {payload : Bytes} (hping : channel.ping? (.read now wakeup) = some payload) :
    Pinged limit channel (channel.after (.read now wakeup)) payload := by
  obtain ⟨frame, hframe, -, houtcome⟩ | ⟨hframe, -⟩ := channel.after_read_cases now wakeup
  · obtain ⟨hopcode, rfl⟩ : frame.opcode = .ping ∧ frame.payload = payload := by
      simpa [ping?, hframe, Frame.payloadOf?] using hping
    have hnext : channel.after (.read now wakeup) =
        { channel.fetch with
          session := (channel.session.recordInbound now.time false).answerPing
            frame.payload } := by
      rw [after, houtcome]
      simp only [receive, hopcode]
      rfl
    rw [hnext, Session.answerPing_eq]
    exact {
      outbox := rfl
      unanswered_iff := Session.unanswered_iff h
      missedPings := rfl
      idle := fun _ => rfl
      state := rfl
      assembler := rfl }
  · simp [ping?, hframe] at hping

/-- Whatever happens to a channel, it answers pings in order, at most once, and with their own
payload. -/
theorem pongs_of_actions (config : Config) (transport : Transport) (id : SessionId)
    (path : String) (now : Nat) (actions : List Action) :
    let start := ofTransport transport id path config.limits now
    let received := (start.frames actions).filterMap (Frame.payloadOf? .ping)
    let pongs := Outbound.pongs (start.enqueued actions)
    start.frames actions <+: (Frame.readAll .server config.maxFrameSize.toNat
      (transport.source.bytes ++ arrived actions)).1 ∧
    (start.pinged actions).map (·.1) = received ∧
    pongs = ((start.pinged actions).filter (·.2)).map (·.1) ∧ pongs.Sublist received ∧
    ∀ (before : List Action) (action : Action),
      let channel := start.run before
      ∀ payload ∈ channel.ping? action,
        Pinged config.maxQueuedFrames.toNat channel (channel.after action) payload := by
  intro start received pongs
  have hpongs : pongs = ((start.pinged actions).filter (·.2)).map (·.1) :=
    start.pongs_enqueued actions
  have hreceived : (start.pinged actions).map (·.1) = received := start.map_pinged actions
  refine ⟨(readOf_run transport id path config.limits now actions).isPrefix, hreceived, hpongs,
    ?_, ?_⟩
  · rw [hpongs, ← hreceived]
    exact List.filter_sublist.map _
  · intro before action channel payload hping
    obtain ⟨ledger, hdisciplined⟩ :=
      exists_disciplined transport id path config.limits now before
    cases action with
    | read now wakeup => exact pinged_read hdisciplined hping
    | _ => cases hping

/-- Three pings come in while one pong fits beside the message that waits. -/
example :
    let transport : Transport := { source := { bytes :=
      [0x89, 0x81, 0, 0, 0, 0, 1, 0x89, 0x81, 0, 0, 0, 0, 2, 0x89, 0x81, 0, 0, 0, 0, 3] } }
    let start := ofTransport transport ⟨0, 0⟩ "/" { maxQueuedFrames := 2 : Config }.limits 0
    start.pinged [.start, .call (.send (.text "a")), .read ⟨0, 0⟩ .inbound, .read ⟨0, 0⟩ .inbound,
      .write ⟨0, 0⟩, .read ⟨0, 0⟩ .inbound] = [([1], true), ([2], false), ([3], true)] := by
  decide

end Channel

end SocketGate
