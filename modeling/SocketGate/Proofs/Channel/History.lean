import SocketGate.Proofs.Channel.Step
import SocketGate.Proofs.Session.Discipline

/-!
# `SocketGate.Proofs.Channel.History`: channels under any sequence of actions

`Channel.Action` lists everything that ever happens to a channel: steps of the peer, calls
of the application, the keepalive, and the steps of the reader and the writer. An action
that is not ready changes nothing, so a list of actions is a run, in any order and at any
times. Along it, `Channel.enqueued` collects what entered the outbox, `Channel.accepted`
the messages whose sending was not refused, and `Channel.events` what was reported, each
with the state of the session at that time.

* `Channel.after_turn`: an action queues by operations of the session, or it is a step of
  the writer, or it stops the writer.
* `Channel.exists_operations`: what a run does to the session, and what it queues and
  accepts, is done by operations of the session. So all that is known of sessions holds for
  the session of a channel.
* `Channel.rank_run`: the state of the session only moves forward.
-/

set_option autoImplicit false

namespace SocketGate

/-- Whether an event is the report of a close. -/
def Event.isClosed : Event → Bool
  | .closed _ => true
  | .opened | .received _ | .failed _ => false

namespace Channel

open Session (Operation)

/-! ### Actions and runs -/

/-- Something that happens to a channel. -/
inductive Action where
  /-- The peer or the network does something to the transport. -/
  | peer (step : PeerStep)
  /-- The session is announced. -/
  | announce
  /-- The reader is started. -/
  | start
  /-- The application calls the session. -/
  | call (request : Call)
  /-- The sweep with this number comes by and sends a ping. -/
  | keepalive (number : UInt64)
  /-- A sweep comes by and expires the session. -/
  | expire
  /-- The reader goes on. -/
  | read (now : Moment) (wakeup : Wakeup)
  /-- The writer goes on. -/
  | write (now : Moment)

/-- The channel with another session. -/
def withSession (channel : Channel) (session : Session) : Channel := { channel with session }

/-- What an action does, and what it reports. -/
def outcome (channel : Channel) : Action → Step
  | .peer step => (channel.apply step, none)
  | .announce => (channel.announce, none)
  | .start => (channel.start, none)
  | .call request => ((channel.call request).2, none)
  | .keepalive number =>
    (channel.withSession (channel.session.keepalive (Bytes.ofNatBE 8 number.toNat)).2, none)
  | .expire => (channel.withSession (channel.session.forceClose CloseReason.expired), none)
  | .read now wakeup => (channel.read now wakeup).getD (channel, none)
  | .write now => ((channel.write now).getD channel, none)

/-- The channel after an action. -/
def after (channel : Channel) (action : Action) : Channel := (channel.outcome action).1

/-- What an action reports, with the state of the session at that time. -/
def told (channel : Channel) (action : Action) : Option (SessionState × Event) :=
  (channel.outcome action).2.map fun event => ((channel.after action).session.state, event)

/-- The message that an action gets accepted, if it does. -/
def acceptedBy (channel : Channel) : Action → Option Message
  | .call (.send message) =>
    match (channel.call (.send message)).1 with
    | .ok () => some message
    | .error _ => none
  | _ => none

/-- The channel after some actions. -/
def run (channel : Channel) (actions : List Action) : Channel :=
  actions.foldl after channel

/-- Everything that entered the outbox during some actions, first item first. -/
def enqueued (channel : Channel) : List Action → List Outbound
  | [] => []
  | action :: actions =>
    channel.session.outbox.added (channel.after action).session.outbox ++
      (channel.after action).enqueued actions

/-- The messages that were accepted during some actions, first one first. -/
def accepted (channel : Channel) : List Action → List Message
  | [] => []
  | action :: actions =>
    (channel.acceptedBy action).toList ++ (channel.after action).accepted actions

/-- Everything that was reported during some actions, first thing first. -/
def events (channel : Channel) : List Action → List (SessionState × Event)
  | [] => []
  | action :: actions => (channel.told action).toList ++ (channel.after action).events actions

theorem run_append (channel : Channel) (before after : List Action) :
    channel.run (before ++ after) = (channel.run before).run after :=
  List.foldl_append

theorem events_append (channel : Channel) (before after : List Action) :
    channel.events (before ++ after) =
      channel.events before ++ (channel.run before).events after := by
  induction before generalizing channel with
  | nil => rfl
  | cons action before ih =>
    rw [List.cons_append, events, events, ih, List.append_assoc]
    rfl

/-! ### What an action can do -/

/-- An action that gets these messages accepted. -/
inductive Turn (channel next : Channel) : List Message → Prop where
  /-- Operations of the session queue items; the sending side is left alone. -/
  | perform (operations : List Operation)
      (performs : channel.session.Performs next.session operations)
      (writer : next.writer = channel.writer)
      (sent : next.transport.sent = channel.transport.sent) :
      Turn channel next (channel.session.accepted operations)
  /-- The writer goes on. -/
  | write (turn : WriteTurn channel next) : Turn channel next []
  /-- The writer is stopped. -/
  | abandon (session : next.session = channel.session.run [.detach])
      (sent : next.transport.sent = channel.transport.sent) (aborted : next.writer = .aborted) :
      Turn channel next []

/-- Nothing is done to the session, and nothing is sent. -/
theorem Turn.rest {channel next : Channel} (hsession : next.session = channel.session)
    (hwriter : next.writer = channel.writer)
    (hsent : next.transport.sent = channel.transport.sent) : Turn channel next [] :=
  .perform [] (hsession ▸ .refl channel.session) hwriter hsent

/-- One operation of the session, and nothing is sent. -/
theorem Turn.single {channel next : Channel} (operation : Operation) (hbrief : operation.Brief)
    (hwriters : operation.isWriters = false)
    (hsession : next.session = channel.session.after operation)
    (hwriter : next.writer = channel.writer)
    (hsent : next.transport.sent = channel.transport.sent) :
    Turn channel next (channel.session.acceptedBy operation).toList := by
  have hperforms := Session.Performs.single channel.session operation hbrief
    (fun h => by simp [h, Operation.isWriters] at hwriters)
    (fun h => by simp [h, Operation.isWriters] at hwriters)
  have hturn : Turn channel next (channel.session.accepted [operation]) :=
    .perform [operation] (hsession ▸ hperforms) hwriter hsent
  rwa [Session.accepted, Session.accepted, List.append_nil] at hturn

/-- A step of the reader. -/
theorem ReadTurn.turn {channel next : Channel} {event : Option Event}
    (h : ReadTurn channel next event) : Turn channel next [] := by
  have hserves : ∀ operations, channel.Serves next operations → Turn channel next [] := by
    intro operations hserves
    have hturn := Turn.perform operations hserves.performs hserves.writer hserves.sent
    rwa [hserves.silent] at hturn
  cases h with
  | goOn operations received serves before after opened => exact hserves operations serves
  | leave operations reason failure serves before after => exact hserves operations serves
  | drain reason left since deadline serves before after => exact hserves _ serves
  | finish reason since deadline result serves before after ended => exact hserves _ serves
  | abandon reason since deadline before after session sent aborted =>
    exact .abandon session sent aborted

/-- A channel takes a step of its peer without sending or queueing anything. -/
theorem sent_apply (channel : Channel) (step : PeerStep) :
    (channel.apply step).transport.sent = channel.transport.sent := by
  cases step <;> rfl

/-- A channel accepts a message exactly when its session does. -/
theorem acceptedBy_call (channel : Channel) (request : Call) :
    channel.acceptedBy (.call request) = channel.session.acceptedBy (.call request) := by
  cases request <;> rfl

/-- Whatever happens to a channel whose decoder is sound, it does so in one of three ways,
and gets those messages accepted that it is said to. -/
theorem after_turn (channel : Channel) (action : Action) (hsound : channel.decoder.Sound) :
    Turn channel (channel.after action) (channel.acceptedBy action).toList := by
  cases action with
  | peer step => exact .rest rfl rfl (channel.sent_apply step)
  | announce => exact .single .announce trivial rfl rfl rfl rfl
  | start =>
    show Turn channel channel.start []
    unfold start
    split <;> exact .rest rfl rfl rfl
  | call request =>
    rw [acceptedBy_call]
    exact .single (.call request) trivial rfl rfl rfl rfl
  | keepalive number =>
    -- The payload of a keepalive is the number of the sweep in eight bytes.
    have hshort : (Bytes.ofNatBE 8 number.toNat).length ≤ maxControlPayload := by
      rw [Bytes.length_ofNatBE]
      decide
    exact .single (.keepalive (Bytes.ofNatBE 8 number.toNat)) hshort rfl rfl rfl rfl
  | expire =>
    exact .single (.forceClose CloseReason.expired) (CloseReason.length_toPayload_of _ _)
      rfl rfl rfl rfl
  | read now wakeup =>
    show Turn channel ((channel.read now wakeup).getD (channel, none)).1 []
    cases hread : channel.read now wakeup with
    | none => exact .rest rfl rfl rfl
    | some step => exact (read_turn hread hsound).turn
  | write now =>
    show Turn channel ((channel.write now).getD channel) []
    cases hwrite : channel.write now with
    | none => exact .rest rfl rfl rfl
    | some next => exact .write (write_turn hwrite)

/-- The decoder of a channel stays sound, whatever happens. -/
theorem sound_after (channel : Channel) (action : Action) (hsound : channel.decoder.Sound) :
    (channel.after action).decoder.Sound := by
  cases action with
  | start =>
    show channel.start.decoder.Sound
    unfold start
    split <;> exact hsound
  | read now wakeup =>
    show ((channel.read now wakeup).getD (channel, none)).1.decoder.Sound
    cases hread : channel.read now wakeup with
    | none => exact hsound
    | some step => exact sound_read hread hsound
  | write now =>
    show ((channel.write now).getD channel).decoder.Sound
    cases hwrite : channel.write now with
    | none => exact hsound
    | some next =>
      have hkeeps : channel.KeepsReading next := by
        cases write_turn hwrite <;> assumption
      exact hkeeps.decoder ▸ hsound
  | _ => exact hsound

theorem sound_run (channel : Channel) (actions : List Action) (hsound : channel.decoder.Sound) :
    (channel.run actions).decoder.Sound := by
  induction actions generalizing channel with
  | nil => exact hsound
  | cons action actions ih => exact ih _ (channel.sound_after action hsound)

/-! ### The session of a channel -/

/-- What the writer does to the session is done by its own operations. -/
theorem WriteTurn.exists_writers {channel next : Channel} (h : WriteTurn channel next) :
    ∃ operations : List Operation, (∀ operation ∈ operations, operation.isWriters) ∧
      next.session = channel.session.run operations := by
  cases h with
  | take _ _ _ _ _ _ _ _ session => exact ⟨[.take], by simp [Operation.isWriters], session⟩
  | send _ _ _ _ _ session => exact ⟨[], by simp, session⟩
  | flush _ _ _ session => exact ⟨[], by simp, session⟩
  | retire operations writers _ session => exact ⟨operations, writers, session⟩

/-- What a turn does to the session is done by operations of the session. -/
theorem Turn.exists_operations {channel next : Channel} {messages : List Message}
    (h : Turn channel next messages) :
    ∃ operations : List Operation, (∀ operation ∈ operations, operation.Brief) ∧
      next.session = channel.session.run operations ∧
      channel.session.outbox.added next.session.outbox = channel.session.enqueued operations ∧
      messages = channel.session.accepted operations := by
  -- A step of the writer, or its end, is made of operations that queue and accept nothing.
  have hwriters : ∀ operations : List Operation,
      (∀ operation ∈ operations, operation.isWriters) →
      next.session = channel.session.run operations →
      (∀ operation ∈ operations, operation.Brief) ∧
        channel.session.outbox.added next.session.outbox = channel.session.enqueued operations ∧
        [] = channel.session.accepted operations := by
    intro operations hwriters hsession
    obtain ⟨-, henqueued, haccepted⟩ := channel.session.writers_run operations hwriters
    refine ⟨fun operation h => Operation.brief_of_isWriters (hwriters operation h), ?_,
      haccepted.symm⟩
    rw [hsession, henqueued, Session.added_of_writers _ _ hwriters]
  cases h with
  | perform operations performs writer sent =>
    exact ⟨operations, performs.brief, performs.run_eq, performs.added_eq, rfl⟩
  | write turn =>
    obtain ⟨operations, hall, hsession⟩ := turn.exists_writers
    obtain ⟨hbrief, hadded, haccepted⟩ := hwriters operations hall hsession
    exact ⟨operations, hbrief, hsession, hadded, haccepted⟩
  | abandon session =>
    obtain ⟨hbrief, hadded, haccepted⟩ :=
      hwriters [.detach] (by simp [Operation.isWriters]) session
    exact ⟨[.detach], hbrief, session, hadded, haccepted⟩

/-- What a run does to the session, and what it queues and accepts, is done by operations of
the session. -/
theorem exists_operations (channel : Channel) (actions : List Action)
    (hsound : channel.decoder.Sound) :
    ∃ operations : List Operation, (∀ operation ∈ operations, operation.Brief) ∧
      (channel.run actions).session = channel.session.run operations ∧
      channel.enqueued actions = channel.session.enqueued operations ∧
      channel.accepted actions = channel.session.accepted operations := by
  induction actions generalizing channel with
  | nil => exact ⟨[], by simp, rfl, rfl, rfl⟩
  | cons action actions ih =>
    obtain ⟨first, hbrief, hrun, henqueued, haccepted⟩ :=
      (channel.after_turn action hsound).exists_operations
    obtain ⟨rest, hbrief', hrun', henqueued', haccepted'⟩ :=
      ih _ (channel.sound_after action hsound)
    refine ⟨first ++ rest, ?_, ?_, ?_, ?_⟩
    · intro operation hoperation
      rcases List.mem_append.mp hoperation with h | h
      · exact hbrief operation h
      · exact hbrief' operation h
    · rw [Session.run_append, ← hrun]
      exact hrun'
    · rw [enqueued, henqueued, henqueued', hrun, Session.enqueued_append]
    · rw [accepted, haccepted, haccepted', hrun, Session.accepted_append]

/-- No action changes the id of the session. -/
theorem id_run (channel : Channel) (actions : List Action) (hsound : channel.decoder.Sound) :
    (channel.run actions).session.id = channel.session.id := by
  obtain ⟨operations, -, hrun, -, -⟩ := channel.exists_operations actions hsound
  rw [hrun, Session.id_run]

/-- The session of a channel never goes back to an earlier state. -/
theorem rank_run (channel : Channel) (actions : List Action) (hsound : channel.decoder.Sound) :
    channel.session.state.rank ≤ (channel.run actions).session.state.rank := by
  obtain ⟨operations, -, hrun, -, -⟩ := channel.exists_operations actions hsound
  rw [hrun]
  exact channel.session.rank_run operations

/-- A session that is closed stays closed. -/
theorem closed_run (channel : Channel) (actions : List Action) (hsound : channel.decoder.Sound)
    (hclosed : channel.session.state = .closed) :
    (channel.run actions).session.state = .closed := by
  -- No state has a higher rank.
  have hrank := channel.rank_run actions hsound
  rw [hclosed] at hrank
  revert hrank
  cases (channel.run actions).session.state <;> decide

end Channel

end SocketGate
