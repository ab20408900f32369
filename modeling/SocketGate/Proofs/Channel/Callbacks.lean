import SocketGate.Proofs.Channel.History

/-!
# `SocketGate.Proofs.Channel.Callbacks`: what a channel reports, and when

A channel reports messages, then at most one failure, then its close. `Reported` says which
part of this a channel has reported, by what its reader is doing. `Protocol` adds what is
true of the session: messages are reported while it is open, it is closed from the end of
the loop on, and the writer has ended or was stopped when the close is reported.

* `Channel.Protocol.run`: the invariant is kept, whatever happens to a channel.
* `Channel.finished_run`: after the close nothing is reported and nothing is sent.
-/

set_option autoImplicit false

namespace SocketGate

/-- Whether the writer does nothing any more. -/
def Writer.isOver : Writer → Bool
  | .ended _ | .aborted => true
  | .idle | .sending .. | .awaitingShutdown .. | .finishing => false

/-- Whether the reader has left its loop and marked the session closed. -/
def Reader.isPastLoop : Reader → Bool
  | .draining .. | .finished => true
  | .created | .reading | .leaving _ => false

namespace Channel

/-- What has been reported when the reader has come so far. -/
inductive Reported : Reader → List Event → Prop where
  /-- Nothing is reported before the reader is started. -/
  | created : Reported .created []
  /-- Messages are reported while it reads. -/
  | reading (messages : List Message) : Reported .reading (messages.map .received)
  /-- When it leaves, a failure may come behind them. -/
  | leaving (reason : CloseReason) (messages : List Message) (failure : Option Failure) :
      Reported (.leaving reason) (messages.map .received ++ (failure.map .failed).toList)
  /-- Nothing more is reported while it waits for the writer. -/
  | draining (reason : CloseReason) (since : Moment) (deadline : Nat)
      (messages : List Message) (failure : Option Failure) :
      Reported (.draining reason since deadline)
        (messages.map .received ++ (failure.map .failed).toList)
  /-- The close is the last thing reported. -/
  | finished (messages : List Message) (failure : Option Failure) (reason : CloseReason) :
      Reported .finished
        (messages.map .received ++ (failure.map .failed).toList ++ [.closed reason])

/-- Whatever has been reported is the first part of messages, at most one failure, and the
close. -/
theorem Reported.isPrefix {reader : Reader} {events : List Event} (h : Reported reader events) :
    ∃ (messages : List Message) (failure : Option Failure) (reason : CloseReason),
      events <+: messages.map .received ++ (failure.map .failed).toList ++ [.closed reason] := by
  cases h with
  | created => exact ⟨[], none, .normal, List.nil_prefix⟩
  | reading messages =>
    refine ⟨messages, none, .normal, ?_⟩
    rw [List.append_assoc]
    exact List.prefix_append _ _
  | leaving reason messages failure => exact ⟨messages, failure, reason, List.prefix_append _ _⟩
  | draining reason _ _ messages failure =>
    exact ⟨messages, failure, reason, List.prefix_append _ _⟩
  | finished messages failure reason => exact ⟨messages, failure, reason, List.prefix_rfl⟩

/-- The close has been reported exactly when the reader has finished. -/
theorem Reported.closed_mem_iff {reader : Reader} {events : List Event}
    (h : Reported reader events) :
    (∃ reason, .closed reason ∈ events) ↔ reader = .finished := by
  cases h <;> simp

/-- A channel never reports that it is open: the application is told so before it reads. -/
theorem Reported.opened_not_mem {reader : Reader} {events : List Event}
    (h : Reported reader events) : .opened ∉ events := by
  cases h <;> simp

/-- A channel reports its close at most once. -/
theorem Reported.countP_isClosed_le {reader : Reader} {events : List Event}
    (h : Reported reader events) : events.countP Event.isClosed ≤ 1 := by
  -- A prefix has no more reports of a close than the whole, which has one.
  obtain ⟨messages, failure, reason, hprefix⟩ := h.isPrefix
  have hmessages : (messages.map Event.received).countP Event.isClosed = 0 := by
    rw [List.countP_eq_zero]
    intro event hevent
    obtain ⟨message, -, rfl⟩ := List.mem_map.mp hevent
    simp [Event.isClosed]
  have hfailure : (failure.map Event.failed).toList.countP Event.isClosed = 0 := by
    cases failure <;> rfl
  have hcount := hprefix.sublist.countP_le (p := Event.isClosed)
  rw [List.countP_append, List.countP_append, hmessages, hfailure] at hcount
  exact hcount

/-- A step of the reader goes on with what has been reported. -/
theorem Reported.turn {channel next : Channel} {event : Option Event} {events : List Event}
    (h : Reported channel.reader events) (hturn : ReadTurn channel next event) :
    Reported next.reader (events ++ event.toList) := by
  cases hturn with
  | goOn operations received serves before after opened =>
    rw [before] at h
    rw [after]
    cases h with
    | reading messages =>
      have hmap : (received.map Event.received).toList = received.toList.map .received := by
        cases received <;> rfl
      rw [hmap, ← List.map_append]
      exact .reading _
  | leave operations reason failure serves before after =>
    rw [before] at h
    rw [after]
    cases h with
    | reading messages => exact .leaving reason messages failure
  | drain reason left since deadline serves before after =>
    rw [before] at h
    rw [after, Option.toList_none, List.append_nil]
    cases h with
    | leaving _ messages failure => exact .draining left since deadline messages failure
  | finish reason since deadline result serves before after ended =>
    rw [before] at h
    rw [after]
    cases h with
    | draining _ _ _ messages failure => exact .finished messages failure reason
  | abandon reason since deadline before after session sent aborted =>
    rw [before] at h
    rw [after]
    cases h with
    | draining _ _ _ messages failure => exact .finished messages failure reason

/-- A channel that has reported these events, each with the state of its session then. -/
structure Protocol (channel : Channel) (events : List (SessionState × Event)) : Prop where
  reported : Reported channel.reader (events.map (·.2))
  /-- Messages are reported while the session is open. -/
  received : ∀ state message, (state, .received message) ∈ events → state = .opened
  /-- When the close is reported, the session is closed. -/
  ended : ∀ state reason, (state, .closed reason) ∈ events → state = .closed
  closed : channel.reader.isPastLoop → channel.session.state = .closed
  writerOver : channel.reader = .finished → channel.writer.isOver

/-- A channel that has just been made has reported nothing. -/
theorem protocol_ofTransport (transport : Transport) (id : SessionId) (path : String)
    (limits : Limits) (now : Nat) : Protocol (ofTransport transport id path limits now) [] where
  reported := .created
  received := by simp
  ended := by simp
  closed := nofun
  writerOver := nofun

/-! ### The actions that report nothing -/

/-- A step of the writer is possible only while it is not over. -/
theorem not_isOver_of_write {channel next : Channel} {now : Moment}
    (h : channel.write now = some next) : channel.writer.isOver = false := by
  unfold write at h
  split at h
  -- In the last two activities of a writer there is no step.
  case h_5 | h_6 => cases h
  all_goals
    rename_i hwriter
    rw [hwriter]
    rfl

/-- An action other than a step of the reader reports nothing and leaves the reader where it
is, unless it starts it. A writer that is over stays so. -/
theorem after_of_not_read (channel : Channel) (action : Action)
    (h : ∀ now wakeup, action ≠ .read now wakeup) :
    channel.told action = none ∧
      ((channel.after action).reader = channel.reader ∨
        channel.reader = .created ∧ (channel.after action).reader = .reading) ∧
      (channel.writer.isOver → (channel.after action).writer.isOver) := by
  cases action with
  | start =>
    refine ⟨rfl, ?_, ?_⟩
    · show channel.start.reader = _ ∨ _ ∧ channel.start.reader = _
      unfold start
      split
      · rename_i hcreated
        exact .inr ⟨hcreated, rfl⟩
      · exact .inl rfl
    · show _ → channel.start.writer.isOver
      unfold start
      split <;> exact id
  | read now wakeup => exact absurd rfl (h now wakeup)
  | write now =>
    refine ⟨rfl, ?_, ?_⟩
    · show ((channel.write now).getD channel).reader = _ ∨ _
      cases hwrite : channel.write now with
      | none => exact .inl rfl
      | some next =>
        have hkeeps : channel.KeepsReading next := by
          cases write_turn hwrite <;> assumption
        exact .inl hkeeps.reader
    · show _ → ((channel.write now).getD channel).writer.isOver
      intro hover
      cases hwrite : channel.write now with
      | none => exact hover
      | some next => simp [not_isOver_of_write hwrite] at hover
  | _ => exact ⟨rfl, .inl rfl, id⟩

/-! ### The invariant -/

namespace Protocol

variable {channel : Channel} {events : List (SessionState × Event)}

/-- What is reported comes behind what has been reported, in the state it is reported in. -/
theorem report {next : Channel} (h : Protocol channel events) (event : Option Event)
    (hreported : Reported next.reader (events.map (·.2) ++ event.toList))
    (hreceived : ∀ message, event = some (.received message) → next.session.state = .opened)
    (hended : ∀ reason, event = some (.closed reason) → next.session.state = .closed)
    (hclosed : next.reader.isPastLoop → next.session.state = .closed)
    (hover : next.reader = .finished → next.writer.isOver) :
    Protocol next (events ++ (event.map fun event => (next.session.state, event)).toList) where
  reported := by
    cases event with
    | none => simpa using hreported
    | some event => simpa using hreported
  received state message hmem := by
    rcases List.mem_append.mp hmem with hold | hnew
    · exact h.received state message hold
    · obtain ⟨event', hevent, heq⟩ := Option.map_eq_some_iff.mp (Option.mem_toList.mp hnew)
      obtain ⟨rfl, rfl⟩ := Prod.mk.inj heq
      exact hreceived message hevent
  ended state reason hmem := by
    rcases List.mem_append.mp hmem with hold | hnew
    · exact h.ended state reason hold
    · obtain ⟨event', hevent, heq⟩ := Option.map_eq_some_iff.mp (Option.mem_toList.mp hnew)
      obtain ⟨rfl, rfl⟩ := Prod.mk.inj heq
      exact hended reason hevent
  closed := hclosed
  writerOver := hover

/-- A step of the reader. -/
theorem readTurn {next : Channel} {event : Option Event} (h : Protocol channel events)
    (hturn : ReadTurn channel next event) :
    Protocol next (events ++ (event.map fun event => (next.session.state, event)).toList) := by
  have hreported := h.reported.turn hturn
  cases hturn with
  | goOn operations received serves before after opened =>
    refine h.report _ hreported (fun message hmessage => ?_) (fun reason hreason => ?_) ?_ ?_
    · cases received with
      | none => cases hmessage
      | some _ => exact opened rfl
    · cases received <;> cases hreason
    · rw [after]
      nofun
    · rw [after]
      nofun
  | leave operations reason failure serves before after =>
    refine h.report _ hreported (fun message hmessage => ?_) (fun reason hreason => ?_) ?_ ?_
    · cases failure <;> cases hmessage
    · cases failure <;> cases hreason
    · rw [after]
      nofun
    · rw [after]
      nofun
  | drain reason left since deadline serves before after =>
    -- Here the session is marked closed. From now on the invariant only has to be kept.
    refine h.report _ hreported nofun nofun (fun _ => ?_) ?_
    · rw [serves.performs.run_eq]
      exact Session.state_markClosed channel.session
    · rw [after]
      nofun
  | finish reason since deadline result serves before after ended =>
    have hclosed : next.session.state = .closed := by
      rw [serves.performs.run_eq]
      exact h.closed (by rw [before]; rfl)
    -- The writer has ended by itself.
    refine h.report _ hreported nofun (fun _ _ => hclosed) (fun _ => hclosed) fun _ => ?_
    rw [serves.writer, ended]
    rfl
  | abandon reason since deadline before after session sent aborted =>
    have hclosed : next.session.state = .closed := by
      rw [session]
      exact h.closed (by rw [before]; rfl)
    refine h.report _ hreported nofun (fun _ _ => hclosed) (fun _ => hclosed) fun _ => ?_
    rw [aborted]
    rfl

/-- Whatever happens to a channel, the invariant is kept with what is reported. -/
theorem after (h : Protocol channel events) (action : Action) (hsound : channel.decoder.Sound) :
    Protocol (channel.after action) (events ++ (channel.told action).toList) := by
  by_cases hread : ∃ now wakeup, action = .read now wakeup
  · obtain ⟨now, wakeup, rfl⟩ := hread
    unfold told Channel.after outcome
    cases hstep : channel.read now wakeup with
    | none => simpa [hstep] using h
    | some step => simpa [hstep] using h.readTurn (read_turn hstep hsound)
  · have hother : ∀ now wakeup, action ≠ .read now wakeup :=
      fun now wakeup heq => hread ⟨now, wakeup, heq⟩
    obtain ⟨htold, hreader, hover⟩ := channel.after_of_not_read action hother
    rw [htold, Option.toList_none, List.append_nil]
    have hclosed := channel.closed_run [action] hsound
    -- The reader is where it was, or it has just been started and nothing was reported before.
    rcases hreader with hsame | ⟨hcreated, hreading⟩
    · exact {
        reported := hsame ▸ h.reported
        received := h.received
        ended := h.ended
        closed := fun hpast => hclosed (h.closed (hsame ▸ hpast))
        writerOver := fun hfinished => hover (h.writerOver (hsame ▸ hfinished)) }
    · have hreported := h.reported
      rw [hcreated] at hreported
      exact {
        reported := by
          rw [hreading]
          generalize events.map (·.2) = list at hreported
          cases hreported
          exact .reading []
        received := h.received
        ended := h.ended
        closed := by
          rw [hreading]
          nofun
        writerOver := by
          rw [hreading]
          nofun }

/-- The invariant is kept by any actions. -/
theorem run (h : Protocol channel events) (actions : List Action)
    (hsound : channel.decoder.Sound) :
    Protocol (channel.run actions) (events ++ channel.events actions) := by
  induction actions generalizing channel events with
  | nil => simpa [Channel.run, Channel.events] using h
  | cons action actions ih =>
    rw [Channel.events, ← List.append_assoc]
    exact ih (h.after action hsound) (channel.sound_after action hsound)

end Protocol

/-! ### After the close -/

/-- A channel whose reader has finished and whose writer is over stays as it is, whatever
happens, but for what the peer does and what is noted in its session. Nothing is reported
and nothing is sent. -/
theorem finished_after (channel : Channel) (action : Action)
    (hfinished : channel.reader = .finished) (hover : channel.writer.isOver) :
    (channel.after action).reader = .finished ∧ (channel.after action).writer.isOver ∧
      channel.told action = none ∧
      (channel.after action).transport.sent = channel.transport.sent := by
  by_cases hread : ∃ now wakeup, action = .read now wakeup
  · obtain ⟨now, wakeup, rfl⟩ := hread
    -- A reader that has finished waits for nothing.
    have hnone : channel.read now wakeup = none := by
      unfold read
      rw [hfinished]
    simp only [told, after, outcome, hnone, Option.getD_none, hfinished, hover,
      Option.map_none, and_self]
  · have hother : ∀ now wakeup, action ≠ .read now wakeup :=
      fun now wakeup heq => hread ⟨now, wakeup, heq⟩
    obtain ⟨htold, hreader, hover'⟩ := channel.after_of_not_read action hother
    refine ⟨?_, hover' hover, htold, ?_⟩
    · rcases hreader with hsame | ⟨hcreated, -⟩
      · exact hsame.trans hfinished
      · simp [hfinished] at hcreated
    · cases action with
      | peer step => exact channel.sent_apply step
      | start =>
        show channel.start.transport.sent = _
        unfold start
        split <;> rfl
      | read now wakeup => exact absurd rfl (hother now wakeup)
      | write now =>
        show ((channel.write now).getD channel).transport.sent = _
        cases hwrite : channel.write now with
        | none => rfl
        | some next => simp [not_isOver_of_write hwrite] at hover
      | _ => rfl

/-- After the close nothing is reported and nothing is sent, whatever happens. -/
theorem finished_run (channel : Channel) (actions : List Action)
    (hfinished : channel.reader = .finished) (hover : channel.writer.isOver) :
    channel.events actions = [] ∧
      (channel.run actions).transport.sent = channel.transport.sent := by
  induction actions generalizing channel with
  | nil => exact ⟨rfl, rfl⟩
  | cons action actions ih =>
    obtain ⟨hfinished', hover', htold, hsent⟩ := channel.finished_after action hfinished hover
    obtain ⟨hevents, hrest⟩ := ih _ hfinished' hover'
    refine ⟨?_, hrest.trans hsent⟩
    rw [events, htold, hevents]
    rfl

/-- A session that is closed refuses every message and every ping, and is left as it is. -/
theorem call_of_closed (channel : Channel) (request : Call)
    (hclosed : channel.session.state = .closed)
    (hrequest : (∃ message, request = .send message) ∨ request = .ping) :
    channel.call request = (.error .sessionClosed, channel) := by
  have hoffer : ∀ frames,
      channel.session.offer frames = (.error .sessionClosed, channel.session) := by
    intro frames
    unfold Session.offer
    rw [hclosed]
    rfl
  rcases hrequest with ⟨message, rfl⟩ | rfl
  · simp only [call, Session.call, Session.send, hoffer]
  · have hshort : ¬ maxControlPayload < (Frame.ping []).payload.length := Nat.not_lt_zero _
    simp only [call, Session.call, Session.ping, Session.sendControl, hshort, if_false, hoffer]

end Channel

end SocketGate
