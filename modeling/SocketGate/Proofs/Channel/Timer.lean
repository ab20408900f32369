import SocketGate.Proofs.Channel.Course

/-!
# `SocketGate.Proofs.Channel.Timer`: what a closing channel waits for

A closing channel that can only wait (`Rests`) is in one of two situations. The writer has
written the close frame and its timer is set (`TimedBy`), or the writer is in the middle of a
frame that the peer does not take (`Stuck`). In the second one no timer is set.

* `Channel.timed_or_stuck`: the two situations.
* `Channel.finished_of_rests`: a channel whose timer is over and that can only wait has
  reported its close.
* `Channel.Stuck.eq_of_evolves`: nothing but its peer changes a channel that is stuck.
-/

set_option autoImplicit false

namespace SocketGate

/-- A session that is closing takes no call. -/
theorem Session.call_of_closing {session : Session} (h : session.state = .closing)
    (request : Call) : (session.call request).2 = session := by
  have hnot : session.state.isWritable = false := by rw [h]; rfl
  have hoffer (frames : List Frame) : (session.offer frames).2 = session := by
    simp [offer, hnot]
  cases request with
  | send message => exact hoffer _
  | ping =>
    show (session.sendControl (Frame.ping [])).2 = session
    unfold sendControl
    split
    · rfl
    · exact hoffer _
  | close code text => simp [Session.call, close, hnot]

/-- Once reading has to stop, it has to. -/
theorem Session.cancelled_after {session : Session} (h : session.cancelled)
    (operation : Operation) : (session.after operation).cancelled := by
  have hoffer (frames : List Frame) : (session.offer frames).2.cancelled := by
    obtain ⟨refusal, hrefused⟩ | ⟨-, -, -, hqueued⟩ := session.offer_cases frames
    · rw [hrefused]
      exact h
    · rw [hqueued]
      exact h
  have hstop {session : Session} (h : session.cancelled) : session.queueShutdown.cancelled := by
    unfold queueShutdown
    split <;> exact h
  cases operation with
  | announce =>
    show session.announce.cancelled
    unfold announce
    split <;> exact h
  | call request =>
    cases request with
    | send message => exact hoffer _
    | ping => exact hoffer _
    | close code text =>
      show (session.close code text).cancelled
      unfold close
      split <;> exact h
  | keepalive payload =>
    show (session.keepalive payload).2.cancelled
    unfold keepalive
    split
    · exact h
    · split <;> exact h
  | recordInbound time data => exact h
  | answerPing payload => exact hoffer _
  | acknowledgeClose reason =>
    show (session.acknowledgeClose reason).cancelled
    unfold acknowledgeClose
    split
    · exact hstop h
    · exact hstop h
    · exact hstop h
    · exact h
  | breakOff reason =>
    show (session.breakOff reason).cancelled
    unfold breakOff
    have hmiddle :
        (if session.state.isWritable then session.putClose reason else session).cancelled := by
      split <;> exact h
    generalize (if session.state.isWritable then session.putClose reason else session) = middle
      at hmiddle ⊢
    dsimp only
    split
    · exact hmiddle
    · exact hstop hmiddle
  | forceClose reason =>
    show (session.forceClose reason).cancelled
    unfold forceClose
    split
    · exact h
    · rfl
  | markClosed => exact hstop h
  | cancel => rfl
  | take => exact h
  | detach => exact h

theorem Session.cancelled_run {session : Session} (h : session.cancelled)
    (operations : List Operation) : (session.run operations).cancelled := by
  induction operations generalizing session with
  | nil => exact h
  | cons operation operations ih => exact ih (cancelled_after h operation)

namespace Channel

/-- An expired session is cancelled, unless it is closed already, and stays so. -/
theorem cancelled_run_expire (channel : Channel) (hsound : channel.decoder.Sound)
    (actions : List Action) :
    ((channel.after .expire).run actions).session.cancelled ∨
      ((channel.after .expire).run actions).session.state = .closed := by
  have hafter := channel.sound_after .expire hsound
  have hsession : (channel.after .expire).session =
      channel.session.forceClose CloseReason.expired := rfl
  unfold Session.forceClose at hsession
  split at hsession
  · rename_i hclosed
    exact .inr (closed_run _ actions hafter (hsession ▸ hclosed))
  · obtain ⟨operations, -, hrun, -⟩ := (channel.after .expire).exists_operations actions hafter
    exact .inl (hrun ▸ Session.cancelled_run (by rw [hsession]) operations)

/-! ### The timer of the writer -/

/-- A writer whose timer is set for a deadline, or that has come further than that. -/
inductive TimedBy (deadline : Nat) : Writer → Prop where
  | awaitingShutdown (since : Moment) : TimedBy deadline (.awaitingShutdown since deadline)
  | finishing : TimedBy deadline .finishing
  | ended (result : Except Failure Unit) : TimedBy deadline (.ended result)
  | aborted : TimedBy deadline .aborted

/-- The timer is not set anew. -/
theorem TimedBy.write {deadline : Nat} {channel next : Channel} {now : Moment}
    (h : TimedBy deadline channel.writer) (hwrite : channel.write now = some next) :
    TimedBy deadline next.writer := by
  cases writeStep_of_write hwrite with
  | take _ _ _ hwriter | refuse _ _ _ hwriter | flush _ hwriter | send _ _ _ _ hwriter
  | fail _ _ _ hwriter =>
    -- A writer that still has frames to send has not come that far.
    rw [hwriter] at h
    cases h
  | stop | expire => exact .finishing
  | drop => exact h
  | finish => exact .ended _

theorem TimedBy.after {deadline : Nat} {channel : Channel} (hsound : channel.decoder.Sound)
    (h : TimedBy deadline channel.writer) (action : Action) :
    TimedBy deadline (channel.after action).writer := by
  rcases channel.after_cases action with hsame | ⟨now, wakeup, event, -, hread⟩ |
    ⟨now, -, hwrite⟩ | ⟨hread, hwrite⟩
  · exact hsame.symm ▸ h
  · cases read_turn hread hsound with
    | goOn _ _ serves | leave _ _ _ serves | drain _ _ _ _ serves | finish _ _ _ _ serves =>
      exact serves.writer ▸ h
    | abandon _ _ _ _ _ _ _ aborted => exact aborted ▸ .aborted
  · exact h.write hwrite
  · obtain ⟨-, hwriter, -⟩ := channel.performs_after action hread hwrite
    exact hwriter ▸ h

theorem TimedBy.evolves {time deadline : Nat} {touched : Prop} {channel next : Channel}
    (hsound : channel.decoder.Sound) (h : TimedBy deadline channel.writer)
    (hevolves : Evolves time touched channel next) :
    next.decoder.Sound ∧ TimedBy deadline next.writer := by
  induction hevolves with
  | refl => exact ⟨hsound, h⟩
  | step action _ _ _ ih => exact ⟨sound_after _ action ih.1, .after ih.1 ih.2 action⟩

/-! ### Channels that can only wait -/

/-- Neither the reader nor the writer can go on. -/
structure Rests (channel : Channel) (now : Moment) : Prop where
  read : ∀ wakeup, channel.read now wakeup = none
  write : channel.write now = none

/-- The session is closing and the writer is in the middle of a frame that the peer does not
take. There is nothing that the reader could read. -/
structure Stuck (channel : Channel) : Prop where
  closing : channel.session.state = .closing
  reading : channel.reader = .reading
  uncancelled : channel.session.cancelled = false
  incoming : channel.incoming = .ok none
  unfinished : channel.transport.source.ending = .unfinished
  sending : ∃ unsent isClose, channel.writer = .sending unsent isClose ∧ unsent.isEmpty = false
  blocked : channel.transport.isBlocked

variable {timeout : Nat} {now : Moment} {channel : Channel}

namespace Rests

/-- A reader that can only wait has not just left its loop. -/
theorem reader_ne_leaving (h : channel.Rests now) (reason : CloseReason) :
    channel.reader ≠ .leaving reason := by
  intro hleaving
  have hnone := h.read .wrapUp
  simp [Channel.read, hleaving] at hnone

/-- Nothing that a reader in its loop waits for is there: reading was not cancelled, nothing has
come in, and the writer has not ended. -/
theorem silent (h : channel.Rests now) (hreading : channel.reader = .reading) :
    channel.session.cancelled = false ∧ channel.incoming = .ok none ∧
      channel.transport.source.ending = .unfinished ∧
      ∀ result, channel.writer ≠ .ended result := by
  refine ⟨?_, ?_⟩
  · have hnone := h.read .cancelled
    simp only [Channel.read, hreading] at hnone
    split at hnone
    · cases hnone
    · rename_i hnot
      exact Bool.eq_false_iff.mpr hnot
  have hsource := h.read .inbound
  simp only [Channel.read, hreading] at hsource
  have hincoming : channel.incoming = .ok none := by
    cases hincoming : channel.incoming with
    | error violation =>
      rw [readSource_of_violation hincoming] at hsource
      cases hsource
    | ok found =>
      cases found with
      | none => rfl
      | some frame =>
        rw [readSource_of_frame hincoming] at hsource
        cases hsource
  refine ⟨hincoming, ?_, fun result hended => ?_⟩
  · rcases readSource_of_none hincoming now.time with ⟨hopen, -⟩ | ⟨-, event, hleave⟩
    · exact hopen
    · rw [hleave] at hsource
      cases hsource
  · have hnone := h.read .writerEnded
    simp only [Channel.read, hreading, readWriterEnd, hended] at hnone
    cases result <;> cases hnone

/-- A writer that waits for an item has none. -/
theorem waiting_eq_nil (h : channel.Rests now) (hidle : channel.writer = .idle) :
    channel.session.outbox.waiting = [] := by
  have hnone := h.write
  simp only [Channel.write, hidle, writeNext, takeItem, Outbox.take?] at hnone
  cases hwaiting : channel.session.outbox.waiting with
  | nil => rfl
  | cons item rest =>
    simp only [hwaiting, Option.map_some] at hnone
    cases item with
    | shutdown => cases hnone
    | frame frame => cases hframe : frame.write <;> simp [hframe] at hnone

/-- A writer that is in the middle of a frame is blocked. -/
theorem blocked {unsent : Bytes} {isClose : Bool} (h : channel.Rests now)
    (hsending : channel.writer = .sending unsent isClose) :
    unsent.isEmpty = false ∧ channel.transport.isBlocked := by
  have hnone := h.write
  simp only [Channel.write, hsending, writeFrame] at hnone
  split at hnone
  · split at hnone <;> cases hnone
  · rename_i hunsent
    split at hnone
    · rename_i hblocked
      exact ⟨Bool.eq_false_iff.mpr hunsent, hblocked⟩
    · split at hnone <;> cases hnone

/-- A timer of the writer that is set is not due. -/
theorem lt_deadline {since : Moment} {deadline : Nat} (h : channel.Rests now)
    (hset : channel.writer = .awaitingShutdown since deadline) : now.time < deadline := by
  have hnone := h.write
  simp only [Channel.write, hset, awaitShutdown] at hnone
  split at hnone
  · cases hnone
  · cases hnone
  · split at hnone
    · cases hnone
    · rename_i hdue
      exact Nat.lt_of_not_le hdue

/-- A writer that flushes and shuts down does not wait. -/
theorem writer_ne_finishing (h : channel.Rests now) : channel.writer ≠ .finishing := by
  intro hfinishing
  have hnone := h.write
  simp [Channel.write, hfinishing] at hnone

end Rests

/-- A closing channel that can only wait has a timer that is set, or it is stuck. -/
theorem timed_or_stuck (h : Attended timeout now.time channel)
    (hstarted : channel.reader ≠ .created) (hrests : channel.Rests now)
    (hclosing : channel.session.state = .closing) :
    (∃ since deadline, channel.writer = .awaitingShutdown since deadline ∧
      now.time < deadline ∧ deadline ≤ now.time + timeout) ∨ channel.Stuck := by
  have hreading : channel.reader = .reading := by
    have hnot : ¬ channel.reader.isPastLoop := by
      rw [← h.intact.closed_iff, hclosing]
      nofun
    cases hreader : channel.reader with
    | reading => rfl
    | created => exact absurd hreader hstarted
    | leaving reason => exact absurd hreader (hrests.reader_ne_leaving reason)
    | draining | finished => simp [hreader, Reader.isPastLoop] at hnot
  obtain ⟨huncancelled, hincoming, hunfinished, hrunning⟩ := hrests.silent hreading
  cases hwriter : channel.writer with
  | idle =>
    -- The close frame would be in the outbox, but nothing is.
    rcases h.underWay hclosing with ⟨reason, hmem⟩ | ⟨unsent, hsending⟩ | hspent
    · simp [hrests.waiting_eq_nil hwriter] at hmem
    · simp [hwriter] at hsending
    · simp [hwriter, Writer.isSpent] at hspent
  | sending unsent isClose =>
    obtain ⟨hunsent, hblocked⟩ := hrests.blocked hwriter
    exact .inr ⟨hclosing, hreading, huncancelled, hincoming, hunfinished,
      ⟨unsent, isClose, hwriter, hunsent⟩, hblocked⟩
  | awaitingShutdown since deadline =>
    exact .inl ⟨since, deadline, rfl, hrests.lt_deadline hwriter, h.deadline since deadline hwriter⟩
  | finishing => exact absurd hwriter hrests.writer_ne_finishing
  | ended result => exact absurd hwriter (hrunning result)
  | aborted => simp [h.aborted hwriter] at hreading

/-- A channel whose timer is over and that can only wait has reported its close. -/
theorem finished_of_rests (h : Attended timeout now.time channel)
    (hstarted : channel.reader ≠ .created) (hrests : channel.Rests now) {deadline : Nat}
    (htimed : TimedBy deadline channel.writer) (hdue : deadline ≤ now.time) :
    channel.reader = .finished := by
  generalize hwriter : channel.writer = writer at htimed
  cases htimed with
  | awaitingShutdown since =>
    have hfuture := hrests.lt_deadline hwriter
    omega
  | finishing => exact absurd hwriter hrests.writer_ne_finishing
  | ended result =>
    -- The reader sees that the writer has ended, in its loop and behind it.
    cases hreader : channel.reader with
    | finished => rfl
    | created => exact absurd hreader hstarted
    | reading => exact absurd hwriter ((hrests.silent hreader).2.2.2 result)
    | leaving reason => exact absurd hreader (hrests.reader_ne_leaving reason)
    | draining reason since deadline' =>
      have hnone := hrests.read .wrapUp
      simp [Channel.read, hreader, endDrain, hwriter] at hnone
  | aborted => exact h.aborted hwriter

/-! ### Stuck channels -/

namespace Stuck

/-- Neither activity of a stuck channel can go on, at any time. -/
theorem rests (h : channel.Stuck) (now : Moment) : channel.Rests now where
  read wakeup := by
    obtain ⟨unsent, isClose, hwriter, -⟩ := h.sending
    cases wakeup with
    | cancelled => simp [Channel.read, h.reading, h.uncancelled]
    | writerEnded => simp [Channel.read, h.reading, readWriterEnd, hwriter]
    | inbound =>
      simp only [Channel.read, h.reading]
      rcases readSource_of_none h.incoming now.time with ⟨-, hnone⟩ | ⟨hending, -⟩
      · exact hnone
      · exact absurd h.unfinished hending
    | wrapUp => simp [Channel.read, h.reading]
  write := by
    obtain ⟨unsent, isClose, hwriter, hunsent⟩ := h.sending
    simp [Channel.write, hwriter, writeFrame, hunsent, h.blocked]

/-- Only the peer can change a stuck channel. -/
theorem after_eq (h : channel.Stuck) {time : Nat} {action : Action}
    (htimely : action.Timely time channel) (hpeer : action.isPeer = false) :
    channel.after action = channel := by
  cases action with
  | peer step => cases hpeer
  | announce =>
    show { channel with session := channel.session.announce } = channel
    rw [Session.announce, if_neg (by simp [h.closing])]
  | start =>
    show channel.start = channel
    simp [start, h.reading]
  | call request =>
    show { channel with session := (channel.session.call request).2 } = channel
    rw [Session.call_of_closing h.closing]
  | keepalive number =>
    show channel.withSession (channel.session.keepalive _).2 = channel
    rw [Session.keepalive, if_pos (by simp [h.closing])]
    rfl
  | expire => simp [Action.Timely, h.closing] at htimely
  | read now wakeup =>
    rw [Channel.after, outcome_of_read_eq_none ((h.rests now).read wakeup)]
  | write now =>
    show (channel.write now).getD channel = channel
    rw [(h.rests now).write]
    rfl

theorem eq_of_evolves (h : channel.Stuck) {time : Nat} {next : Channel}
    (hevolves : Evolves time False channel next) : next = channel := by
  induction hevolves with
  | refl => rfl
  | step action _ timely peer ih =>
    rw [ih] at timely ⊢
    exact h.after_eq timely (Bool.eq_false_iff.mpr peer)

end Stuck

end Channel

end SocketGate
