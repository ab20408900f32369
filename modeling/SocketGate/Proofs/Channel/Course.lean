import SocketGate.Proofs.Channel.Reason

/-!
# `SocketGate.Proofs.Channel.Course`: channels in the course of time

`Evolves` says that a channel has become another one by actions that a server makes up to a
time, with or without steps of its peer. `Attended` is what then holds of the channel at that
time. Its heart is that a closing session is never forgotten: its close frame is in the outbox,
or the writer is at it, or the writer has nothing to write any more.

* `Channel.writes_of_write`: what a step of the writer does to the close frame and to the timer.
* `Channel.Attended.evolves`: the invariant is kept.
* `Channel.started_evolves`: a reader that has been started stays so.
-/

set_option autoImplicit false

namespace SocketGate

/-- A session that is closing now, with its writer, was closing before, or its close frame has
been queued since. -/
theorem Session.Disciplined.closing_run {limit : Nat} {session : Session} {ledger : Ledger}
    (h : session.Disciplined limit ledger) {operations : List Operation}
    (hclosing : (session.run operations).state = .closing)
    (hattached : (session.run operations).outbox.attached) :
    session.state = .closing ∨
      ∃ reason, .frame (Frame.close reason) ∈ session.enqueued operations := by
  obtain ⟨after, hitems, hafter⟩ := h.run operations
  obtain ⟨reason, hmem⟩ := after.close_mem_items.mpr (hafter.closing hclosing hattached)
  rw [hitems] at hmem
  refine (List.mem_append.mp hmem).imp (fun hold => ?_) fun hnew => ⟨reason, hnew⟩
  -- The close frame is in the ledger already, so the session is no longer writable.
  have hsome := ledger.close_mem_items.mp ⟨reason, hold⟩
  have hrank := session.rank_run operations
  rw [hclosing] at hrank
  cases hstate : session.state with
  | closing => rfl
  | closed => simp [hstate, SessionState.rank] at hrank
  | handshakeDone | opened =>
    have hnone := (h.writable (by simp [hstate, SessionState.isWritable])).1
    simp [hnone] at hsome

/-- A writer that does nothing any more has nothing to write. -/
theorem Writer.isSpent_of_isOver {writer : Writer} (h : writer.isOver) : writer.isSpent := by
  cases writer with
  | ended | aborted => rfl
  | idle | sending | awaitingShutdown | finishing => cases h

namespace Channel

open Session (Operation)

/-! ### Channels in the course of time -/

/-- Whether it is the peer or the network that acts. -/
def Action.isPeer : Action → Bool
  | .peer _ => true
  | _ => false

/-- An action as a server makes it up to `time`. Sweeps expire open sessions only. -/
def Action.Timely (time : Nat) (channel : Channel) : Action → Prop
  | .read now _ | .write now => now.time ≤ time
  | .expire => channel.session.state = .opened
  | .peer _ | .announce | .start | .call _ | .keepalive _ => True

/-- The channel has become another one by actions that a server makes up to `time`. The peer
takes part only if the channel is `touched`. -/
inductive Evolves (time : Nat) (touched : Prop) (channel : Channel) : Channel → Prop where
  | refl : Evolves time touched channel channel
  | step {middle : Channel} (action : Action) (before : Evolves time touched channel middle)
      (timely : action.Timely time middle) (peer : action.isPeer → touched) :
      Evolves time touched channel (middle.after action)

namespace Evolves

variable {time time' : Nat} {touched : Prop} {channel middle next : Channel}

theorem single (action : Action) (timely : action.Timely time channel)
    (peer : action.isPeer → touched) : Evolves time touched channel (channel.after action) :=
  .step action .refl timely peer

theorem trans (h : Evolves time touched channel middle) (h' : Evolves time touched middle next) :
    Evolves time touched channel next := by
  induction h' with
  | refl => exact h
  | step action _ timely peer ih => exact .step action ih timely peer

/-- What is done up to a time is done up to any later one. -/
theorem mono (h : Evolves time touched channel next) (htime : time ≤ time') :
    Evolves time' touched channel next := by
  induction h with
  | refl => exact .refl
  | step action _ timely peer ih =>
    refine .step action ih ?_ peer
    cases action with
    | read now wakeup | write now => exact Nat.le_trans timely htime
    | _ => exact timely

/-- Who may take part may take part still when more is allowed. -/
theorem mono_touched {touched' : Prop} (h : Evolves time touched channel next)
    (htouched : touched → touched') : Evolves time touched' channel next := by
  induction h with
  | refl => exact .refl
  | step action _ timely peer ih => exact .step action ih timely (htouched ∘ peer)

end Evolves

/-! ### The close frame -/

/-- The close frame waits, or the writer writes it, or the writer has nothing to write any
more. -/
inductive CloseUnderWay (channel : Channel) : Prop where
  | waiting (reason : CloseReason)
      (mem : .frame (Frame.close reason) ∈ channel.session.outbox.waiting)
  | sending (unsent : Bytes) (writer : channel.writer = .sending unsent true)
  | spent (writer : channel.writer.isSpent)

/-- Items that are queued change nothing about it. -/
theorem CloseUnderWay.append {channel next : Channel} (h : channel.CloseUnderWay)
    (hwriter : next.writer = channel.writer) (items : List Outbound)
    (houtbox : next.session.outbox = channel.session.outbox.append items) :
    next.CloseUnderWay := by
  rcases h with ⟨reason, hwaiting⟩ | ⟨unsent, hsending⟩ | hspent
  · refine .waiting reason ?_
    rw [houtbox, Outbox.waiting_append]
    exact List.mem_append_left _ hwaiting
  · exact .sending unsent (hwriter.trans hsending)
  · exact .spent (hwriter ▸ hspent)

/-- A step of the writer, as far as the close frame and the timer are concerned. -/
structure Writes (channel next : Channel) (now : Moment) : Prop where
  state : next.session.state = channel.session.state
  closeTimeout : next.closeTimeout = channel.closeTimeout
  /-- The writer holds on to its queue as long as it is not over. -/
  attached : next.writer.isOver = false →
    next.session.outbox.attached = channel.session.outbox.attached
  /-- No writer stops itself. -/
  aborted : next.writer ≠ .aborted
  /-- A timer that has not been set before is set now. -/
  deadline : ∀ since deadline, next.writer = .awaitingShutdown since deadline →
    channel.writer = .awaitingShutdown since deadline ∨
      deadline = now.time + channel.closeTimeout
  underWay : channel.CloseUnderWay → next.CloseUnderWay

/-- The writer has an item less in its outbox and is done with writing. -/
theorem writes_of_finishing {channel next : Channel} {now : Moment}
    (hstate : next.session.state = channel.session.state)
    (hcloseTimeout : next.closeTimeout = channel.closeTimeout)
    (hattached : next.session.outbox.attached = channel.session.outbox.attached)
    (hwriter : next.writer = .finishing) : channel.Writes next now where
  state := hstate
  closeTimeout := hcloseTimeout
  attached _ := hattached
  aborted := by simp [hwriter]
  deadline := by simp [hwriter]
  underWay _ := .spent (by rw [hwriter]; rfl)

/-- The writer goes on with a frame or with the next item, and sets no timer. -/
theorem writes_of_writing {channel next : Channel} {now : Moment}
    (hstate : next.session.state = channel.session.state)
    (hcloseTimeout : next.closeTimeout = channel.closeTimeout)
    (hattached : next.session.outbox.attached = channel.session.outbox.attached)
    (hwriting : next.writer.isSpent = false)
    (hunderWay : channel.CloseUnderWay → next.CloseUnderWay) : channel.Writes next now where
  state := hstate
  closeTimeout := hcloseTimeout
  attached _ := hattached
  aborted haborted := by simp [haborted, Writer.isSpent] at hwriting
  deadline since deadline hset := by simp [hset, Writer.isSpent] at hwriting
  underWay := hunderWay

/-- The writer ends. -/
theorem writes_endWriter {channel middle : Channel} {now : Moment}
    (hstate : middle.session.state = channel.session.state)
    (hcloseTimeout : middle.closeTimeout = channel.closeTimeout)
    (result : Except Failure Unit) : channel.Writes (middle.endWriter result) now where
  state := hstate
  closeTimeout := hcloseTimeout
  attached h := by cases h
  aborted := nofun
  deadline := nofun
  underWay _ := .spent rfl

/-- An item leaves the outbox, and nothing else changes. -/
theorem attached_after_take (session : Session) :
    (session.after .take).outbox.attached = session.outbox.attached := by
  show ((session.outbox.take?.map (·.2)).getD session.outbox).attached = _
  unfold Outbox.take?
  split <;> rfl

/-- Every step of the writer. A close frame that it takes is marked as one, and its timer is set
when that has been sent. -/
theorem writes_of_write {channel next : Channel} {now : Moment}
    (hwrite : channel.write now = some next) : channel.Writes next now := by
  have hattached := attached_after_take channel.session
  cases writeStep_of_write hwrite with
  | stop => exact writes_of_finishing rfl rfl hattached rfl
  | take frame rest bytes hidle hwaiting hrest hbytes =>
    refine writes_of_writing rfl rfl hattached rfl ?_
    rintro (⟨reason, hmem⟩ | ⟨unsent, hwriter⟩ | hspent)
    · -- The close frame is the one that is taken, or it still waits.
      rw [hwaiting] at hmem
      rcases List.mem_cons.mp hmem with hfirst | hlater
      · cases hfirst
        exact .sending _ rfl
      · exact .waiting reason (hrest ▸ hlater)
    · simp [hidle] at hwriter
    · simp [hidle, Writer.isSpent] at hspent
  | refuse => exact writes_endWriter (by rfl) (by rfl) _
  | flush isClose hsending =>
    cases isClose with
    | true =>
      exact {
        state := rfl
        closeTimeout := rfl
        attached := fun _ => rfl
        aborted := fun haborted => by cases haborted
        deadline := fun since deadline hset => .inr (Writer.awaitingShutdown.inj hset).2.symm
        underWay := fun _ => .spent rfl }
    | false =>
      refine writes_of_writing rfl rfl rfl rfl ?_
      rintro (⟨reason, hmem⟩ | ⟨unsent, hwriter⟩ | hspent)
      · exact .waiting reason hmem
      · simp [hsending] at hwriter
      · simp [hsending, Writer.isSpent] at hspent
  | send unsent rest isClose transport hsending =>
    refine writes_of_writing rfl rfl rfl rfl ?_
    rintro (⟨reason, hmem⟩ | ⟨unsent', hwriter⟩ | hspent)
    · exact .waiting reason hmem
    · obtain ⟨-, rfl⟩ := Writer.sending.inj (hsending.symm.trans hwriter)
      exact .sending _ rfl
    · simp [hsending, Writer.isSpent] at hspent
  | fail => exact writes_endWriter rfl rfl _
  | drop since deadline frame rest hawaiting =>
    have hwriter : channel.taken.writer = .awaitingShutdown since deadline := hawaiting
    exact {
      state := rfl
      closeTimeout := rfl
      attached := fun _ => hattached
      aborted := by simp [hwriter]
      deadline := fun _ _ hset => .inl hset
      underWay := fun _ => .spent (by simp [hwriter, Writer.isSpent]) }
  | expire => exact writes_of_finishing rfl rfl rfl rfl
  | finish => exact writes_endWriter (by rfl) (by rfl) _

/-! ### The invariant -/

/-- What holds of a channel at a time, with the limit on how long a closing handshake may
take. -/
structure Attended (timeout time : Nat) (channel : Channel) : Prop where
  intact : channel.Intact
  disciplined : ∃ limit ledger, Session.Disciplined limit channel.session ledger
  closeTimeout : channel.closeTimeout = timeout
  attached : channel.writer.isOver = false → channel.session.outbox.attached
  aborted : channel.writer = .aborted → channel.reader = .finished
  deadline : ∀ since deadline, channel.writer = .awaitingShutdown since deadline →
    deadline ≤ time + timeout
  underWay : channel.session.state = .closing → channel.CloseUnderWay

/-- A channel that has just been made with the settings of a server. -/
theorem attended_ofTransport (transport : Transport) (id : SessionId) (path : String)
    (config : Config) (now time : Nat) :
    Attended config.limits.closeTimeout time
      (ofTransport transport id path config.limits now) where
  intact := intact_ofTransport transport id path config now
  disciplined := ⟨_, _, Session.disciplined_fresh id path config.limits.frame
    config.limits.queue now⟩
  closeTimeout := rfl
  attached _ := rfl
  aborted := nofun
  deadline := nofun
  underWay := nofun

/-- No step of the reader changes how long a closing handshake may take. -/
theorem closeTimeout_read {channel next : Channel} {now : Moment} {wakeup : Wakeup}
    {event : Option Event} (hread : channel.read now wakeup = some (next, event)) :
    next.closeTimeout = channel.closeTimeout := by
  cases readStep_of_read hread with
  | frame frame => exact (channel.fetch.undisturbed_receive now.time frame).closeTimeout
  | _ => rfl

/-- What comes of an action: nothing, or a step of the reader or of the writer that is ready,
or it is no step of these. -/
theorem after_cases (channel : Channel) (action : Action) :
    channel.after action = channel ∨
    (∃ now wakeup event, action = .read now wakeup ∧
      channel.read now wakeup = some (channel.after action, event)) ∨
    (∃ now, action = .write now ∧ channel.write now = some (channel.after action)) ∨
    ((∀ now wakeup, action ≠ .read now wakeup) ∧ ∀ now, action ≠ .write now) := by
  cases action with
  | read now wakeup =>
    unfold after
    cases hstep : channel.read now wakeup with
    | none =>
      rw [outcome_of_read_eq_none hstep]
      exact .inl rfl
    | some step =>
      rw [outcome_of_read hstep]
      exact .inr (.inl ⟨now, wakeup, step.2, rfl, hstep⟩)
  | write now =>
    show (channel.write now).getD channel = channel ∨ _
    cases hstep : channel.write now with
    | none => exact .inl rfl
    | some next =>
      refine .inr (.inr (.inl ⟨now, rfl, hstep.trans ?_⟩))
      show some next = some ((channel.write now).getD channel)
      rw [hstep]
      rfl
  | _ => exact .inr (.inr (.inr ⟨nofun, nofun⟩))

/-- An action that is no step of the reader or the writer is done by operations of the
session. -/
theorem performs_after (channel : Channel) (action : Action)
    (hread : ∀ now wakeup, action ≠ .read now wakeup) (hwrite : ∀ now, action ≠ .write now) :
    (∃ operations, channel.session.Performs (channel.after action).session operations) ∧
      (channel.after action).writer = channel.writer ∧
      (channel.after action).closeTimeout = channel.closeTimeout := by
  have hsingle (operation : Operation) (hbrief : operation.Brief)
      (hwriters : operation.isWriters = false) :
      ∃ operations, channel.session.Performs (channel.session.after operation) operations :=
    ⟨[operation], .single channel.session operation hbrief
      (fun h => by simp [h, Operation.isWriters] at hwriters)
      (fun h => by simp [h, Operation.isWriters] at hwriters)⟩
  cases action with
  | peer step => exact ⟨⟨[], .refl channel.session⟩, rfl, rfl⟩
  | announce => exact ⟨hsingle .announce trivial rfl, rfl, rfl⟩
  | start =>
    show (∃ operations, channel.session.Performs channel.start.session operations) ∧
      channel.start.writer = _ ∧ channel.start.closeTimeout = _
    unfold start
    split <;> exact ⟨⟨[], .refl channel.session⟩, rfl, rfl⟩
  | call request => exact ⟨hsingle (.call request) trivial rfl, rfl, rfl⟩
  | keepalive number =>
    have hshort : (Bytes.ofNatBE 8 number.toNat).length ≤ maxControlPayload := by
      rw [Bytes.length_ofNatBE]
      decide
    exact ⟨hsingle (.keepalive _) hshort rfl, rfl, rfl⟩
  | expire =>
    exact ⟨hsingle (.forceClose _) (CloseReason.length_toPayload_of _ _) rfl, rfl, rfl⟩
  | read now wakeup => exact absurd rfl (hread now wakeup)
  | write now => exact absurd rfl (hwrite now)

namespace Attended

variable {timeout time : Nat} {channel next : Channel}

/-- Operations of the session queue items, and the writer is left alone. -/
theorem perform (h : Attended timeout time channel) (hintact : next.Intact)
    {operations : List Operation} (hperforms : channel.session.Performs next.session operations)
    (hwriter : next.writer = channel.writer)
    (hcloseTimeout : next.closeTimeout = channel.closeTimeout)
    (haborted : next.writer = .aborted → next.reader = .finished) :
    Attended timeout time next := by
  obtain ⟨limit, ledger, hdisciplined⟩ := h.disciplined
  obtain ⟨after, -, hafter⟩ := hdisciplined.run operations
  have hrun := hperforms.run_eq
  have houtbox := hperforms.outbox_eq
  have hsame : next.session.outbox.attached = channel.session.outbox.attached := by
    rw [houtbox, Outbox.attached_append]
  exact {
    intact := hintact
    disciplined := ⟨limit, after, hrun ▸ hafter⟩
    closeTimeout := hcloseTimeout.trans h.closeTimeout
    attached := fun hover => hsame ▸ h.attached (hwriter ▸ hover)
    aborted := haborted
    deadline := fun since deadline hset => h.deadline since deadline (hwriter ▸ hset)
    underWay := fun hclosing => by
      cases hover : channel.writer.isOver with
      | true => exact .spent (hwriter ▸ Writer.isSpent_of_isOver hover)
      | false =>
        have hattached : next.session.outbox.attached := hsame ▸ h.attached hover
        rw [hrun] at hclosing hattached
        rcases hdisciplined.closing_run hclosing hattached with hbefore | ⟨reason, hnew⟩
        · exact (h.underWay hbefore).append hwriter _ houtbox
        · refine .waiting reason ?_
          rw [houtbox, Outbox.waiting_append]
          exact List.mem_append_right _ hnew }

/-- A step of the writer. -/
theorem write (h : Attended timeout time channel) {now : Moment} (hnow : now.time ≤ time)
    (hwrite : channel.write now = some next) : Attended timeout time next := by
  have hintact : next.Intact := by
    have hafter := (h.intact.after (.write now)).1
    change ((channel.write now).getD channel).Intact at hafter
    rwa [hwrite] at hafter
  have hwrites := writes_of_write hwrite
  obtain ⟨limit, ledger, hdisciplined⟩ := h.disciplined
  obtain ⟨operations, -, hsession⟩ := (write_turn hwrite).exists_writers
  obtain ⟨after, -, hafter⟩ := hdisciplined.run operations
  exact {
    intact := hintact
    disciplined := ⟨limit, after, hsession ▸ hafter⟩
    closeTimeout := hwrites.closeTimeout.trans h.closeTimeout
    attached := fun hover => by
      rw [hwrites.attached hover]
      exact h.attached (not_isOver_of_write hwrite)
    aborted := fun haborted => absurd haborted hwrites.aborted
    deadline := fun since deadline hset => by
      rcases hwrites.deadline since deadline hset with hbefore | rfl
      · exact h.deadline since deadline hbefore
      · have htimeout := h.closeTimeout
        omega
    underWay := fun hclosing => hwrites.underWay (h.underWay (hwrites.state ▸ hclosing)) }

/-- A step of the reader. -/
theorem read (h : Attended timeout time channel) {now : Moment} {wakeup : Wakeup}
    {event : Option Event} (hread : channel.read now wakeup = some (next, event)) :
    Attended timeout time next := by
  have hintact := (h.intact.read hread).1
  have hcloseTimeout := closeTimeout_read hread
  -- The writer is left alone in all steps but one.
  have hserves (operations : List Operation) (hserves : channel.Serves next operations)
      (hreader : channel.reader ≠ .finished) : Attended timeout time next := by
    refine h.perform hintact hserves.performs hserves.writer hcloseTimeout fun haborted => ?_
    exact absurd (h.aborted (hserves.writer ▸ haborted)) hreader
  cases read_turn hread h.intact.sound with
  | goOn operations _ serves before => exact hserves operations serves (by simp [before])
  | leave operations _ _ serves before => exact hserves operations serves (by simp [before])
  | drain _ _ _ _ serves before => exact hserves _ serves (by simp [before])
  | finish _ _ _ _ serves before => exact hserves _ serves (by simp [before])
  | abandon _ _ _ before after session sent aborted =>
    obtain ⟨limit, ledger, hdisciplined⟩ := h.disciplined
    obtain ⟨ledger', -, hledger'⟩ := hdisciplined.run [.detach]
    exact {
      intact := hintact
      disciplined := ⟨limit, ledger', session ▸ hledger'⟩
      closeTimeout := hcloseTimeout.trans h.closeTimeout
      attached := fun hover => by simp [aborted, Writer.isOver] at hover
      aborted := fun _ => after
      deadline := by simp [aborted]
      underWay := fun _ => .spent (by rw [aborted]; rfl) }

/-- Whatever a server lets happen to a channel, the invariant is kept. -/
theorem after (h : Attended timeout time channel) (action : Action)
    (htimely : action.Timely time channel) : Attended timeout time (channel.after action) := by
  rcases channel.after_cases action with hsame | ⟨now, wakeup, event, -, hread⟩ |
    ⟨now, rfl, hwrite⟩ | ⟨hread, hwrite⟩
  · exact hsame.symm ▸ h
  · exact h.read hread
  · exact h.write htimely hwrite
  · obtain ⟨⟨operations, hperforms⟩, hwriter, hcloseTimeout⟩ :=
      channel.performs_after action hread hwrite
    refine h.perform (h.intact.after action).1 hperforms hwriter hcloseTimeout fun haborted => ?_
    -- The reader has finished, and nothing brings it back.
    have hbefore := h.aborted (hwriter ▸ haborted)
    exact (channel.finished_after action hbefore (by rw [← hwriter, haborted]; rfl)).1

/-- The invariant is kept along the course of a channel. -/
theorem evolves {time' : Nat} {touched : Prop} (h : Attended timeout time channel)
    (htime : time ≤ time') (hevolves : Evolves time' touched channel next) :
    Attended timeout time' next := by
  induction hevolves with
  | refl =>
    exact { h with
      deadline := fun since deadline hset =>
        Nat.le_trans (h.deadline since deadline hset) (Nat.add_le_add_right htime timeout) }
  | step action _ timely _ ih => exact ih.after action timely

end Attended

/-- A reader that has been started stays so. -/
theorem started_after {channel : Channel} (hsound : channel.decoder.Sound) (action : Action)
    (h : channel.reader ≠ .created) : (channel.after action).reader ≠ .created := by
  have hother (hread : ∀ now wakeup, action ≠ .read now wakeup) :
      (channel.after action).reader ≠ .created := by
    obtain ⟨-, hsame | ⟨hcreated, -⟩, -⟩ := channel.after_of_not_read action hread
    · exact hsame ▸ h
    · exact absurd hcreated h
  rcases channel.after_cases action with hsame | ⟨now, wakeup, event, -, hstep⟩ |
    ⟨now, rfl, -⟩ | ⟨hread, -⟩
  · exact hsame.symm ▸ h
  · cases read_turn hstep hsound <;> simp_all
  · exact hother nofun
  · exact hother hread

theorem started_evolves {time : Nat} {touched : Prop} {channel next : Channel}
    (hsound : channel.decoder.Sound) (h : channel.reader ≠ .created)
    (hevolves : Evolves time touched channel next) :
    next.decoder.Sound ∧ next.reader ≠ .created := by
  induction hevolves with
  | refl => exact ⟨hsound, h⟩
  | step action _ _ _ ih => exact ⟨sound_after _ action ih.1, started_after ih.1 action ih.2⟩

end Channel

end SocketGate
