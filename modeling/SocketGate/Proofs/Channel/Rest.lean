import SocketGate.Proofs.Channel.Trace

/-!
# `SocketGate.Proofs.Channel.Rest`: a channel comes to rest

As long as its peer does nothing more and takes everything, a channel can make only so many
steps. `Channel.effort` bounds their number, and every step of the reader or of the writer
makes it smaller: a frame that comes in leaves less to decode, and an item that is written
leaves less that waits. What the reader does to a session puts at most two items into its
outbox.

* `Channel.effort_read_lt`, `Channel.effort_write_lt`: every step leaves less to do.
* `Channel.exists_rests`: some steps bring the channel to rest.
* `Channel.follows_ofTransport`: what a channel that has just been started has yet to report.
-/

set_option autoImplicit false

namespace SocketGate

/-! ### What enters the outbox -/

theorem Outbox.length_put (outbox : Outbox) (item : Outbound) :
    (outbox.put item).waiting.length ≤ outbox.waiting.length + 1 := by
  rw [outbox.put_eq]
  unfold admitted
  split <;> simp

namespace Session

theorem length_answerPing (session : Session) (payload : Bytes) :
    (session.answerPing payload).outbox.waiting.length ≤ session.outbox.waiting.length + 1 := by
  unfold answerPing
  obtain ⟨refusal, hoffer⟩ | ⟨-, -, -, hoffer⟩ := session.offer_cases [Frame.pong payload]
  · simp [hoffer]
  · simp [hoffer]

theorem length_queueShutdown (session : Session) :
    session.queueShutdown.outbox.waiting.length ≤ session.outbox.waiting.length + 1 := by
  unfold queueShutdown
  split
  · exact Nat.le_succ _
  · exact session.outbox.length_put .shutdown

/-- The answer to a close frame is another one, with the request to shut down behind it. -/
theorem length_acknowledgeClose (session : Session) (reason : CloseReason) :
    (session.acknowledgeClose reason).outbox.waiting.length ≤
      session.outbox.waiting.length + 2 := by
  have hclose := session.outbox.length_put (.frame (Frame.close (CloseReason.of reason.code "")))
  have hstop := length_queueShutdown
    ({ session with state := .closing }.putClose (CloseReason.of reason.code ""))
  unfold acknowledgeClose
  split
  · exact Nat.le_trans hstop (Nat.succ_le_succ hclose)
  · exact Nat.le_trans hstop (Nat.succ_le_succ hclose)
  · exact Nat.le_succ_of_le session.length_queueShutdown
  · exact Nat.le_add_right _ 2

/-- A session that breaks off queues the same two items. -/
theorem length_breakOff (session : Session) (reason : CloseReason) :
    (session.breakOff reason).outbox.waiting.length ≤ session.outbox.waiting.length + 2 := by
  have hclose : (if session.state.isWritable then session.putClose reason
      else session).outbox.waiting.length ≤ session.outbox.waiting.length + 1 := by
    split
    · exact session.outbox.length_put (.frame (Frame.close reason))
    · exact Nat.le_succ _
  unfold breakOff
  dsimp only
  generalize (if session.state.isWritable then session.putClose reason else session) = left at *
  have hstop := length_queueShutdown { left with state := .closing }
  split
  · exact Nat.le_succ_of_le hclose
  · exact Nat.le_trans hstop (Nat.succ_le_succ hclose)

end Session

/-! ### What is left to do -/

/-- How many steps a writer makes at most before it takes another item. -/
def Writer.effort : Writer → Nat
  | .sending unsent _ => if unsent.isEmpty then 3 else 4
  | .idle | .awaitingShutdown .. => 2
  | .finishing => 1
  | .ended _ | .aborted => 0

namespace Channel

/-- How many steps the reader makes at most, and the writer because of them. Every frame may
be a ping, whose answer takes the writer three steps. -/
def readerEffort (channel : Channel) : Nat :=
  match channel.reader with
  | .reading => 4 * (channel.decoder.work + channel.transport.source.bytes.length) + 12
  | .leaving _ => 5
  | .draining .. => 1
  | .created | .finished => 0

/-- How many steps a channel makes at most while its peer does nothing more. -/
def effort (channel : Channel) : Nat :=
  channel.readerEffort + 3 * channel.session.outbox.waiting.length + channel.writer.effort

variable {channel next : Channel} {now : Moment}

/-! ### Steps of the reader -/

/-- Bytes that move into the decoder are work for it instead of for the source. -/
theorem work_absorb (channel : Channel) : channel.absorb.decoder.work =
    channel.decoder.work + channel.transport.source.bytes.length := by
  unfold absorb Decoder.feed Decoder.work
  cases hbytes : channel.transport.source.bytes with
  | nil => simp
  | cons byte bytes =>
    simp only [List.isEmpty_cons, Bool.false_eq_true, if_false, List.length_append]
    omega

/-- A reader that has left its loop has less to do, even if two more items wait. -/
theorem effort_lt_of_leaving {reason : CloseReason} (hbefore : channel.reader = .reading)
    (hafter : next.reader = .leaving reason) (hwriter : next.writer = channel.writer)
    (hwaiting : next.session.outbox.waiting.length ≤
      channel.session.outbox.waiting.length + 2) : next.effort < channel.effort := by
  simp only [effort, readerEffort, hbefore, hafter, hwriter]
  omega

theorem effort_rejectPeer_lt (channel : Channel) (violation : Violation)
    (hreading : channel.reader = .reading) :
    (channel.rejectPeer violation).1.effort < channel.effort :=
  effort_lt_of_leaving hreading rfl rfl (channel.session.length_breakOff _)

/-- A frame that comes in leaves the channel in its loop with one item more at most, or makes
it leave. -/
theorem effort_receive_lt (time : Nat) (frame : Frame) (hreading : channel.reader = .reading) :
    (channel.receive time frame).1.effort < channel.effort + 4 := by
  have hgoesOn (next : Channel) (hreader : next.reader = channel.reader)
      (hdecoder : next.decoder = channel.decoder) (htransport : next.transport = channel.transport)
      (hwriter : next.writer = channel.writer) (hwaiting : next.session.outbox.waiting.length ≤
        channel.session.outbox.waiting.length + 1) : next.effort < channel.effort + 4 := by
    simp only [effort, readerEffort, hreader, hdecoder, htransport, hwriter]
    omega
  have hdata : (channel.receiveData time frame).1.effort < channel.effort + 4 := by
    unfold receiveData
    dsimp only
    split
    · exact hgoesOn _ rfl rfl rfl rfl (Nat.le_succ _)
    · split
      · exact Nat.lt_add_right 4 (effort_rejectPeer_lt { channel with
          session := channel.session.recordInbound time true
          assembler := (channel.assembler.push frame).2 } _ hreading)
      · exact hgoesOn _ rfl rfl rfl rfl (Nat.le_succ _)
  unfold receive
  split
  · exact hgoesOn _ rfl rfl rfl rfl (Session.length_answerPing _ _)
  · exact hgoesOn _ rfl rfl rfl rfl (Nat.le_succ _)
  · unfold receiveClose
    split
    · exact Nat.lt_add_right 4 (effort_rejectPeer_lt channel _ hreading)
    · exact Nat.lt_add_right 4
        (effort_lt_of_leaving hreading rfl rfl (Session.length_acknowledgeClose _ _))
  all_goals exact hdata

/-- A step of the reader leaves less to do. -/
theorem effort_read_lt {wakeup : Wakeup} {event : Option Event}
    (hread : channel.read now wakeup = some (next, event)) : next.effort < channel.effort := by
  cases readStep_of_read hread with
  | lost wakeup reason event hreading | exhausted event hreading =>
    exact effort_lt_of_leaving hreading rfl rfl (Nat.le_add_right _ 2)
  | violation violation hreading =>
    exact effort_lt_of_leaving hreading rfl rfl (channel.session.length_breakOff _)
  | frame frame hreading hincoming =>
    -- The frame is work that the decoder has no longer.
    have hnext : channel.absorb.decoder.next = (.ok (some frame), channel.fetch.decoder) :=
      Prod.ext hincoming rfl
    have hless := Decoder.work_next_lt hnext
    rw [channel.work_absorb] at hless
    have hfetch : channel.fetch.effort + 4 ≤ channel.effort := by
      have hreading' : channel.fetch.reader = .reading := hreading
      have hbytes : channel.fetch.transport.source.bytes = [] := rfl
      have hwaiting : channel.fetch.session = channel.session := rfl
      have hwriter : channel.fetch.writer = channel.writer := rfl
      simp only [effort, readerEffort, hreading, hreading', hbytes, hwaiting, hwriter,
        List.length_nil]
      omega
    exact Nat.lt_of_lt_of_le (effort_receive_lt now.time frame hreading) hfetch
  | drain reason hleaving =>
    have hwaiting := Session.length_queueShutdown { channel.session with state := .closed }
    simp only [effort, readerEffort, beginDrain, hleaving, Session.markClosed] at hwaiting ⊢
    omega
  | finish reason since deadline result hdraining =>
    simp only [effort, readerEffort, hdraining]
    omega
  | abandon reason since deadline hdraining =>
    simp only [effort, readerEffort, hdraining, Outbox.detach, Writer.effort, List.length_nil]
    omega

/-! ### Steps of the writer -/

/-- A writer that ends loses what waits. -/
theorem effort_endWriter (channel : Channel) (result : Except Failure Unit) :
    (channel.endWriter result).effort = channel.readerEffort := by
  simp only [effort, readerEffort, endWriter, Outbox.detach, List.length_nil, Writer.effort]
  omega

/-- A step of the writer leaves less to do if the peer takes everything. -/
theorem effort_write_lt (hwindow : channel.transport.window = none)
    (hwrite : channel.write now = some next) : next.effort < channel.effort := by
  have hends (result : Except Failure Unit) (h : 0 < channel.writer.effort) :
      (channel.endWriter result).effort < channel.effort := by
    rw [effort_endWriter, effort]
    omega
  -- An item that is taken counts for three steps.
  have hlater {item : Outbound} {rest : List Outbound} (writer : Writer)
      (hwaiting : channel.session.outbox.waiting = item :: rest)
      (hrest : channel.taken.session.outbox.waiting = rest)
      (hless : writer.effort < channel.writer.effort + 3) :
      { channel.taken with writer }.effort < channel.effort := by
    have hlength := congrArg List.length hwaiting
    have heffort : { channel.taken with writer }.effort = channel.readerEffort +
        3 * channel.taken.session.outbox.waiting.length + writer.effort := rfl
    rw [heffort, hrest, effort, hlength, List.length_cons]
    omega
  cases writeStep_of_write hwrite with
  | stop rest hwaits hwaiting hrest =>
    exact hlater .finishing hwaiting hrest (Nat.lt_add_left _ (by decide))
  | take frame rest bytes hidle hwaiting hrest =>
    have hmost (unsent : Bytes) (isClose : Bool) : (Writer.sending unsent isClose).effort < 5 := by
      simp only [Writer.effort]
      split <;> decide
    exact hlater _ hwaiting hrest (by rw [hidle]; exact hmost _ _)
  | refuse frame rest violation hidle hwaiting =>
    rw [effort_endWriter, effort, hidle, Writer.effort, hwaiting, List.length_cons]
    show channel.readerEffort < _
    omega
  | flush isClose hsending =>
    have hwriter (writer : Writer) (h : writer.effort = 2) :
        { channel with writer }.effort < channel.effort := by
      show channel.readerEffort + 3 * channel.session.outbox.waiting.length + writer.effort <
        channel.effort
      rw [effort, hsending, h]
      exact Nat.lt_succ_self _
    exact hwriter _ (by cases isClose <;> rfl)
  | send unsent rest isClose transport hsending hmore hsent =>
    have heffort : channel.writer.effort = 4 := by
      rw [hsending, Writer.effort, if_neg (by simpa using hmore)]
    -- All that is left of the frame is taken at once.
    unfold Transport.write at hsent
    split at hsent
    · cases hsent
    · obtain ⟨rfl, rfl⟩ := Prod.mk.inj (Except.ok.inj hsent)
      have hall : unsent.drop (channel.transport.room unsent.length) = [] := by
        rw [Transport.room, hwindow, List.drop_length]
      rw [hall]
      show channel.readerEffort + 3 * channel.session.outbox.waiting.length + 3 < channel.effort
      rw [effort, heffort]
      omega
  | fail unsent isClose fault hsending =>
    refine hends _ ?_
    rw [hsending, Writer.effort]
    split <;> decide
  | drop since deadline frame rest hawaiting hwaiting hrest =>
    exact hlater channel.writer hwaiting hrest (Nat.lt_add_of_pos_right (by decide))
  | expire since deadline hawaiting =>
    show channel.readerEffort + 3 * channel.session.outbox.waiting.length + 1 < channel.effort
    rw [effort, hawaiting, Writer.effort]
    omega
  | finish transport result hfinishing hlast =>
    have hreader : { channel with transport }.readerEffort = channel.readerEffort := by
      rcases hlast with rfl | rfl <;> rfl
    rw [effort_endWriter, hreader, effort, hfinishing, Writer.effort]
    omega

/-! ### Coming to rest -/

/-- A channel that does not rest can make a step. -/
theorem rests_or_effort_lt (now : Moment) (hwindow : channel.transport.window = none) :
    channel.Rests now ∨
      (∃ wakeup, (channel.after (.read now wakeup)).effort < channel.effort) ∨
      (channel.after (.write now)).effort < channel.effort := by
  cases hwrite : channel.write now with
  | some next =>
    refine .inr (.inr ?_)
    show ((channel.write now).getD channel).effort < channel.effort
    rw [hwrite]
    exact effort_write_lt hwindow hwrite
  | none =>
    by_cases hread : ∀ wakeup, channel.read now wakeup = none
    · exact .inl ⟨hread, hwrite⟩
    · obtain ⟨wakeup, hsome⟩ := not_forall.mp hread
      obtain ⟨⟨next, event⟩, hstep⟩ := Option.ne_none_iff_exists'.mp hsome
      refine .inr (.inl ⟨wakeup, ?_⟩)
      rw [Channel.after, outcome_of_read hstep]
      exact effort_read_lt hstep

/-- Some steps of the reader and of the writer bring a channel to rest. -/
theorem exists_rests (now : Moment) (htakes : channel.transport.TakesAll) :
    ∃ actions : List Action, (∀ action ∈ actions, action.isStep ∧ action.peer? = none) ∧
      (channel.run actions).Rests now := by
  induction heffort : channel.effort using Nat.strongRecOn generalizing channel with
  | ind effort ih =>
    subst heffort
    have hstep (action : Action) (hown : action.isStep ∧ action.peer? = none)
        (hless : (channel.after action).effort < channel.effort) :
        ∃ actions : List Action, (∀ action ∈ actions, action.isStep ∧ action.peer? = none) ∧
          (channel.run actions).Rests now := by
      obtain ⟨actions, hall, hrests⟩ :=
        ih _ hless (takesAll_after htakes hown.1 (by simp [hown.2])) rfl
      exact ⟨action :: actions, List.forall_mem_cons.mpr ⟨hown, hall⟩, hrests⟩
    rcases rests_or_effort_lt now htakes.window with hrests | ⟨wakeup, hless⟩ | hless
    · exact ⟨[], by simp, hrests⟩
    · exact hstep _ ⟨rfl, rfl⟩ hless
    · exact hstep _ ⟨rfl, rfl⟩ hless

end Channel

/-! ### The stream of a channel -/

/-- What is reported of a byte stream that ends like this, with these settings. -/
def Config.trace (config : Config) (bytes : Bytes) (ending : Ending) : List Event :=
  ({ limit := config.limits.message } : Assembler).trace config.limits.frame bytes ending

namespace Channel

/-- What a channel that has just been started has yet to report. -/
theorem follows_ofTransport (config : Config) {ending : Ending} {due : List PeerStep}
    {future : Bytes} {transport : Transport} (htakes : transport.TakesAll)
    (hawaits : Awaits ending transport.source.ending due future)
    (hinbound : ∀ step ∈ due, step.isInbound) (id : SessionId) (path : String) (time : Nat) :
    Follows config.limits.frame ending due
      ((ofTransport transport id path config.limits time).run [.announce, .start])
      (config.trace (transport.source.bytes ++ future) ending) where
  owes := by
    refine .reading [] future ?_ .whole hawaits
    exact {
      reading := rfl
      opened := rfl
      unforced := rfl
      uncancelled := rfl
      writing := .inl rfl
      waiting := fun item hitem => by cases hitem
      sound := fun header hpending => by cases hpending }
  inbound := hinbound
  takesAll := htakes
  attended := by
    have hmade := attended_ofTransport transport id path config time time
    have hannounced := hmade.after .announce trivial
    exact ⟨_, time, hannounced.after .start trivial⟩
  stop := fun hflag => by cases hflag

/-- A channel whose application does nothing and whose peer takes everything reports what
there is in the stream as a whole. -/
theorem events_of_stream (config : Config) (transport : Transport) (id : SessionId)
    (path : String) (time : Nat) (pieces : List Bytes) (ending : Ending) (actions : List Action)
    (htakes : transport.TakesAll) (hopen : transport.source.ending = .unfinished)
    (hsteps : ∀ action ∈ actions, action.isStep)
    (hpeer : actions.filterMap Action.peer? = delivery pieces ending) :
    let channel := (ofTransport transport id path config.limits time).run [.announce, .start]
    let trace := config.trace (transport.source.bytes ++ pieces.flatten) ending
    (channel.events actions).map (·.2) <+: trace ∧
      (∀ now, (channel.run actions).Rests now → (channel.events actions).map (·.2) = trace) ∧
      ∀ now, ∃ more : List Action, (∀ action ∈ more, action.isStep ∧ action.peer? = none) ∧
        (channel.run (actions ++ more)).Rests now ∧
        (channel.events (actions ++ more)).map (·.2) = trace := by
  intro channel trace
  have hfollows : Follows config.limits.frame ending
      (actions.filterMap Action.peer? ++ []) channel trace := by
    rw [List.append_nil, hpeer]
    exact follows_ofTransport config htakes (hopen ▸ .more pieces)
      (fun step => isInbound_of_mem_delivery) id path time
  obtain ⟨left, htrace, hrun⟩ := hfollows.run hsteps
  refine ⟨⟨left, htrace.symm⟩, fun now hrests => ?_, fun now => ?_⟩
  · rw [htrace, hrun.eq_nil_of_rests hrests, List.append_nil]
  · obtain ⟨more, hall, hrests⟩ := exists_rests now hrun.takesAll
    have hnone : more.filterMap Action.peer? = [] :=
      List.filterMap_eq_nil_iff.mpr fun action hmem => (hall action hmem).2
    have hfollows' : Follows config.limits.frame ending (more.filterMap Action.peer? ++ [])
        (channel.run actions) left := by rwa [hnone]
    obtain ⟨left', hleft, hrun'⟩ := hfollows'.run fun action hmem => (hall action hmem).1
    refine ⟨more, hall, by rwa [run_append], ?_⟩
    rw [events_append, List.map_append, htrace, hleft, hrun'.eq_nil_of_rests hrests,
      List.append_nil]

end Channel

end SocketGate
