import SocketGate.Proofs.Channel.Exit

/-!
# `SocketGate.Proofs.Channel.Inversion`: the steps of a reader and of a writer

`ReadStep` lists the steps of a reader, and `WriteStep` those of a writer, each with what it
needs and with the channel after it. What only some parts of a channel have to do with is proved
by going through these lists.

* `Channel.readStep_of_read`: every step of a reader is in its list.
* `Channel.writeStep_of_write`: every step of a writer is in its list.
-/

set_option autoImplicit false

namespace SocketGate.Channel

variable {channel next : Channel} {now : Moment}

/-! ### The reader -/

/-- A step of the reader, in this wakeup and with this report. -/
inductive ReadStep (channel : Channel) (now : Moment) :
    Wakeup → Channel → Option Event → Prop where
  /-- Reading has to stop, or the writer has ended. -/
  | lost (wakeup : Wakeup) (reason : CloseReason) (event : Option Event)
      (reading : channel.reader = .reading) :
      ReadStep channel now wakeup (channel.leave reason event).1 event
  /-- What comes in is no frame. -/
  | violation (violation : Violation) (reading : channel.reader = .reading)
      (incoming : channel.incoming = .error violation) :
      ReadStep channel now .inbound (channel.fetch.rejectPeer violation).1
        (channel.fetch.rejectPeer violation).2
  /-- A frame comes in. -/
  | frame (frame : Frame) (reading : channel.reader = .reading)
      (incoming : channel.incoming = .ok (some frame)) :
      ReadStep channel now .inbound (channel.fetch.receive now.time frame).1
        (channel.fetch.receive now.time frame).2
  /-- Nothing more will come. -/
  | exhausted (event : Option Event) (reading : channel.reader = .reading)
      (incoming : channel.incoming = .ok none) :
      ReadStep channel now .inbound (channel.fetch.leave CloseReason.abnormal event).1 event
  /-- The loop has been left. -/
  | drain (reason : CloseReason) (left : channel.reader = .leaving reason) :
      ReadStep channel now .wrapUp (channel.beginDrain now reason).1 none
  /-- The writer has ended in time. -/
  | finish (reason : CloseReason) (since : Moment) (deadline : Nat)
      (result : Except Failure Unit) (draining : channel.reader = .draining reason since deadline)
      (ended : channel.writer = .ended result) :
      ReadStep channel now .wrapUp { channel with reader := .finished } (some (.closed reason))
  /-- The writer is stopped. -/
  | abandon (reason : CloseReason) (since : Moment) (deadline : Nat)
      (draining : channel.reader = .draining reason since deadline)
      (due : deadline ≤ now.time) :
      ReadStep channel now .wrapUp
        { channel with
          session := { channel.session with outbox := channel.session.outbox.detach }
          writer := .aborted
          reader := .finished }
        (some (.closed reason))

theorem readStep_of_readSource {event : Option Event} (hreading : channel.reader = .reading)
    (hread : channel.readSource now.time = some (next, event)) :
    ReadStep channel now .inbound next event := by
  cases hincoming : channel.incoming with
  | error violation =>
    rw [readSource_of_violation hincoming] at hread
    cases hread
    exact .violation violation hreading hincoming
  | ok found =>
    cases found with
    | some frame =>
      rw [readSource_of_frame hincoming] at hread
      have hstep := Option.some.inj hread
      obtain rfl : (channel.fetch.receive now.time frame).1 = next := congrArg (·.1) hstep
      obtain rfl : (channel.fetch.receive now.time frame).2 = event := congrArg (·.2) hstep
      exact .frame frame hreading hincoming
    | none =>
      rcases readSource_of_none hincoming now.time with ⟨-, hnone⟩ | ⟨-, event', hleave⟩
      · simp [hnone] at hread
      · rw [hleave] at hread
        cases hread
        exact .exhausted event hreading hincoming

/-- Every step of the reader is one of these. -/
theorem readStep_of_read {wakeup : Wakeup} {event : Option Event}
    (hread : channel.read now wakeup = some (next, event)) :
    ReadStep channel now wakeup next event := by
  unfold read at hread
  split at hread
  · rename_i hreading
    split at hread <;> cases hread
    exact .lost _ _ none hreading
  · rename_i hreading
    unfold readWriterEnd at hread
    split at hread <;> cases hread
    · exact .lost _ _ none hreading
    · exact .lost _ _ (some _) hreading
  · rename_i hreading
    exact readStep_of_readSource hreading hread
  · rename_i reason hleft
    cases hread
    exact .drain reason hleft
  · rename_i reason since deadline hdraining
    unfold endDrain at hread
    split at hread
    · rename_i result hended
      cases hread
      exact .finish reason since deadline result hdraining hended
    · split at hread <;> cases hread
      rename_i hdue
      exact .abandon reason since deadline hdraining hdue
  · cases hread

/-! ### The writer -/

/-- The channel when an item has been taken off its outbox. -/
def taken (channel : Channel) : Channel :=
  { channel with session := channel.session.after .take }

/-- A step of the writer. -/
inductive WriteStep (channel : Channel) (now : Moment) : Channel → Prop where
  /-- It takes the request to shut down. -/
  | stop (rest : List Outbound)
      (waits : channel.writer = .idle ∨ ∃ since deadline,
        channel.writer = .awaitingShutdown since deadline)
      (waiting : channel.session.outbox.waiting = .shutdown :: rest)
      (remaining : channel.taken.session.outbox.waiting = rest) :
      WriteStep channel now { channel.taken with writer := .finishing }
  /-- It takes a frame. -/
  | take (frame : Frame) (rest : List Outbound) (bytes : Bytes) (idle : channel.writer = .idle)
      (waiting : channel.session.outbox.waiting = .frame frame :: rest)
      (remaining : channel.taken.session.outbox.waiting = rest)
      (write : frame.write = .ok bytes) :
      WriteStep channel now
        { channel.taken with writer := .sending bytes (frame.opcode = .close) }
  /-- It takes a frame that cannot be written. -/
  | refuse (frame : Frame) (rest : List Outbound) (violation : Violation)
      (idle : channel.writer = .idle)
      (waiting : channel.session.outbox.waiting = .frame frame :: rest)
      (remaining : channel.taken.session.outbox.waiting = rest)
      (write : frame.write = .error violation) :
      WriteStep channel now (channel.taken.endWriter (.error (.protocol violation)))
  /-- All of a frame has been sent. -/
  | flush (isClose : Bool) (sending : channel.writer = .sending [] isClose)
      (flush : channel.transport.flushFault = none) :
      WriteStep channel now
        { channel with
          writer := if isClose then .awaitingShutdown now (now.time + channel.closeTimeout)
            else .idle }
  /-- It sends what it can of a frame. -/
  | send (unsent rest : Bytes) (isClose : Bool) (transport : Transport)
      (sending : channel.writer = .sending unsent isClose) (more : unsent ≠ [])
      (write : channel.transport.write unsent = .ok (rest, transport)) :
      WriteStep channel now { channel with transport, writer := .sending rest isClose }
  /-- A frame cannot be sent or flushed. -/
  | fail (unsent : Bytes) (isClose : Bool) (fault : IoFault)
      (sending : channel.writer = .sending unsent isClose)
      (failed : channel.transport.writeFault = some fault ∨
        channel.transport.flushFault = some fault) :
      WriteStep channel now (channel.endWriter (.error (.io fault)))
  /-- It drops a frame that comes after the close frame. -/
  | drop (since : Moment) (deadline : Nat) (frame : Frame) (rest : List Outbound)
      (awaiting : channel.writer = .awaitingShutdown since deadline)
      (waiting : channel.session.outbox.waiting = .frame frame :: rest)
      (remaining : channel.taken.session.outbox.waiting = rest) :
      WriteStep channel now channel.taken
  /-- The peer has not answered the close frame in time. -/
  | expire (since : Moment) (deadline : Nat)
      (awaiting : channel.writer = .awaitingShutdown since deadline)
      (due : deadline ≤ now.time) :
      WriteStep channel now
        { channel with
          session := { channel.session with cancelled := true }
          writer := .finishing }
  /-- It ends, after the sending side has been shut down unless it could not be flushed. -/
  | finish (transport : Transport) (result : Except Failure Unit)
      (finishing : channel.writer = .finishing)
      (last : transport = channel.transport ∨ transport = channel.transport.shutdown.2) :
      WriteStep channel now ({ channel with transport }.endWriter result)

/-- Every step of the writer is one of these. -/
theorem writeStep_of_write (hwrite : channel.write now = some next) :
    WriteStep channel now next := by
  unfold write at hwrite
  split at hwrite
  · rename_i hidle
    unfold writeNext at hwrite
    split at hwrite
    · cases hwrite
    · rename_i htake
      obtain ⟨rest, hwaiting, rfl, hrest⟩ := takeItem_eq_some htake
      cases hwrite
      exact .stop rest (.inl hidle) hwaiting hrest
    · rename_i frame after htake
      obtain ⟨rest, hwaiting, rfl, hrest⟩ := takeItem_eq_some htake
      split at hwrite
      · rename_i violation hviolation
        cases hwrite
        exact .refuse frame rest violation hidle hwaiting hrest hviolation
      · rename_i bytes hbytes
        cases hwrite
        exact .take frame rest bytes hidle hwaiting hrest hbytes
  · rename_i unsent isClose hsending
    unfold writeFrame at hwrite
    split at hwrite
    · rename_i hempty
      obtain rfl := List.isEmpty_iff.mp hempty
      unfold Transport.flush at hwrite
      cases hflush : channel.transport.flushFault with
      | some fault =>
        simp only [hflush] at hwrite
        cases hwrite
        exact .fail [] isClose fault hsending (.inr hflush)
      | none =>
        simp only [hflush] at hwrite
        cases hwrite
        exact .flush isClose hsending hflush
    · rename_i hmore
      split at hwrite
      · cases hwrite
      · split at hwrite
        · rename_i fault hfault
          cases hwrite
          unfold Transport.write at hfault
          split at hfault
          · rename_i hfailed
            cases hfault
            exact .fail unsent isClose fault hsending (.inl hfailed)
          · cases hfault
        · rename_i rest transport hrest
          cases hwrite
          exact .send unsent rest isClose transport hsending (by simpa using hmore) hrest
  · rename_i since deadline hawaiting
    unfold awaitShutdown at hwrite
    split at hwrite
    · rename_i htake
      obtain ⟨rest, hwaiting, rfl, hrest⟩ := takeItem_eq_some htake
      cases hwrite
      exact .stop rest (.inr ⟨since, deadline, hawaiting⟩) hwaiting hrest
    · rename_i frame after htake
      obtain ⟨rest, hwaiting, rfl, hrest⟩ := takeItem_eq_some htake
      cases hwrite
      exact .drop since deadline frame rest hawaiting hwaiting hrest
    · split at hwrite <;> cases hwrite
      rename_i hdue
      exact .expire since deadline hawaiting hdue
  · rename_i hfinishing
    cases hwrite
    unfold finishWriting
    split
    · exact .finish channel.transport _ hfinishing (.inl rfl)
    · exact .finish channel.transport.shutdown.2 _ hfinishing (.inr rfl)
  · cases hwrite
  · cases hwrite

end SocketGate.Channel
