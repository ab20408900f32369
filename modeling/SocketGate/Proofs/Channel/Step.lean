import SocketGate.Channel.Reader
import SocketGate.Channel.Writer
import SocketGate.Proofs.Session.Traffic

/-!
# `SocketGate.Proofs.Channel.Step`: what one step of a channel can do

`ReadTurn` lists the ways in which a step of the reader can change a channel, and
`WriteTurn` those of the writer. Every theorem about a channel is derived from these two
lists.

* `Channel.read_turn`: the reader queues by the session's own operations and leaves the
  sending side alone, except that it may stop the writer in its last step.
* `Channel.write_turn`: the writer takes one item, or sends some bytes, or ends.
* `Channel.sound_read`: the decoder of a channel stays sound, so the payload of a ping that
  is answered is short.
-/

set_option autoImplicit false

namespace SocketGate

/-- Whether the writer has sent its last byte. -/
def Writer.isSpent : Writer → Bool
  | .idle | .sending .. => false
  | .awaitingShutdown .. | .finishing | .ended _ | .aborted => true

namespace Channel

open Session (Operation)

/-! ### The reader -/

/-- The session goes on by operations that queue and accept no message. The sending side is
left alone. -/
structure Serves (channel next : Channel) (operations : List Operation) : Prop where
  performs : channel.session.Performs next.session operations
  silent : channel.session.accepted operations = []
  writer : next.writer = channel.writer
  sent : next.transport.sent = channel.transport.sent

/-- A step of the reader from `channel` to `next` that reports the event, if there is one. -/
inductive ReadTurn (channel next : Channel) : Option Event → Prop where
  /-- It goes on reading, and may have received a message while the session is open. -/
  | goOn (operations : List Operation) (received : Option Message)
      (serves : channel.Serves next operations)
      (before : channel.reader = .reading) (after : next.reader = .reading)
      (opened : received.isSome → next.session.state = .opened) :
      ReadTurn channel next (received.map .received)
  /-- It leaves the loop, and may report a failure. -/
  | leave (operations : List Operation) (reason : CloseReason) (failure : Option Failure)
      (serves : channel.Serves next operations)
      (before : channel.reader = .reading) (after : next.reader = .leaving reason) :
      ReadTurn channel next (failure.map .failed)
  /-- It marks the session closed and waits for the writer. -/
  | drain (reason : CloseReason) (left : CloseReason) (since : Moment) (deadline : Nat)
      (serves : channel.Serves next [.markClosed])
      (before : channel.reader = .leaving reason)
      (after : next.reader = .draining left since deadline) :
      ReadTurn channel next none
  /-- It reports the close after the writer has ended. -/
  | finish (reason : CloseReason) (since : Moment) (deadline : Nat)
      (result : Except Failure Unit) (serves : channel.Serves next [])
      (before : channel.reader = .draining reason since deadline)
      (after : next.reader = .finished) (ended : channel.writer = .ended result) :
      ReadTurn channel next (some (.closed reason))
  /-- It stops the writer and reports the close. -/
  | abandon (reason : CloseReason) (since : Moment) (deadline : Nat)
      (before : channel.reader = .draining reason since deadline)
      (after : next.reader = .finished)
      (session : next.session = channel.session.run [.detach])
      (sent : next.transport.sent = channel.transport.sent)
      (aborted : next.writer = .aborted) : ReadTurn channel next (some (.closed reason))

namespace Serves

variable {channel next : Channel}

/-- Nothing is done to the session. -/
theorem rest (hsession : next.session = channel.session) (hwriter : next.writer = channel.writer)
    (hsent : next.transport.sent = channel.transport.sent) : channel.Serves next [] where
  performs := hsession ▸ .refl channel.session
  silent := rfl
  writer := hwriter
  sent := hsent

/-- A frame has come in, and nothing else is done. -/
theorem inbound (time : Nat) (data : Bool)
    (hsession : next.session = channel.session.recordInbound time data)
    (hwriter : next.writer = channel.writer)
    (hsent : next.transport.sent = channel.transport.sent) :
    channel.Serves next [.recordInbound time data] where
  performs := hsession ▸ .single channel.session (.recordInbound time data) trivial nofun nofun
  silent := rfl
  writer := hwriter
  sent := hsent

/-- A frame has come in, and one thing is done in answer to it. -/
theorem answer (time : Nat) (data : Bool) (operation : Operation) (hbrief : operation.Brief)
    (htake : operation ≠ .take) (hdetach : operation ≠ .detach)
    (hsilent : ∀ session : Session, session.acceptedBy operation = none)
    (hsession : next.session = (channel.session.recordInbound time data).after operation)
    (hwriter : next.writer = channel.writer)
    (hsent : next.transport.sent = channel.transport.sent) :
    channel.Serves next [.recordInbound time data, operation] where
  performs := by
    have hfirst := Session.Performs.single channel.session (.recordInbound time data) trivial
      nofun nofun
    exact hsession ▸ hfirst.trans (.single _ operation hbrief htake hdetach)
  silent := by
    simp only [Session.accepted, hsilent, Option.toList_none, List.append_nil]
    rfl
  writer := hwriter
  sent := hsent

end Serves

/-- The reason that a violation is answered with fits into a control frame. -/
theorem brief_breakOff (violation : Violation) :
    (Operation.breakOff (CloseReason.of violation.closeCode violation.message)).Brief :=
  CloseReason.length_toPayload_of _ _

/-- The peer broke a rule. -/
theorem rejectPeer_turn (channel : Channel) (violation : Violation)
    (h : channel.reader = .reading) :
    ReadTurn channel (channel.rejectPeer violation).1 (channel.rejectPeer violation).2 :=
  .leave [.breakOff _] _ (some (.protocol violation))
    { performs := .single channel.session (.breakOff _) (brief_breakOff violation) nofun nofun
      silent := rfl
      writer := rfl
      sent := rfl } h rfl

/-- The peer broke a rule by a frame that has been recorded. -/
theorem rejectPeer_turn_of_inbound {channel middle : Channel} (time : Nat) (data : Bool)
    (violation : Violation) (h : channel.reader = .reading)
    (hsession : middle.session = channel.session.recordInbound time data)
    (hwriter : middle.writer = channel.writer)
    (hsent : middle.transport.sent = channel.transport.sent) :
    ReadTurn channel (middle.rejectPeer violation).1 (middle.rejectPeer violation).2 := by
  refine .leave [.recordInbound time data, .breakOff _] _ (some (.protocol violation))
    (.answer time data (.breakOff (CloseReason.of violation.closeCode violation.message))
      (brief_breakOff violation) nofun nofun (fun _ => rfl) ?_ hwriter hsent) h rfl
  rw [← hsession]
  rfl

/-- A close frame came in. -/
theorem receiveClose_turn (channel : Channel) (time : Nat) (payload : Bytes)
    (h : channel.reader = .reading) :
    ReadTurn channel (channel.receiveClose time payload).1
      (channel.receiveClose time payload).2 := by
  unfold receiveClose
  split
  · exact channel.rejectPeer_turn _ h
  · rename_i reason _
    exact .leave [.recordInbound time false, .acknowledgeClose reason] reason none
      (.answer time false (.acknowledgeClose reason) trivial nofun nofun (fun _ => rfl)
        rfl rfl rfl) h rfl

/-- A data frame came in. -/
theorem receiveData_turn (channel : Channel) (time : Nat) (frame : Frame)
    (h : channel.reader = .reading) :
    ReadTurn channel (channel.receiveData time frame).1 (channel.receiveData time frame).2 := by
  unfold receiveData
  dsimp only
  split
  · -- The session is no longer open, and the frame is dropped.
    exact .goOn [.recordInbound time true] none (.inbound time true rfl rfl rfl) h h nofun
  · rename_i hopened
    split
    · -- The assembler meets a violation.
      exact rejectPeer_turn_of_inbound time true _ h rfl rfl rfl
    · rename_i message _
      refine .goOn [.recordInbound time true] message (.inbound time true rfl rfl rfl) h h ?_
      exact fun _ => by simpa using hopened

/-- A frame came in, which has passed the check for control frames. -/
theorem receive_turn (channel : Channel) (time : Nat) (frame : Frame)
    (h : channel.reader = .reading)
    (hcontrol : frame.opcode.isControl → frame.payload.length ≤ maxControlPayload) :
    ReadTurn channel (channel.receive time frame).1 (channel.receive time frame).2 := by
  unfold receive
  split
  · -- The pong has the payload of the ping, so it is as short.
    rename_i hping
    exact .goOn [.recordInbound time false, .answerPing frame.payload] none
      (.answer time false (.answerPing frame.payload) (hcontrol (by rw [hping]; rfl)) nofun nofun
        (fun _ => rfl) rfl rfl rfl) h h nofun
  · exact .goOn [.recordInbound time false] none (.inbound time false rfl rfl rfl) h h nofun
  · exact channel.receiveClose_turn time frame.payload h
  all_goals exact channel.receiveData_turn time frame h

/-- What a step of the reader does depends on the session and the two activities, and not
on what has been read. -/
theorem ReadTurn.of_eq {channel middle next : Channel} {event : Option Event}
    (h : ReadTurn middle next event) (hsession : middle.session = channel.session)
    (hreader : middle.reader = channel.reader) (hwriter : middle.writer = channel.writer)
    (hsent : middle.transport.sent = channel.transport.sent) : ReadTurn channel next event := by
  have hserves : ∀ operations, middle.Serves next operations → channel.Serves next operations :=
    fun operations h => {
      performs := hsession ▸ h.performs
      silent := hsession ▸ h.silent
      writer := h.writer.trans hwriter
      sent := h.sent.trans hsent }
  cases h with
  | goOn operations received serves before after opened =>
    exact .goOn operations received (hserves _ serves) (hreader ▸ before) after opened
  | leave operations reason failure serves before after =>
    exact .leave operations reason failure (hserves _ serves) (hreader ▸ before) after
  | drain reason left since deadline serves before after =>
    exact .drain reason left since deadline (hserves _ serves) (hreader ▸ before) after
  | finish reason since deadline result serves before after ended =>
    exact .finish reason since deadline result (hserves _ serves) (hreader ▸ before) after
      (hwriter ▸ ended)
  | abandon reason since deadline before after session sent aborted =>
    exact .abandon reason since deadline (hreader ▸ before) after (hsession ▸ session)
      (sent.trans hsent) aborted

/-- The source has something to say. -/
theorem readSource_turn {channel next : Channel} {time : Nat} {event : Option Event}
    (hread : channel.readSource time = some (next, event)) (h : channel.reader = .reading)
    (hsound : channel.decoder.Sound) : ReadTurn channel next event := by
  have habsorb : channel.absorb.decoder.Sound := hsound.feed _
  unfold readSource at hread
  dsimp only at hread
  -- A violation, a frame, nothing yet, a failure of the stream, or its end.
  split at hread
  · rename_i violation decoder _
    have hstep := rejectPeer_turn { channel.absorb with decoder } violation h
    rw [Option.some.inj hread] at hstep
    exact hstep.of_eq rfl rfl rfl rfl
  · rename_i frame decoder hnext
    have hstep := receive_turn { channel.absorb with decoder } time frame h
      fun hcontrol => (habsorb.control hnext hcontrol).2
    rw [Option.some.inj hread] at hstep
    exact hstep.of_eq rfl rfl rfl rfl
  · cases hread
  · obtain ⟨rfl, rfl⟩ := Prod.mk.inj (Option.some.inj hread)
    exact .leave [] _ (some _) (.rest rfl rfl rfl) h rfl
  · rename_i decoder _ _
    obtain ⟨rfl, hevent⟩ := Prod.mk.inj (Option.some.inj hread)
    -- Bytes that are left over are a failure, and an end between two frames is none.
    by_cases hempty : decoder.buffer.isEmpty
    · rw [if_pos hempty] at hevent
      subst hevent
      exact .leave [] _ none (.rest rfl rfl rfl) h rfl
    · rw [if_neg hempty] at hevent
      subst hevent
      exact .leave [] _ (some _) (.rest rfl rfl rfl) h rfl

/-- The writer has ended. -/
theorem readWriterEnd_turn {channel next : Channel} {event : Option Event}
    (hread : channel.readWriterEnd = some (next, event)) (h : channel.reader = .reading) :
    ReadTurn channel next event := by
  unfold readWriterEnd at hread
  split at hread
  · obtain ⟨rfl, rfl⟩ := Prod.mk.inj (Option.some.inj hread)
    exact .leave [] _ none (.rest rfl rfl rfl) h rfl
  · obtain ⟨rfl, rfl⟩ := Prod.mk.inj (Option.some.inj hread)
    exact .leave [] _ (some _) (.rest rfl rfl rfl) h rfl
  · cases hread

/-- The wait for the writer is over. -/
theorem endDrain_turn {channel next : Channel} {time deadline : Nat} {since : Moment}
    {reason : CloseReason} {event : Option Event}
    (hread : channel.endDrain time reason deadline = some (next, event))
    (h : channel.reader = .draining reason since deadline) : ReadTurn channel next event := by
  unfold endDrain at hread
  split at hread
  · rename_i result hended
    obtain ⟨rfl, rfl⟩ := Prod.mk.inj (Option.some.inj hread)
    exact .finish reason since deadline result (.rest rfl rfl rfl) h rfl hended
  · split at hread
    · obtain ⟨rfl, rfl⟩ := Prod.mk.inj (Option.some.inj hread)
      exact .abandon reason since deadline h rfl rfl rfl rfl
    · cases hread

/-- Every step of the reader is one of the five. -/
theorem read_turn {channel next : Channel} {now : Moment} {wakeup : Wakeup}
    {event : Option Event} (hread : channel.read now wakeup = some (next, event))
    (hsound : channel.decoder.Sound) : ReadTurn channel next event := by
  unfold read at hread
  -- The first three cases are what a reader in its loop waits for.
  split at hread
  · rename_i h
    split at hread
    · obtain ⟨rfl, rfl⟩ := Prod.mk.inj (Option.some.inj hread)
      exact .leave [] _ none (.rest rfl rfl rfl) h rfl
    · cases hread
  · rename_i h
    exact readWriterEnd_turn hread h
  · rename_i h
    exact readSource_turn hread h hsound
  · rename_i reason h
    obtain ⟨rfl, rfl⟩ := Prod.mk.inj (Option.some.inj hread)
    exact .drain reason _ _ _
      { performs := .single channel.session .markClosed trivial nofun nofun
        silent := rfl
        writer := rfl
        sent := rfl } h rfl
  · rename_i h
    exact endDrain_turn hread h
  · cases hread

/-! ### The decoder -/

/-- What only the source, the writer and the settings have to do with is left alone. -/
structure Undisturbed (channel next : Channel) : Prop where
  decoder : next.decoder = channel.decoder
  transport : next.transport = channel.transport
  closeTimeout : next.closeTimeout = channel.closeTimeout

/-- A frame that comes in leaves it alone. -/
theorem undisturbed_receive (channel : Channel) (time : Nat) (frame : Frame) :
    channel.Undisturbed (channel.receive time frame).1 := by
  have hdata : channel.Undisturbed (channel.receiveData time frame).1 := by
    unfold receiveData
    dsimp only
    split
    · exact ⟨rfl, rfl, rfl⟩
    · split <;> exact ⟨rfl, rfl, rfl⟩
  have hclose : channel.Undisturbed (channel.receiveClose time frame.payload).1 := by
    unfold receiveClose
    split <;> exact ⟨rfl, rfl, rfl⟩
  unfold receive
  split
  · exact ⟨rfl, rfl, rfl⟩
  · exact ⟨rfl, rfl, rfl⟩
  · exact hclose
  all_goals exact hdata

theorem sound_readSource {channel next : Channel} {time : Nat} {event : Option Event}
    (hread : channel.readSource time = some (next, event)) (hsound : channel.decoder.Sound) :
    next.decoder.Sound := by
  have habsorb : channel.absorb.decoder.Sound := hsound.feed _
  have hnext := habsorb.next
  unfold readSource at hread
  dsimp only at hread
  split at hread
  · rename_i heq
    rw [heq] at hnext
    obtain rfl := (Prod.mk.inj (Option.some.inj hread)).1
    exact hnext
  · rename_i frame decoder heq
    rw [heq] at hnext
    have hsame := (undisturbed_receive { channel.absorb with decoder } time frame).decoder
    rw [Option.some.inj hread] at hsame
    exact hsame ▸ hnext
  · cases hread
  all_goals
    rename_i heq
    rw [heq] at hnext
    obtain rfl := (Prod.mk.inj (Option.some.inj hread)).1
    exact hnext

/-- The decoder stays sound in every step of the reader. -/
theorem sound_read {channel next : Channel} {now : Moment} {wakeup : Wakeup}
    {event : Option Event} (hread : channel.read now wakeup = some (next, event))
    (hsound : channel.decoder.Sound) : next.decoder.Sound := by
  unfold read at hread
  split at hread
  · split at hread
    · obtain rfl := (Prod.mk.inj (Option.some.inj hread)).1
      exact hsound
    · cases hread
  · unfold readWriterEnd at hread
    split at hread
    · obtain rfl := (Prod.mk.inj (Option.some.inj hread)).1
      exact hsound
    · obtain rfl := (Prod.mk.inj (Option.some.inj hread)).1
      exact hsound
    · cases hread
  · exact sound_readSource hread hsound
  · obtain rfl := (Prod.mk.inj (Option.some.inj hread)).1
    exact hsound
  · unfold endDrain at hread
    split at hread
    · obtain rfl := (Prod.mk.inj (Option.some.inj hread)).1
      exact hsound
    · split at hread
      · obtain rfl := (Prod.mk.inj (Option.some.inj hread)).1
        exact hsound
      · cases hread
  · cases hread

/-! ### The writer -/

/-- The reading side is left alone. -/
structure KeepsReading (channel next : Channel) : Prop where
  reader : next.reader = channel.reader
  decoder : next.decoder = channel.decoder

/-- A step of the writer from `channel` to `next`. -/
inductive WriteTurn (channel next : Channel) : Prop where
  /-- It takes the next frame. -/
  | take (frame : Frame) (bytes : Bytes) (isClose : Bool) (rest : List Outbound)
      (before : channel.writer = .idle)
      (waiting : channel.session.outbox.waiting = .frame frame :: rest)
      (write : frame.write = .ok bytes) (after : next.writer = .sending bytes isClose)
      (session : next.session = channel.session.run [.take])
      (remaining : next.session.outbox.waiting = rest)
      (sent : next.transport.sent = channel.transport.sent) (keeps : channel.KeepsReading next)
  /-- It sends some bytes of the frame. -/
  | send (bytes unsent : Bytes) (isClose : Bool)
      (before : channel.writer = .sending (bytes ++ unsent) isClose)
      (after : next.writer = .sending unsent isClose)
      (session : next.session = channel.session)
      (sent : next.transport.sent = channel.transport.sent ++ bytes)
      (keeps : channel.KeepsReading next)
  /-- All of the frame has been sent. -/
  | flush (isClose : Bool) (before : channel.writer = .sending [] isClose)
      (after : next.writer = .idle) (session : next.session = channel.session)
      (sent : next.transport.sent = channel.transport.sent) (keeps : channel.KeepsReading next)
  /-- It sends nothing from now on. -/
  | retire (operations : List Operation)
      (writers : ∀ operation ∈ operations, operation.isWriters)
      (after : next.writer.isSpent) (session : next.session = channel.session.run operations)
      (sent : next.transport.sent = channel.transport.sent) (keeps : channel.KeepsReading next)

/-- The item that is taken waits in front. -/
theorem takeItem_eq_some {channel after : Channel} {item : Outbound}
    (h : channel.takeItem = some (item, after)) :
    ∃ rest, channel.session.outbox.waiting = item :: rest ∧
      after = { channel with session := channel.session.after .take } ∧
      after.session.outbox.waiting = rest := by
  unfold takeItem at h
  cases hwaiting : channel.session.outbox.waiting with
  | nil => simp [Outbox.take?, hwaiting] at h
  | cons first rest =>
    simp only [Outbox.take?, hwaiting, Option.map_some, Option.some.injEq, Prod.mk.injEq] at h
    obtain ⟨rfl, rfl⟩ := h
    exact ⟨rest, rfl, by simp [Session.after, Outbox.take?, hwaiting], rfl⟩

/-- The writer ends without a further word to its transport. -/
theorem endWriter_turn (channel middle : Channel) (operations : List Operation)
    (result : Except Failure Unit) (hwriters : ∀ operation ∈ operations, operation.isWriters)
    (hsession : middle.session = channel.session.run operations)
    (hsent : middle.transport.sent = channel.transport.sent)
    (hkeeps : channel.KeepsReading middle) : WriteTurn channel (middle.endWriter result) := by
  refine .retire (operations ++ [.detach]) ?_ rfl ?_ hsent ⟨hkeeps.reader, hkeeps.decoder⟩
  · intro operation hoperation
    rcases List.mem_append.mp hoperation with h | h
    · exact hwriters operation h
    · rw [List.mem_singleton.mp h]
      rfl
  · rw [Session.run_append, ← hsession]
    rfl

/-- The writer looks for the next item. -/
theorem writeNext_turn {channel next : Channel} (hwrite : channel.writeNext = some next)
    (h : channel.writer = .idle) : WriteTurn channel next := by
  unfold writeNext at hwrite
  split at hwrite
  · cases hwrite
  · -- The request to shut down is taken.
    rename_i htake
    obtain ⟨rest, -, rfl, -⟩ := takeItem_eq_some htake
    obtain rfl := Option.some.inj hwrite
    exact .retire [.take] (by simp [Operation.isWriters]) rfl rfl rfl ⟨rfl, rfl⟩
  · rename_i frame after htake
    obtain ⟨rest, hwaiting, rfl, hrest⟩ := takeItem_eq_some htake
    split at hwrite
    · -- The frame cannot be written, and the writer ends with this failure.
      obtain rfl := Option.some.inj hwrite
      exact endWriter_turn channel _ [.take] _ (by simp [Operation.isWriters]) rfl rfl ⟨rfl, rfl⟩
    · rename_i bytes hbytes
      obtain rfl := Option.some.inj hwrite
      exact .take frame bytes _ rest h hwaiting hbytes rfl rfl hrest rfl ⟨rfl, rfl⟩

/-- The writer goes on with a frame. -/
theorem writeFrame_turn {channel next : Channel} {now : Moment} {unsent : Bytes}
    {isClose : Bool} (hwrite : channel.writeFrame now unsent isClose = some next)
    (h : channel.writer = .sending unsent isClose) : WriteTurn channel next := by
  unfold writeFrame at hwrite
  split at hwrite
  · -- All of the frame is out, and it is flushed. After a close frame nothing else is sent.
    rename_i hempty
    split at hwrite
    · obtain rfl := Option.some.inj hwrite
      exact endWriter_turn channel channel [] _ (by simp) rfl rfl ⟨rfl, rfl⟩
    · obtain rfl := Option.some.inj hwrite
      rw [List.isEmpty_iff.mp hempty] at h
      cases isClose with
      | false => exact .flush false h rfl rfl rfl ⟨rfl, rfl⟩
      | true => exact .retire [] (by simp) rfl rfl rfl ⟨rfl, rfl⟩
  · split at hwrite
    · cases hwrite
    · split at hwrite
      · obtain rfl := Option.some.inj hwrite
        exact endWriter_turn channel channel [] _ (by simp) rfl rfl ⟨rfl, rfl⟩
      · rename_i left transport htransport
        obtain rfl := Option.some.inj hwrite
        -- The window takes the first bytes, and the others are left.
        unfold Transport.write at htransport
        split at htransport
        · cases htransport
        · obtain ⟨rfl, rfl⟩ := Prod.mk.inj (Except.ok.inj htransport)
          refine .send _ _ isClose ?_ rfl rfl rfl ⟨rfl, rfl⟩
          rw [h, List.take_append_drop]

/-- The writer waits for the request to shut down. -/
theorem awaitShutdown_turn {channel next : Channel} {time deadline : Nat} {since : Moment}
    (hwrite : channel.awaitShutdown time deadline = some next)
    (h : channel.writer = .awaitingShutdown since deadline) : WriteTurn channel next := by
  unfold awaitShutdown at hwrite
  split at hwrite
  · rename_i htake
    obtain ⟨rest, -, rfl, -⟩ := takeItem_eq_some htake
    obtain rfl := Option.some.inj hwrite
    exact .retire [.take] (by simp [Operation.isWriters]) rfl rfl rfl ⟨rfl, rfl⟩
  · -- Another item is dropped, and the writer goes on waiting.
    rename_i htake
    obtain ⟨rest, -, rfl, -⟩ := takeItem_eq_some htake
    obtain rfl := Option.some.inj hwrite
    exact .retire [.take] (by simp [Operation.isWriters]) (by simp [h, Writer.isSpent]) rfl rfl
      ⟨rfl, rfl⟩
  · split at hwrite
    · obtain rfl := Option.some.inj hwrite
      exact .retire [.cancel] (by simp [Operation.isWriters]) rfl rfl rfl ⟨rfl, rfl⟩
    · cases hwrite

/-- The writer flushes and shuts the sending side down. -/
theorem finishWriting_turn (channel : Channel) : WriteTurn channel channel.finishWriting := by
  unfold finishWriting
  split
  · exact endWriter_turn channel channel [] _ (by simp) rfl rfl ⟨rfl, rfl⟩
  · exact endWriter_turn channel _ [] _ (by simp) rfl rfl ⟨rfl, rfl⟩

/-- Every step of the writer is one of the four. -/
theorem write_turn {channel next : Channel} {now : Moment}
    (hwrite : channel.write now = some next) : WriteTurn channel next := by
  unfold write at hwrite
  split at hwrite
  · rename_i h
    exact writeNext_turn hwrite h
  · rename_i h
    exact writeFrame_turn hwrite h
  · rename_i h
    exact awaitShutdown_turn hwrite h
  · obtain rfl := Option.some.inj hwrite
    exact channel.finishWriting_turn
  · cases hwrite
  · cases hwrite

end Channel

end SocketGate
