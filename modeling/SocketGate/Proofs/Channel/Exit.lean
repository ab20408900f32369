import SocketGate.Proofs.Channel.Step
import SocketGate.Proofs.Frame.Violation
import SocketGate.Proofs.Session.Discipline

/-!
# `SocketGate.Proofs.Channel.Exit`: what ends the loop of a reader

A reader leaves its loop on a close frame, on a violation of the protocol, or because the
connection is lost: the stream has ended or failed, the writer has ended, or reading was
cancelled. `Channel.Meets` says which of them a reader meets in a wakeup. It looks at the
channel only, and not at what the reader does about it. `Channel.Leaves` says that: the
reason it leaves with, and how the session is told.

* `Channel.read_of_meets` and `Channel.read_cases`: a reader leaves its loop exactly when it
  meets one of them, and then in the way that `Leaves` says.
* `Channel.Reads`: what all steps of a reader in its loop have in common.
* `Session.close_mem_added_leave`: the close frame that a session adds when it is left.
-/

set_option autoImplicit false

namespace SocketGate

/-- What the loop of a reader ends on. -/
inductive Exit where
  /-- A close frame of the peer with this payload, which says this. -/
  | closeFrame (payload : Bytes) (reason : CloseReason)
  /-- The peer broke a rule. -/
  | broken (violation : Violation)
  /-- The stream or the writer has ended or failed, or reading was cancelled. -/
  | lost

/-- The reason of the close, unless the session was closed by force. -/
def Exit.reason : Exit → CloseReason
  | .closeFrame _ reason => reason
  | .broken violation => violation.closeReason
  | .lost => CloseReason.abnormal

namespace Session

/-! ### What the reader does to the session -/

/-- Whether an operation is one of a reader in its loop. -/
def Operation.isReaders : Operation → Bool
  | .recordInbound .. | .answerPing _ | .acknowledgeClose _ | .breakOff _ => true
  | _ => false

/-- Between `session` and `next` nothing was closed by force, and the connection did not
end. -/
structure Steady (session next : Session) : Prop where
  forcedReason : next.forcedReason = session.forcedReason
  alive : session.state ≠ .closed → next.state ≠ .closed

namespace Steady

variable {session middle next : Session}

/-- The state stays. -/
theorem of_eq (hreason : next.forcedReason = session.forcedReason)
    (hstate : next.state = session.state) : session.Steady next :=
  ⟨hreason, fun halive => hstate ▸ halive⟩

/-- The closing handshake begins, or it goes on. -/
theorem of_closing (hreason : next.forcedReason = session.forcedReason)
    (hstate : next.state = .closing) : session.Steady next :=
  ⟨hreason, fun _ hclosed => by simp [hstate] at hclosed⟩

theorem refl (session : Session) : session.Steady session :=
  .of_eq rfl rfl

theorem trans (h : session.Steady middle) (h' : middle.Steady next) : session.Steady next :=
  ⟨h'.forcedReason.trans h.forcedReason, h'.alive ∘ h.alive⟩

end Steady

/-- Only a forced close and the end of the connection make a difference. -/
theorem steady_after (session : Session) (operation : Operation)
    (hforce : ∀ reason, operation ≠ .forceClose reason) (hmark : operation ≠ .markClosed) :
    session.Steady (session.after operation) := by
  have hoffer : ∀ frames, session.Steady (session.offer frames).2 := by
    intro frames
    obtain ⟨refusal, h⟩ | ⟨-, -, -, h⟩ := session.offer_cases frames
    all_goals
      rw [h]
      exact .of_eq rfl rfl
  have hstop : ∀ session : Session, session.Steady session.queueShutdown := by
    intro session
    unfold queueShutdown
    split <;> exact .of_eq rfl rfl
  have hclosing : ∀ reason, session.Steady
      ({ session with state := .closing }.putClose reason).queueShutdown := by
    intro reason
    have hput : session.Steady ({ session with state := .closing }.putClose reason) :=
      .of_closing rfl rfl
    exact hput.trans (hstop _)
  cases operation with
  | announce =>
    show session.Steady session.announce
    unfold announce
    split
    · exact ⟨rfl, fun _ => nofun⟩
    · exact .refl session
  | call call =>
    cases call with
    | send message => exact hoffer _
    | ping => exact hoffer _
    | close code text =>
      show session.Steady (session.close code text)
      unfold close
      split
      · exact .refl session
      · exact .of_closing rfl rfl
  | keepalive payload =>
    show session.Steady (session.keepalive payload).2
    unfold keepalive
    split
    · exact .refl session
    · split <;> exact .of_eq rfl rfl
  | recordInbound time data => exact .of_eq rfl rfl
  | answerPing payload => exact hoffer _
  | acknowledgeClose reason =>
    show session.Steady (session.acknowledgeClose reason)
    unfold acknowledgeClose
    split
    · exact hclosing _
    · exact hclosing _
    · exact hstop session
    · exact .refl session
  | breakOff reason =>
    show session.Steady (session.breakOff reason)
    have hmiddle : session.Steady
        (if session.state.isWritable then session.putClose reason else session) := by
      split <;> exact .of_eq rfl rfl
    unfold breakOff
    generalize (if session.state.isWritable then session.putClose reason else session) = middle
      at hmiddle ⊢
    dsimp only
    split
    · exact hmiddle
    · have hstate : middle.Steady { middle with state := .closing } := .of_closing rfl rfl
      exact (hmiddle.trans hstate).trans (hstop _)
  | forceClose reason => exact absurd rfl (hforce reason)
  | markClosed => exact absurd rfl hmark
  | cancel => exact .of_eq rfl rfl
  | take => exact .of_eq rfl rfl
  | detach => exact .of_eq rfl rfl

theorem steady_run (session : Session) (operations : List Operation)
    (h : ∀ operation ∈ operations, operation.isReaders ∨ operation.isWriters) :
    session.Steady (session.run operations) := by
  induction operations generalizing session with
  | nil => exact .refl session
  | cons operation operations ih =>
    have hfirst := h operation List.mem_cons_self
    refine (session.steady_after operation (fun reason heq => ?_) fun heq => ?_).trans
      (ih _ fun other hother => h other (List.mem_cons_of_mem operation hother))
    · rw [heq] at hfirst
      rcases hfirst with hreader | hwriter
      · cases hreader
      · cases hwriter
    · rw [heq] at hfirst
      rcases hfirst with hreader | hwriter
      · cases hreader
      · cases hwriter

/-- A session that is told what the loop has ended on. -/
def leave (session : Session) : Exit → Session
  | .closeFrame _ reason => session.acknowledgeClose reason
  | .broken violation => session.breakOff violation.closeReason
  | .lost => session

/-- A session that is writable and has a writer queues the close frame of what it is told:
the whole violation, or the code of the peer. -/
theorem close_mem_added_leave {limit : Nat} {session : Session} {ledger : Ledger}
    (h : Disciplined limit session ledger) (hwritable : session.state.isWritable)
    (hattached : session.outbox.attached) :
    (∀ violation, .frame (Frame.close (Violation.closeReason violation)) ∈
      session.outbox.added (session.leave (.broken violation)).outbox) ∧
    ∀ payload reason, .frame (Frame.close (CloseReason.of reason.code "")) ∈
      session.outbox.added (session.leave (.closeFrame payload reason)).outbox := by
  have hlength := h.length_of_writable hwritable
  -- The first free place is the one for the close frame.
  have hroom (reason : CloseReason) : .frame (Frame.close reason) ∈ session.outbox.added
      ({ session with state := .closing }.putClose reason).queueShutdown.outbox := by
    have hput : session.outbox.put (.frame (Frame.close reason)) =
        session.outbox.append [.frame (Frame.close reason)] := by
      rw [Outbox.put_eq, Outbox.admitted_eq _ _ hattached (by unfold Outbox.headroom; omega)]
    unfold queueShutdown putClose
    dsimp only
    rw [hput]
    split
    · simp
    · rw [Outbox.put_eq, Outbox.append_append, Outbox.added_append]
      simp
  constructor
  · intro violation
    rw [leave, session.breakOff_of_writable _ hwritable]
    exact hroom _
  · intro payload reason
    rw [leave, session.acknowledgeClose_of_writable _ hwritable]
    exact hroom _

end Session

namespace Channel

open Session (Operation)

/-- The limits of a channel are numbers of 64 bits, and what it holds is within them. -/
structure Bounded (channel : Channel) : Prop where
  decoder : channel.decoder.Bounded
  assembler : channel.assembler.Bounded

/-- What is at the front of what has come in. -/
def incoming (channel : Channel) : Except Violation (Option Frame) :=
  (channel.decoder.feed channel.transport.source.bytes).next.1

/-- The channel after the front of what has come in has been taken. -/
def fetch (channel : Channel) : Channel :=
  { channel.absorb with decoder := channel.absorb.decoder.next.2 }

/-- What ends the loop is there for a reader that is woken up like this. -/
inductive Meets (channel : Channel) : Wakeup → Exit → Prop where
  | cancelled (cancelled : channel.session.cancelled) : Meets channel .cancelled .lost
  | writerEnded (result : Except Failure Unit) (ended : channel.writer = .ended result) :
      Meets channel .writerEnded .lost
  | closeFrame (frame : Frame) (reason : CloseReason)
      (incoming : channel.incoming = .ok (some frame)) (opcode : frame.opcode = .close)
      (parsed : CloseReason.ofPayload? frame.payload = .ok reason) :
      Meets channel .inbound (.closeFrame frame.payload reason)
  /-- A frame cannot be read. -/
  | badFrame (violation : Violation) (incoming : channel.incoming = .error violation) :
      Meets channel .inbound (.broken violation)
  /-- A close frame has no readable reason. -/
  | badClose (frame : Frame) (violation : Violation)
      (incoming : channel.incoming = .ok (some frame)) (opcode : frame.opcode = .close)
      (parsed : CloseReason.ofPayload? frame.payload = .error violation) :
      Meets channel .inbound (.broken violation)
  /-- A data frame fits no message. -/
  | badData (frame : Frame) (violation : Violation)
      (incoming : channel.incoming = .ok (some frame)) (data : frame.opcode.isControl = false)
      (opened : channel.session.state = .opened)
      (pushed : (channel.assembler.push frame).1 = .error violation) :
      Meets channel .inbound (.broken violation)
  /-- No frame is there, and none will come. -/
  | exhausted (incoming : channel.incoming = .ok none)
      (ending : channel.transport.source.ending ≠ .unfinished) : Meets channel .inbound .lost

/-- The reader of `channel` has left its loop on `exit`. -/
structure Leaves (channel next : Channel) (exit : Exit) : Prop where
  /-- The reason it leaves with, unless the session was closed by force. -/
  reader : ∃ reason, next.reader = .leaving reason ∧
    (channel.session.forcedReason = none → reason = exit.reason)
  /-- The session is told, after the frame has been recorded if there was one. -/
  session : ∃ noted, (noted = channel.session ∨
      ∃ time data, noted = channel.session.recordInbound time data) ∧
    next.session = noted.leave exit

/-! ### The source -/

section
variable {channel : Channel} {violation : Violation} {frame : Frame}

/-- A reader finds a violation. -/
theorem readSource_of_violation (h : channel.incoming = .error violation) (time : Nat) :
    channel.readSource time = some (channel.fetch.rejectPeer violation) := by
  have hnext : channel.absorb.decoder.next = (.error violation, channel.fetch.decoder) :=
    Prod.ext h rfl
  unfold readSource
  dsimp only
  rw [hnext]
  rfl

/-- A reader finds a frame. -/
theorem readSource_of_frame (h : channel.incoming = .ok (some frame)) (time : Nat) :
    channel.readSource time = some (channel.fetch.receive time frame) := by
  have hnext : channel.absorb.decoder.next = (.ok (some frame), channel.fetch.decoder) :=
    Prod.ext h rfl
  unfold readSource
  dsimp only
  rw [hnext]
  rfl

/-- A reader finds nothing, and it waits unless nothing will come. -/
theorem readSource_of_none (h : channel.incoming = .ok none) (time : Nat) :
    (channel.transport.source.ending = .unfinished ∧ channel.readSource time = none) ∨
    (channel.transport.source.ending ≠ .unfinished ∧ ∃ event,
      channel.readSource time = some (channel.fetch.leave CloseReason.abnormal event)) := by
  have hnext : channel.absorb.decoder.next = (.ok none, channel.fetch.decoder) :=
    Prod.ext h rfl
  have hsame : channel.absorb.transport.source.ending = channel.transport.source.ending := rfl
  unfold readSource
  dsimp only
  rw [hnext, hsame]
  cases hcase : channel.transport.source.ending with
  | unfinished => exact .inl ⟨rfl, rfl⟩
  | failed fault => exact .inr ⟨nofun, _, rfl⟩
  | ended => exact .inr ⟨nofun, _, rfl⟩

/-- An open session has received a data frame that fits no message. -/
theorem receive_of_badData (channel : Channel) (hdata : frame.opcode.isControl = false)
    (hopened : channel.session.state = .opened)
    (hpushed : (channel.assembler.push frame).1 = .error violation) (time : Nat) :
    ∃ middle : Channel, middle.session = channel.session.recordInbound time true ∧
      channel.receive time frame = middle.rejectPeer violation := by
  have hpush : channel.assembler.push frame =
      (.error violation, (channel.assembler.push frame).2) := Prod.ext hpushed rfl
  have hopen : ¬ (channel.session.recordInbound time true).state ≠ .opened := fun h => h hopened
  have hreceive : channel.receive time frame = channel.receiveData time frame := by
    unfold receive
    cases hopcode : frame.opcode <;> simp [hopcode, Opcode.isControl] at hdata ⊢
  refine ⟨{ channel with
    session := channel.session.recordInbound time true
    assembler := (channel.assembler.push frame).2 }, rfl, ?_⟩
  rw [hreceive]
  unfold receiveData
  dsimp only
  rw [if_neg hopen, hpush]

/-- A violation is answered with its whole wording. -/
theorem leaves_rejectPeer {middle : Channel} (hbounded : violation.Bounded)
    (hnoted : middle.session = channel.session ∨
      ∃ time data, middle.session = channel.session.recordInbound time data) :
    channel.Leaves (middle.rejectPeer violation).1 (.broken violation) := by
  have hreason := Violation.closeReason_eq hbounded
  refine ⟨⟨_, rfl, fun _ => hreason⟩, middle.session, hnoted, ?_⟩
  show middle.session.breakOff _ = middle.session.breakOff _
  rw [hreason]

/-- A reader that meets what ends its loop leaves it. -/
theorem read_of_meets {wakeup : Wakeup} {exit : Exit} (h : channel.Meets wakeup exit)
    (hreading : channel.reader = .reading) (hbounded : channel.Bounded) (now : Moment) :
    ∃ next event, channel.read now wakeup = some (next, event) ∧ channel.Leaves next exit := by
  -- Where nothing is said to the session, the reader leaves with the reason of a lost connection.
  have hlost (next : Channel) (reason : CloseReason) (hreader : next.reader = .leaving reason)
      (hreason : reason = channel.lossReason ∨ reason = CloseReason.abnormal)
      (hsession : next.session = channel.session) : channel.Leaves next .lost := by
    refine ⟨⟨reason, hreader, fun hforced => ?_⟩, channel.session, .inl rfl, hsession⟩
    rcases hreason with rfl | rfl
    · rw [lossReason, hforced]
      rfl
    · rfl
  have hfed := hbounded.decoder.feed channel.transport.source.bytes
  have hframe (frame : Frame) (hincoming : channel.incoming = .ok (some frame)) :
      frame.payload.length < 2 ^ 64 := hfed.next.2 frame hincoming
  unfold read
  rw [hreading]
  cases h with
  | cancelled hcancelled =>
    dsimp only
    rw [if_pos hcancelled]
    exact ⟨_, _, rfl, hlost _ _ rfl (.inl rfl) rfl⟩
  | writerEnded result hended =>
    dsimp only [readWriterEnd]
    rw [hended]
    cases result with
    | ok _ => exact ⟨_, _, rfl, hlost _ _ rfl (.inl rfl) rfl⟩
    | error failure => exact ⟨_, _, rfl, hlost _ _ rfl (.inr rfl) rfl⟩
  | closeFrame frame reason hincoming hopcode hparsed =>
    have hread := readSource_of_frame hincoming now.time
    simp only [receive, hopcode, receiveClose, hparsed] at hread
    exact ⟨_, _, hread, ⟨reason, rfl, fun _ => rfl⟩,
      channel.session.recordInbound now.time false, .inr ⟨_, _, rfl⟩, rfl⟩
  | badFrame violation hincoming =>
    have hread := readSource_of_violation hincoming now.time
    exact ⟨_, _, hread, leaves_rejectPeer (hfed.violation hincoming) (.inl rfl)⟩
  | badClose frame violation hincoming hopcode hparsed =>
    have hread := readSource_of_frame hincoming now.time
    simp only [receive, hopcode, receiveClose, hparsed] at hread
    obtain rfl := CloseReason.eq_invalidClose_of_ofPayload? hparsed
    exact ⟨_, _, hread, leaves_rejectPeer trivial (.inl rfl)⟩
  | badData frame violation hincoming hdata hopened hpushed =>
    have hread := readSource_of_frame hincoming now.time
    obtain ⟨middle, hsession, hreceive⟩ :=
      channel.fetch.receive_of_badData hdata hopened hpushed now.time
    rw [hreceive] at hread
    have hpush := hbounded.assembler.push frame (hframe frame hincoming)
    exact ⟨_, _, hread, leaves_rejectPeer (hpush.2 violation hpushed) (.inr ⟨_, _, hsession⟩)⟩
  | exhausted hincoming hending =>
    rcases readSource_of_none hincoming now.time with ⟨hopen, -⟩ | ⟨-, event, hread⟩
    · exact absurd hopen hending
    · exact ⟨_, _, hread, hlost _ _ rfl (.inr rfl) rfl⟩

end

/-! ### Every step of the loop -/

/-- A reader in its loop does what is the reader's to the session, and keeps within the
limits. -/
structure Reads (channel next : Channel) : Prop where
  session : ∃ operations : List Operation, (∀ operation ∈ operations, operation.isReaders) ∧
    next.session = channel.session.run operations
  bounded : channel.Bounded → next.Bounded

namespace Reads

variable {channel middle next : Channel}

/-- Operations of the reader, and nothing is read. -/
theorem perform (operations : List Operation)
    (hreaders : ∀ operation ∈ operations, operation.isReaders)
    (hsession : next.session = channel.session.run operations)
    (hdecoder : next.decoder = channel.decoder)
    (hassembler : next.assembler = channel.assembler) : channel.Reads next where
  session := ⟨operations, hreaders, hsession⟩
  bounded h := ⟨hdecoder ▸ h.decoder, hassembler ▸ h.assembler⟩

theorem refl (channel : Channel) : channel.Reads channel :=
  .perform [] (by simp) rfl rfl rfl

/-- The reader leaves its loop. -/
theorem leave (channel : Channel) (reason : CloseReason) (event : Option Event) :
    channel.Reads (channel.leave reason event).1 :=
  .perform [] (by simp) rfl rfl rfl

theorem rejectPeer (channel : Channel) (violation : Violation) :
    channel.Reads (channel.rejectPeer violation).1 :=
  .perform [.breakOff _] (by simp [Operation.isReaders]) rfl rfl rfl

theorem fetch (channel : Channel) : channel.Reads channel.fetch where
  session := ⟨[], by simp, rfl⟩
  bounded h := ⟨(h.decoder.feed _).next.1, h.assembler⟩

theorem trans (h : channel.Reads middle) (h' : middle.Reads next) : channel.Reads next where
  session := by
    obtain ⟨first, hfirst, hmiddle⟩ := h.session
    obtain ⟨second, hsecond, hnext⟩ := h'.session
    refine ⟨first ++ second, fun operation hoperation => ?_, ?_⟩
    · rcases List.mem_append.mp hoperation with hmem | hmem
      · exact hfirst operation hmem
      · exact hsecond operation hmem
    · rw [Session.run_append, ← hmiddle, hnext]
  bounded hbounded := h'.bounded (h.bounded hbounded)

end Reads

/-- What a reader does about a data frame. -/
theorem receiveData_cases (channel : Channel) (time : Nat) (frame : Frame)
    (hframe : frame.payload.length < 2 ^ 64) :
    channel.Reads (channel.receiveData time frame).1 ∧
      ((channel.receiveData time frame).1.reader = channel.reader ∨
        channel.session.state = .opened ∧
          ∃ violation, (channel.assembler.push frame).1 = .error violation) := by
  have hrecord : channel.Reads
      { channel with session := channel.session.recordInbound time true } :=
    .perform [.recordInbound time true] (by simp [Operation.isReaders]) rfl rfl rfl
  have hpush : channel.Reads
      { channel with
        session := channel.session.recordInbound time true
        assembler := (channel.assembler.push frame).2 } :=
    ⟨hrecord.session, fun h => ⟨h.decoder, (h.assembler.push frame hframe).1⟩⟩
  unfold receiveData
  dsimp only
  split
  · exact ⟨hrecord, .inl rfl⟩
  · rename_i hstate
    have hopened : channel.session.state = .opened := not_not.mp hstate
    split
    · rename_i violation hpushed
      exact ⟨hpush.trans (.rejectPeer _ violation), .inr ⟨hopened, violation, hpushed⟩⟩
    · exact ⟨hpush, .inl rfl⟩

/-- What a reader does about a frame. It leaves its loop on close frames, and on data frames
that fit no message in an open session. -/
theorem receive_cases (channel : Channel) (time : Nat) (frame : Frame)
    (hframe : frame.payload.length < 2 ^ 64) :
    channel.Reads (channel.receive time frame).1 ∧
      ((channel.receive time frame).1.reader = channel.reader ∨ frame.opcode = .close ∨
        frame.opcode.isControl = false ∧ channel.session.state = .opened ∧
          ∃ violation, (channel.assembler.push frame).1 = .error violation) := by
  have hdata := channel.receiveData_cases time frame hframe
  unfold receive
  split
  · exact ⟨.perform [.recordInbound time false, .answerPing frame.payload]
      (by simp [Operation.isReaders]) rfl rfl rfl, .inl rfl⟩
  · exact ⟨.perform [.recordInbound time false] (by simp [Operation.isReaders]) rfl rfl rfl,
      .inl rfl⟩
  · rename_i hclose
    refine ⟨?_, .inr (.inl hclose)⟩
    unfold receiveClose
    split
    · exact .rejectPeer channel _
    · rename_i reason _
      exact .perform [.recordInbound time false, .acknowledgeClose reason]
        (by simp [Operation.isReaders]) rfl rfl rfl
  all_goals
    rename_i hopcode
    exact ⟨hdata.1, hdata.2.imp_right fun h => .inr ⟨by rw [hopcode]; rfl, h⟩⟩

/-- A step of a reader in its loop. If it does not go on reading, it has met what ends the
loop. -/
theorem read_cases {channel next : Channel} {now : Moment} {wakeup : Wakeup}
    {event : Option Event} (hread : channel.read now wakeup = some (next, event))
    (hreading : channel.reader = .reading) (hbounded : channel.Bounded) :
    channel.Reads next ∧ (next.reader = .reading ∨ ∃ exit, channel.Meets wakeup exit) := by
  unfold read at hread
  rw [hreading] at hread
  cases wakeup with
  | cancelled =>
    dsimp only at hread
    split at hread
    · rename_i hcancelled
      cases hread
      exact ⟨.leave channel channel.lossReason none, .inr ⟨_, .cancelled hcancelled⟩⟩
    · cases hread
  | writerEnded =>
    dsimp only [readWriterEnd] at hread
    split at hread
    · rename_i hended
      cases hread
      exact ⟨.leave channel channel.lossReason none, .inr ⟨_, .writerEnded _ hended⟩⟩
    · rename_i hended
      cases hread
      exact ⟨.leave channel CloseReason.abnormal none, .inr ⟨_, .writerEnded _ hended⟩⟩
    · cases hread
  | inbound =>
    change channel.readSource now.time = _ at hread
    have hfetch := Reads.fetch channel
    cases hincoming : channel.incoming with
    | error violation =>
      rw [readSource_of_violation hincoming] at hread
      cases hread
      exact ⟨hfetch.trans (.rejectPeer _ violation), .inr ⟨_, .badFrame violation hincoming⟩⟩
    | ok found =>
      cases found with
      | none =>
        rcases readSource_of_none hincoming now.time with ⟨-, hnone⟩ | ⟨hending, event', hleave⟩
        · simp [hnone] at hread
        · rw [hleave] at hread
          cases hread
          exact ⟨hfetch.trans (.leave _ _ none), .inr ⟨_, .exhausted hincoming hending⟩⟩
      | some frame =>
        have hsize := (hbounded.decoder.feed channel.transport.source.bytes).next.2 frame hincoming
        obtain ⟨hreads, hcases⟩ := channel.fetch.receive_cases now.time frame hsize
        rw [readSource_of_frame hincoming] at hread
        obtain ⟨rfl, -⟩ := Prod.mk.inj (Option.some.inj hread)
        refine ⟨hfetch.trans hreads, ?_⟩
        rcases hcases with hsame | hclose | ⟨hdata, hopened, violation, hpushed⟩
        · exact .inl (hsame.trans hreading)
        · right
          cases hparsed : CloseReason.ofPayload? frame.payload with
          | ok reason => exact ⟨_, .closeFrame frame reason hincoming hclose hparsed⟩
          | error violation => exact ⟨_, .badClose frame violation hincoming hclose hparsed⟩
        · exact .inr ⟨_, .badData frame violation hincoming hdata hopened hpushed⟩
  | wrapUp => cases hread

end Channel

end SocketGate
