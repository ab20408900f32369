import SocketGate.Proofs.Channel.Timer
import SocketGate.Proofs.Frame.Pieces

/-!
# `SocketGate.Proofs.Channel.Trace`: what a channel reports of a stream

`Assembler.trace` reads a byte stream as a whole: it takes one frame after the other off the
front, puts the messages together, and stops at the first thing that ends a connection. A
channel whose application does nothing and whose peer takes everything reports the same,
however the stream is cut into pieces and whenever its reader and its writer go on.

`Channel.Owes` says what a channel has yet to report while some steps of its peer are still to
come. Every step reports the first part of that and leaves the rest.

* `Channel.Owes.read`, `Channel.Owes.write`, `Channel.Owes.peer`: what one step leaves.
* `Channel.Follows.run`: what a run leaves.
* `Channel.Follows.eq_nil_of_rests`: a channel that can only wait owes nothing.
-/

set_option autoImplicit false

namespace SocketGate

/-! ### The stream as a whole -/

/-- What is reported when the peer breaks a rule. -/
def Violation.events (violation : Violation) : List Event :=
  [.failed (.protocol violation), .closed (CloseReason.of violation.closeCode violation.message)]

/-- The failure at the end of a stream that leaves these bytes over, if it is one. -/
def Ending.failure? (rest : Bytes) : Ending → Option Failure
  | .unfinished => none
  | .ended => if rest.isEmpty then none else some (.io .leftover)
  | .failed fault => some (.io fault)

/-- What is reported at the end of a stream that leaves these bytes over. A stream that goes on
has nothing to report yet. -/
def Ending.events (rest : Bytes) (ending : Ending) : List Event :=
  if ending = .unfinished then []
  else ((ending.failure? rest).map .failed).toList ++ [.closed CloseReason.abnormal]

/-- The bytes left over, without the header at their front if that is complete. -/
def Frame.remnant (role : Role) (limit : Nat) (bytes : Bytes) : Bytes :=
  match Header.read role limit bytes with
  | .ok (some (_, payload)) => payload
  | _ => bytes

namespace Assembler

/-- What is reported of a frame, and the assembler after it unless the frame ends the
connection. -/
def take (assembler : Assembler) (frame : Frame) : List Event × Option Assembler :=
  match frame.opcode with
  | .ping | .pong => ([], some assembler)
  | .close =>
    match CloseReason.ofPayload? frame.payload with
    | .ok reason => ([.closed reason], none)
    | .error violation => (violation.events, none)
  | .text | .binary | .continuation =>
    match assembler.push frame with
    | (.ok message, assembler) => ((message.map .received).toList, some assembler)
    | (.error violation, _) => (violation.events, none)

/-- What is reported of these frames, and then `last` unless one of them ends the
connection. -/
def events (assembler : Assembler) (last : List Event) : List Frame → List Event
  | [] => last
  | frame :: frames =>
    match assembler.take frame with
    | (reported, none) => reported
    | (reported, some assembler) => reported ++ assembler.events last frames

/-- What is reported of a byte stream that ends like this. -/
def trace (assembler : Assembler) (limit : Nat) (bytes : Bytes) (ending : Ending) : List Event :=
  let (frames, violation, rest) := Frame.readAll .server limit bytes
  let last :=
    match violation with
    | some violation => violation.events
    | none => ending.events (Frame.remnant .server limit rest)
  assembler.events last frames

variable {assembler : Assembler} {limit : Nat} {bytes rest : Bytes} {ending : Ending}

theorem trace_of_error {violation : Violation}
    (h : Frame.read .server limit bytes = .error violation) :
    assembler.trace limit bytes ending = violation.events := by
  simp only [trace, Frame.readAll_of_error h, events]

theorem trace_of_none (h : Frame.read .server limit bytes = .ok none) :
    assembler.trace limit bytes ending = ending.events (Frame.remnant .server limit bytes) := by
  simp only [trace, Frame.readAll_of_none h, events]

/-- The first frame is reported, and then the others. -/
theorem trace_of_frame {frame : Frame}
    (h : Frame.read .server limit bytes = .ok (some (frame, rest))) :
    assembler.trace limit bytes ending =
      match assembler.take frame with
      | (reported, none) => reported
      | (reported, some assembler) => reported ++ assembler.trace limit rest ending := by
  simp only [trace, Frame.readAll_of_frame h, events]

end Assembler

namespace Decoder

theorem buffer_waiting (role : Role) (limit : Nat) (bytes : Bytes) :
    (waiting role limit bytes).buffer = Frame.remnant role limit bytes := by
  unfold waiting Frame.remnant
  cases Header.read role limit bytes with
  | error violation => rfl
  | ok found => cases found <;> rfl

end Decoder

/-! ### What is still to come -/

/-- A transport whose peer takes everything. -/
structure Transport.TakesAll (transport : Transport) : Prop where
  window : transport.window = none
  writeFault : transport.writeFault = none
  flushFault : transport.flushFault = none

/-- Whether a step of the peer is about what the peer sends. -/
def PeerStep.isInbound : PeerStep → Bool
  | .receive _ | .finish | .failRead _ => true
  | _ => false

/-- What a peer sends does not change what it takes. -/
theorem Transport.TakesAll.apply {transport : Transport} (h : transport.TakesAll)
    {step : PeerStep} (hstep : step.isInbound) : (transport.apply step).TakesAll := by
  cases step with
  | receive | finish | failRead => exact ⟨h.window, h.writeFault, h.flushFault⟩
  | _ => cases hstep

/-- The steps of a peer that sends a stream in these pieces and ends it like this. -/
def delivery (pieces : List Bytes) (ending : Ending) : List PeerStep :=
  pieces.map .receive ++
    match ending with
    | .unfinished => []
    | .ended => [.finish]
    | .failed fault => [.failRead fault]

theorem isInbound_of_mem_delivery {pieces : List Bytes} {ending : Ending} {step : PeerStep}
    (h : step ∈ delivery pieces ending) : step.isInbound := by
  rcases List.mem_append.mp h with hpiece | hlast
  · obtain ⟨piece, -, rfl⟩ := List.mem_map.mp hpiece
    rfl
  · cases ending with
    | unfinished => cases hlast
    | ended | failed =>
      rw [List.mem_singleton.mp hlast]
      rfl

/-- After these steps of the peer the stream, of which `now` is known so far, has got `future`
and ends like `ending`. -/
inductive Awaits (ending : Ending) : Ending → List PeerStep → Bytes → Prop where
  | more (pieces : List Bytes) :
      Awaits ending .unfinished (delivery pieces ending) pieces.flatten
  | done : Awaits ending ending [] []

namespace Awaits

variable {ending : Ending} {source : Source} {step : PeerStep} {due : List PeerStep}
  {future : Bytes}

/-- One step of the peer. -/
theorem apply {transport : Transport}
    (h : Awaits ending transport.source.ending (step :: due) future) : ∃ rest,
      (transport.apply step).source.bytes ++ rest = transport.source.bytes ++ future ∧
      Awaits ending (transport.apply step).source.ending due rest := by
  generalize hending : transport.source.ending = before at h
  generalize hsteps : step :: due = steps at h
  cases h with
  | done => cases hsteps
  | more pieces =>
    cases pieces with
    | cons piece pieces =>
      obtain ⟨rfl, rfl⟩ := List.cons.inj hsteps
      refine ⟨pieces.flatten, by simp [Transport.apply, Source.receive], ?_⟩
      show Awaits ending transport.source.ending _ _
      rw [hending]
      exact .more pieces
    | nil =>
      cases ending with
      | unfinished => cases hsteps
      | ended =>
        obtain ⟨rfl, rfl⟩ := List.cons.inj hsteps
        have hfinish : transport.source.finish = { transport.source with ending := .ended } := by
          simp [Source.finish, hending]
        refine ⟨[], by simp [Transport.apply, hfinish], ?_⟩
        show Awaits .ended transport.source.finish.ending _ _
        rw [hfinish]
        exact .done
      | failed fault =>
        obtain ⟨rfl, rfl⟩ := List.cons.inj hsteps
        exact ⟨[], by simp [Transport.apply, Source.fail], .done⟩

/-- When no step is to come, the stream is known. -/
theorem of_nil {now : Ending} (h : Awaits ending now [] future) :
    now = ending ∧ future = [] := by
  generalize hdue : ([] : List PeerStep) = due at h
  cases h with
  | done => exact ⟨rfl, rfl⟩
  | more pieces =>
    cases pieces with
    | cons piece pieces => cases hdue
    | nil =>
      cases ending with
      | unfinished => exact ⟨rfl, rfl⟩
      | ended | failed => cases hdue

/-- Once the stream is known to have ended, nothing is to come. -/
theorem of_ended {now : Ending} (h : Awaits ending now due future) (hnow : now ≠ .unfinished) :
    ending = now ∧ future = [] := by
  cases h with
  | more pieces => exact absurd rfl hnow
  | done => exact ⟨rfl, rfl⟩

end Awaits

namespace Channel

open Decoder (Before)

/-! ### What a channel has yet to report -/

/-- An open channel in its loop whose outbox holds nothing but answers to pings. -/
structure Listens (channel : Channel) : Prop where
  reading : channel.reader = .reading
  opened : channel.session.state = .opened
  unforced : channel.session.forcedReason = none
  uncancelled : channel.session.cancelled = false
  writing : channel.writer = .idle ∨ ∃ unsent, channel.writer = .sending unsent false
  waiting : ∀ item ∈ channel.session.outbox.waiting, ∃ payload,
    item = .frame (Frame.pong payload) ∧ payload.length ≤ maxControlPayload
  sound : channel.decoder.Sound

/-- What a channel has yet to report when these steps of its peer are still to come. -/
inductive Owes (limit : Nat) (ending : Ending) (due : List PeerStep) (channel : Channel) :
    List Event → Prop where
  | reading (bytes future : Bytes) (listens : channel.Listens)
      (before : Before .server limit bytes channel.decoder)
      (awaits : Awaits ending channel.transport.source.ending due future) :
      Owes limit ending due channel (channel.assembler.trace limit
        (bytes ++ (channel.transport.source.bytes ++ future)) ending)
  | leaving (reason : CloseReason) (reader : channel.reader = .leaving reason)
      (unforced : channel.session.forcedReason = none) :
      Owes limit ending due channel [.closed reason]
  | draining (reason : CloseReason) (since : Moment) (deadline : Nat)
      (reader : channel.reader = .draining reason since deadline) :
      Owes limit ending due channel [.closed reason]
  | finished (reader : channel.reader = .finished) : Owes limit ending due channel []

variable {limit : Nat} {ending : Ending} {due : List PeerStep} {channel next : Channel}
  {events : List Event}

/-! ### Steps -/

/-- The writer of a channel in its loop sends pongs. -/
theorem Listens.write {now : Moment} (h : channel.Listens) (htakes : channel.transport.TakesAll)
    (hwrite : channel.write now = some next) :
    next.Listens ∧ next.transport.source = channel.transport.source := by
  have hwriting := h.writing
  cases writeStep_of_write hwrite with
  | take frame rest bytes hidle hwaiting hrest =>
    exact ⟨{
      reading := h.reading
      opened := h.opened
      unforced := h.unforced
      uncancelled := h.uncancelled
      writing := .inr ⟨bytes, by
        obtain ⟨payload, hpong, -⟩ := h.waiting (.frame frame) (by simp [hwaiting])
        obtain rfl := Outbound.frame.inj hpong
        rfl⟩
      waiting := fun item hitem => by
        have hlater : item ∈ rest := hrest ▸ hitem
        exact h.waiting item (by rw [hwaiting]; exact List.mem_cons_of_mem _ hlater)
      sound := h.sound }, rfl⟩
  | refuse frame rest violation hidle hwaiting hrest hviolation =>
    -- A pong can always be written.
    obtain ⟨payload, hpong, hshort⟩ := h.waiting (.frame frame) (by simp [hwaiting])
    obtain rfl := Outbound.frame.inj hpong
    have hbytes := ((Frame.pong payload).write_eq_ok_iff _).mpr ⟨fun _ => ⟨rfl, hshort⟩, rfl⟩
    rw [hbytes] at hviolation
    cases hviolation
  | stop rest hwaits hwaiting =>
    -- The request to shut down is not there yet.
    obtain ⟨payload, hpong, -⟩ := h.waiting .shutdown (by simp [hwaiting])
    cases hpong
  | flush isClose hsending =>
    obtain rfl : isClose = false := by simpa [hsending] using hwriting
    exact ⟨{ h with writing := .inl rfl }, rfl⟩
  | send unsent rest isClose transport hsending hmore hsent =>
    obtain rfl : isClose = false := by simpa [hsending] using hwriting
    simp only [Transport.write, htakes.writeFault] at hsent
    cases hsent
    exact ⟨{ h with writing := .inr ⟨_, rfl⟩ }, rfl⟩
  | fail unsent isClose fault hsending hfailed =>
    simp [htakes.writeFault, htakes.flushFault] at hfailed
  | drop since deadline frame rest hawaiting => simp [hawaiting] at hwriting
  | expire since deadline hawaiting => simp [hawaiting] at hwriting
  | finish transport result hfinishing => simp [hfinishing] at hwriting

/-- The peer has broken a rule. -/
theorem Owes.rejectPeer {violation : Violation}
    (hunforced : channel.session.forcedReason = none) :
    ∃ rest, violation.events = (channel.rejectPeer violation).2.toList ++ rest ∧
      Owes limit ending due (channel.rejectPeer violation).1 rest := by
  refine ⟨[.closed (CloseReason.of violation.closeCode violation.message)], rfl, ?_⟩
  have hsteady := channel.session.steady_after
    (.breakOff (CloseReason.of violation.closeCode violation.message)) nofun nofun
  exact .leaving _ rfl (hsteady.forcedReason.trans hunforced)

/-- A channel in its loop has taken a frame in. -/
theorem Listens.receive {rest future : Bytes} {frame : Frame} {time : Nat}
    (h : channel.Listens)
    (hcontrol : frame.opcode.isControl → frame.payload.length ≤ maxControlPayload)
    (hbefore : Before .server limit rest channel.decoder)
    (hbytes : channel.transport.source.bytes = [])
    (hawaits : Awaits ending channel.transport.source.ending due future) :
    ∃ left, (match channel.assembler.take frame with
        | (reported, none) => reported
        | (reported, some assembler) =>
          reported ++ assembler.trace limit (rest ++ future) ending) =
        (channel.receive time frame).2.toList ++ left ∧
      Owes limit ending due (channel.receive time frame).1 left := by
  -- A channel that goes on in its loop owes what comes after the frame.
  have hgoesOn (next : Channel) (hlistens : next.Listens)
      (hdecoder : next.decoder = channel.decoder)
      (htransport : next.transport = channel.transport) :
      Owes limit ending due next (next.assembler.trace limit (rest ++ future) ending) := by
    have howes : Owes limit ending due next _ :=
      .reading rest future hlistens (hdecoder ▸ hbefore) (htransport ▸ hawaits)
    rwa [htransport, hbytes] at howes
  unfold Assembler.take Channel.receive
  cases hopcode : frame.opcode with
  | ping =>
    have hshort := hcontrol (by rw [hopcode]; rfl)
    refine ⟨_, rfl, hgoesOn _ ?_ rfl rfl⟩
    obtain ⟨refusal, hoffer⟩ | ⟨-, -, -, hoffer⟩ :=
      (channel.session.recordInbound time false).offer_cases [Frame.pong frame.payload]
    · simp only [Session.answerPing, hoffer]
      exact { h with }
    · simp only [Session.answerPing, hoffer]
      exact { h with
        waiting := fun item hitem => by
          rcases List.mem_append.mp hitem with hold | hnew
          · exact h.waiting item hold
          · exact ⟨frame.payload, by simpa using hnew, hshort⟩ }
  | pong => exact ⟨_, rfl, hgoesOn _ { h with } rfl rfl⟩
  | close =>
    dsimp only [receiveClose]
    cases hparsed : CloseReason.ofPayload? frame.payload with
    | error violation => exact Owes.rejectPeer h.unforced
    | ok reason =>
      refine ⟨_, rfl, .leaving reason rfl ?_⟩
      have hsteady := (channel.session.recordInbound time false).steady_after
        (.acknowledgeClose reason) nofun nofun
      exact hsteady.forcedReason.trans h.unforced
  | text | binary | continuation =>
    have hopen : ¬ (channel.session.recordInbound time true).state ≠ .opened :=
      fun hnot => hnot h.opened
    dsimp only [receiveData]
    rw [if_neg hopen]
    cases hpush : channel.assembler.push frame with
    | mk result assembler =>
      cases result with
      | error violation => exact Owes.rejectPeer h.unforced
      | ok message => exact ⟨_, rfl, hgoesOn _ { h with } rfl rfl⟩

/-- A reader that finds no frame waits, or the stream has ended. -/
theorem readSource_of_exhausted (h : channel.incoming = .ok none) (time : Nat) :
    (channel.transport.source.ending = .unfinished ∧ channel.readSource time = none) ∨
    (channel.transport.source.ending ≠ .unfinished ∧
      channel.readSource time = some (channel.fetch.leave CloseReason.abnormal
        ((channel.transport.source.ending.failure?
          channel.fetch.decoder.buffer).map .failed))) := by
  have hnext : channel.absorb.decoder.next = (.ok none, channel.fetch.decoder) :=
    Prod.ext h rfl
  have hsame : channel.absorb.transport.source.ending = channel.transport.source.ending := rfl
  unfold readSource
  dsimp only
  rw [hnext, hsame]
  cases hcase : channel.transport.source.ending with
  | unfinished => exact .inl ⟨rfl, rfl⟩
  | failed fault => exact .inr ⟨nofun, rfl⟩
  | ended =>
    refine .inr ⟨nofun, ?_⟩
    unfold Ending.failure?
    cases hempty : channel.fetch.decoder.buffer.isEmpty <;> simp [hempty] <;> rfl

/-- What a step of the reader reports is the first part of what the channel owed. -/
theorem Owes.read {now : Moment} {wakeup : Wakeup} {event : Option Event}
    (h : Owes limit ending due channel events)
    (hread : channel.read now wakeup = some (next, event)) :
    ∃ left, events = event.toList ++ left ∧ Owes limit ending due next left := by
  cases h with
  | reading bytes future listens before awaits =>
    cases wakeup with
    | inbound =>
      simp only [Channel.read, listens.reading] at hread
      have hnext := (before.feed channel.transport.source.bytes).next
      have hincoming : channel.incoming =
          (channel.decoder.feed channel.transport.source.bytes).next.1 := rfl
      have hfetch : channel.fetch.decoder =
          (channel.decoder.feed channel.transport.source.bytes).next.2 := rfl
      rw [hnext] at hincoming hfetch
      rw [← List.append_assoc]
      cases hframe : Frame.read .server limit (bytes ++ channel.transport.source.bytes) with
      | error violation =>
        rw [hframe] at hincoming
        rw [readSource_of_violation hincoming] at hread
        cases hread
        have hwhole := Header.read_append_of_error (Frame.read_eq_error_iff.mp hframe) future
        rw [Assembler.trace_of_error (Frame.read_eq_error_iff.mpr hwhole)]
        exact Owes.rejectPeer listens.unforced
      | ok found =>
        cases found with
        | some found =>
          obtain ⟨frame, rest⟩ := found
          rw [hframe] at hincoming hfetch hnext
          rw [readSource_of_frame hincoming] at hread
          obtain ⟨rfl, rfl⟩ := Prod.mk.inj (Option.some.inj hread)
          rw [Assembler.trace_of_frame (Frame.read_append_of_some hframe future)]
          have hlistens : channel.fetch.Listens := { listens with
            sound := (listens.sound.feed channel.transport.source.bytes).next }
          exact hlistens.receive
            (fun hcontrol => ((listens.sound.feed _).control hnext hcontrol).2)
            (hfetch ▸ .whole) rfl awaits
        | none =>
          rw [hframe] at hincoming hfetch
          rcases readSource_of_exhausted hincoming now.time with ⟨-, hnone⟩ | ⟨hended, hleave⟩
          · rw [hnone] at hread
            cases hread
          · obtain ⟨rfl, rfl⟩ := awaits.of_ended hended
            rw [hleave] at hread
            obtain ⟨rfl, rfl⟩ := Prod.mk.inj (Option.some.inj hread)
            refine ⟨[.closed CloseReason.abnormal], ?_, .leaving _ rfl listens.unforced⟩
            rw [List.append_nil, Assembler.trace_of_none hframe, hfetch, Decoder.buffer_waiting]
            rw [Ending.events, if_neg hended]
    | cancelled =>
      simp [Channel.read, listens.reading, listens.uncancelled] at hread
    | writerEnded =>
      rcases listens.writing with hwriter | ⟨unsent, hwriter⟩ <;>
        simp [Channel.read, listens.reading, readWriterEnd, hwriter] at hread
    | wrapUp => simp [Channel.read, listens.reading] at hread
  | leaving reason reader unforced =>
    cases wakeup with
    | wrapUp =>
      simp only [Channel.read, reader, beginDrain, unforced, Option.getD_none] at hread
      obtain ⟨rfl, rfl⟩ := Prod.mk.inj (Option.some.inj hread)
      exact ⟨_, rfl, .draining reason _ _ rfl⟩
    | _ => simp [Channel.read, reader] at hread
  | draining reason since deadline reader =>
    cases wakeup with
    | wrapUp =>
      simp only [Channel.read, reader] at hread
      unfold endDrain at hread
      split at hread
      · obtain ⟨rfl, rfl⟩ := Prod.mk.inj (Option.some.inj hread)
        exact ⟨[], rfl, .finished rfl⟩
      · split at hread
        · obtain ⟨rfl, rfl⟩ := Prod.mk.inj (Option.some.inj hread)
          exact ⟨[], rfl, .finished rfl⟩
        · cases hread
    | _ => simp [Channel.read, reader] at hread
  | finished reader => cases wakeup <;> simp [Channel.read, reader] at hread

/-- The writer does not change what is owed. -/
theorem Owes.write {now : Moment} (h : Owes limit ending due channel events)
    (htakes : channel.transport.TakesAll) (hwrite : channel.write now = some next) :
    Owes limit ending due next events := by
  have hturn := write_turn hwrite
  have hkeeps : channel.KeepsReading next := by cases hturn <;> assumption
  cases h with
  | reading bytes future listens before awaits =>
    obtain ⟨hlistens, hsource⟩ := listens.write htakes hwrite
    rw [← assembler_write hwrite, ← hsource]
    exact .reading bytes future hlistens (hkeeps.decoder ▸ before) (hsource ▸ awaits)
  | leaving reason reader unforced =>
    obtain ⟨operations, hwriters, hsession⟩ := hturn.exists_writers
    have hsteady := channel.session.steady_run operations
      fun operation hmem => .inr (hwriters operation hmem)
    exact .leaving reason (hkeeps.reader.trans reader)
      (hsession ▸ hsteady.forcedReason.trans unforced)
  | draining reason since deadline reader =>
    exact .draining reason since deadline (hkeeps.reader.trans reader)
  | finished reader => exact .finished (hkeeps.reader.trans reader)

/-- A step of the peer that was to come has come. -/
theorem Owes.peer {step : PeerStep} (h : Owes limit ending (step :: due) channel events) :
    Owes limit ending due (channel.after (.peer step)) events := by
  cases h with
  | reading bytes future listens before awaits =>
    obtain ⟨rest, hbytes, hawaits⟩ := awaits.apply
    rw [← hbytes]
    exact .reading bytes rest { listens with } before hawaits
  | leaving reason reader unforced => exact .leaving reason reader unforced
  | draining reason since deadline reader => exact .draining reason since deadline reader
  | finished reader => exact .finished reader

/-! ### The request to shut down -/

/-- The request to shut down waits, or the writer has taken it or is over. -/
def StopUnderWay (channel : Channel) : Prop :=
  .shutdown ∈ channel.session.outbox.waiting ∨ channel.writer = .finishing ∨ channel.writer.isOver

/-- A step of the writer does not lose the request to shut down. -/
theorem stopUnderWay_write {now : Moment} (hwrite : channel.write now = some next) :
    next.session.shutdownQueued = channel.session.shutdownQueued ∧
      (channel.StopUnderWay → next.StopUnderWay) := by
  -- The item that is taken is the request, or that waits behind it.
  have hbehind {frame : Frame} {rest : List Outbound} {writer : Writer}
      (hwaiting : channel.session.outbox.waiting = .frame frame :: rest)
      (hrest : next.session.outbox.waiting = rest)
      (hrunning : channel.writer = writer) (hfinishing : writer ≠ .finishing)
      (hover : writer.isOver = false) (h : channel.StopUnderWay) : next.StopUnderWay := by
    rcases h with hmem | hfinal | hended
    · rw [hwaiting] at hmem
      rcases List.mem_cons.mp hmem with hfirst | hlater
      · cases hfirst
      · exact .inl (hrest ▸ hlater)
    · exact absurd (hrunning.symm.trans hfinal) hfinishing
    · rw [hrunning, hover] at hended
      cases hended
  cases writeStep_of_write hwrite with
  | stop | expire => exact ⟨rfl, fun _ => .inr (.inl rfl)⟩
  | take frame rest bytes hidle hwaiting hrest =>
    exact ⟨rfl, hbehind hwaiting hrest hidle (fun h => by cases h) rfl⟩
  | drop since deadline frame rest hawaiting hwaiting hrest =>
    exact ⟨rfl, hbehind hwaiting hrest hawaiting (fun h => by cases h) rfl⟩
  | flush isClose hsending =>
    refine ⟨rfl, fun h => .inl (h.resolve_right ?_)⟩
    simp [hsending, Writer.isOver]
  | send unsent rest isClose transport hsending =>
    refine ⟨rfl, fun h => .inl (h.resolve_right ?_)⟩
    simp [hsending, Writer.isOver]
  | refuse | fail | finish => exact ⟨rfl, fun _ => .inr (.inr rfl)⟩

/-- Operations of the session that queue the request do so as long as there is a writer. -/
theorem stopUnderWay_perform {timeout time : Nat} {operations : List Session.Operation}
    (h : Attended timeout time channel)
    (hstop : channel.session.shutdownQueued → channel.StopUnderWay)
    (hperforms : channel.session.Performs next.session operations)
    (hwriter : next.writer = channel.writer) (hflag : next.session.shutdownQueued) :
    next.StopUnderWay := by
  cases hover : channel.writer.isOver with
  | true => exact .inr (.inr (hwriter ▸ hover))
  | false =>
    obtain ⟨limit, ledger, hdisciplined⟩ := h.disciplined
    obtain ⟨after, hitems, hafter⟩ := hdisciplined.run operations
    have houtbox := hperforms.outbox_eq
    have hattached : next.session.outbox.attached := by
      rw [houtbox, Outbox.attached_append]
      exact h.attached hover
    rw [hperforms.run_eq] at hflag hattached
    have hmem := after.shutdown_mem_items.mpr (hafter.stop_of_flag hflag hattached)
    rw [hitems] at hmem
    have happend : next.session.outbox.waiting =
        channel.session.outbox.waiting ++ channel.session.enqueued operations := by
      rw [houtbox, Outbox.waiting_append]
    rcases List.mem_append.mp hmem with hold | hnew
    · -- It was queued before.
      have hbefore := hdisciplined.flag_of_stop (ledger.shutdown_mem_items.mp hold)
      rcases hstop hbefore with hwaits | hfinal
      · exact .inl (happend ▸ List.mem_append_left _ hwaits)
      · exact .inr (hwriter ▸ hfinal)
    · exact .inl (happend ▸ List.mem_append_right _ hnew)

/-- Nothing that is done to a channel loses the request to shut down. -/
theorem stopUnderWay_after {timeout time : Nat} (action : Action)
    (h : Attended timeout time channel)
    (hstop : channel.session.shutdownQueued → channel.StopUnderWay)
    (hflag : (channel.after action).session.shutdownQueued) :
    (channel.after action).StopUnderWay := by
  rcases channel.after_cases action with hsame | ⟨now, wakeup, event, -, hread⟩ |
    ⟨now, -, hwrite⟩ | ⟨hread, hwrite⟩
  · rw [hsame] at hflag ⊢
    exact hstop hflag
  · cases read_turn hread h.intact.sound with
    | goOn _ _ serves | leave _ _ _ serves | drain _ _ _ _ serves | finish _ _ _ _ serves =>
      exact stopUnderWay_perform h hstop serves.performs serves.writer hflag
    | abandon _ _ _ _ _ _ _ aborted => exact .inr (.inr (by rw [aborted]; rfl))
  · obtain ⟨hsame, hkeeps⟩ := stopUnderWay_write hwrite
    exact hkeeps (hstop (hsame ▸ hflag))
  · obtain ⟨⟨operations, hperforms⟩, hwriter, -⟩ := channel.performs_after action hread hwrite
    exact stopUnderWay_perform h hstop hperforms hwriter hflag

/-! ### Runs -/

/-- The reader takes bytes off the source and changes nothing else about the transport. -/
theorem takesAll_read {now : Moment} {wakeup : Wakeup} {event : Option Event}
    (h : channel.transport.TakesAll) (hread : channel.read now wakeup = some (next, event)) :
    next.transport.TakesAll := by
  have hfetch : channel.fetch.transport.TakesAll := ⟨h.window, h.writeFault, h.flushFault⟩
  cases readStep_of_read hread with
  | frame frame =>
    rw [(channel.fetch.undisturbed_receive now.time frame).transport]
    exact hfetch
  | violation | exhausted => exact hfetch
  | _ => exact h

/-- A peer that takes everything goes on doing so. -/
theorem takesAll_write {now : Moment} (h : channel.transport.TakesAll)
    (hwrite : channel.write now = some next) : next.transport.TakesAll := by
  cases writeStep_of_write hwrite with
  | send unsent rest isClose transport hsending hmore hsent =>
    simp only [Transport.write, h.writeFault] at hsent
    cases hsent
    exact { window := by simp [h.window], writeFault := rfl, flushFault := h.flushFault }
  | finish transport result hfinishing hlast =>
    rcases hlast with rfl | rfl
    · exact h
    · exact ⟨h.window, h.writeFault, h.flushFault⟩
  | _ => exact h

/-- Whether it is the peer, the reader or the writer that acts. -/
def Action.isStep : Action → Bool
  | .peer _ | .read .. | .write _ => true
  | _ => false

/-- The step of the peer, if it is the peer that acts. -/
def Action.peer? : Action → Option PeerStep
  | .peer step => some step
  | _ => none

/-- The peer goes on taking everything whatever it sends. -/
theorem takesAll_after {action : Action} (h : channel.transport.TakesAll) (hstep : action.isStep)
    (hinbound : ∀ step ∈ action.peer?, step.isInbound) :
    (channel.after action).transport.TakesAll := by
  cases action with
  | peer step => exact h.apply (hinbound step rfl)
  | read now wakeup =>
    show ((channel.read now wakeup).getD (channel, none)).1.transport.TakesAll
    cases hread : channel.read now wakeup with
    | none => exact h
    | some step => exact takesAll_read h hread
  | write now =>
    show ((channel.write now).getD channel).transport.TakesAll
    cases hwrite : channel.write now with
    | none => exact h
    | some next => exact takesAll_write h hwrite
  | _ => cases hstep

/-- A step reports the first part of what is owed. -/
theorem Owes.after {action : Action}
    (h : Owes limit ending (action.peer?.toList ++ due) channel events)
    (htakes : channel.transport.TakesAll) (hstep : action.isStep) :
    ∃ left, events = ((channel.told action).map (·.2)).toList ++ left ∧
      Owes limit ending due (channel.after action) left := by
  cases action with
  | peer step => exact ⟨events, rfl, h.peer⟩
  | read now wakeup =>
    cases hread : channel.read now wakeup with
    | none =>
      have houtcome := outcome_of_read_eq_none hread
      have hsame : channel.after (.read now wakeup) = channel := congrArg (·.1) houtcome
      exact ⟨events, by simp [told, houtcome], hsame.symm ▸ h⟩
    | some step =>
      obtain ⟨next, event⟩ := step
      have houtcome := outcome_of_read hread
      have hsame : channel.after (.read now wakeup) = next := congrArg (·.1) houtcome
      obtain ⟨left, hevents, howes⟩ := Owes.read h hread
      refine ⟨left, ?_, hsame ▸ howes⟩
      rw [hevents, told, houtcome]
      cases event <;> rfl
  | write now =>
    refine ⟨events, rfl, ?_⟩
    show Owes limit ending due ((channel.write now).getD channel) events
    cases hwrite : channel.write now with
    | none => exact h
    | some next => exact Owes.write h htakes hwrite
  | _ => cases hstep

/-- A channel whose peer takes everything and has these steps to make, with what it has yet to
report. -/
structure Follows (limit : Nat) (ending : Ending) (due : List PeerStep) (channel : Channel)
    (events : List Event) : Prop where
  owes : Owes limit ending due channel events
  inbound : ∀ step ∈ due, step.isInbound
  takesAll : channel.transport.TakesAll
  attended : ∃ timeout time, Attended timeout time channel
  stop : channel.session.shutdownQueued → channel.StopUnderWay

namespace Follows

/-- What a step reports is the first part of what the channel owed. -/
theorem after (action : Action)
    (h : Follows limit ending (action.peer?.toList ++ due) channel events)
    (hstep : action.isStep) :
    ∃ left, events = ((channel.told action).map (·.2)).toList ++ left ∧
      Follows limit ending due (channel.after action) left := by
  obtain ⟨left, hevents, howes⟩ := h.owes.after h.takesAll hstep
  obtain ⟨timeout, time, hattended⟩ := h.attended
  -- The invariant does not depend on the time when the action is made.
  have hafter (later : Nat) (hlater : time ≤ later) (htimely : action.Timely later channel) :
      ∃ timeout time, Attended timeout time (channel.after action) :=
    have hlate := hattended.evolves hlater (.refl : Evolves later True channel channel)
    ⟨timeout, later, hlate.after action htimely⟩
  refine ⟨left, hevents, {
    owes := howes
    inbound := fun step hmem => h.inbound step (List.mem_append_right _ hmem)
    takesAll := takesAll_after h.takesAll hstep fun step hmem =>
      h.inbound step (List.mem_append_left _ (Option.mem_toList.mpr hmem))
    attended := ?_
    stop := stopUnderWay_after action hattended h.stop }⟩
  cases action with
  | peer step => exact hafter time (Nat.le_refl _) trivial
  | read now wakeup => exact hafter (max time now.time) (Nat.le_max_left _ _) (Nat.le_max_right _ _)
  | write now => exact hafter (max time now.time) (Nat.le_max_left _ _) (Nat.le_max_right _ _)
  | _ => cases hstep

/-- What a run reports is the first part of what the channel owed. -/
theorem run {actions : List Action}
    (h : Follows limit ending (actions.filterMap Action.peer? ++ due) channel events)
    (hsteps : ∀ action ∈ actions, action.isStep) :
    ∃ left, events = (channel.events actions).map (·.2) ++ left ∧
      Follows limit ending due (channel.run actions) left := by
  induction actions generalizing channel events with
  | nil => exact ⟨events, rfl, h⟩
  | cons action actions ih =>
    have hcons : (action :: actions).filterMap Action.peer? =
        action.peer?.toList ++ actions.filterMap Action.peer? := by
      cases hpeer : action.peer? <;> simp [hpeer]
    rw [hcons, List.append_assoc] at h
    obtain ⟨middle, hfirst, hafter⟩ := after action h (hsteps action List.mem_cons_self)
    obtain ⟨left, hrest, hrun⟩ :=
      ih hafter fun other hother => hsteps other (List.mem_cons_of_mem action hother)
    refine ⟨left, ?_, hrun⟩
    rw [hfirst, hrest, Channel.events, List.map_append, List.append_assoc]
    cases channel.told action <;> rfl

/-- When all steps of the peer have come and the channel can only wait, it has reported all. -/
theorem eq_nil_of_rests {now : Moment} (h : Follows limit ending [] channel events)
    (hrests : channel.Rests now) : events = [] := by
  cases h.owes with
  | finished reader => rfl
  | leaving reason reader => exact absurd reader (hrests.reader_ne_leaving reason)
  | reading bytes future listens before awaits =>
    -- The stream goes on, so nothing is reported for the bytes that are left.
    obtain ⟨-, hincoming, hunfinished, -⟩ := hrests.silent listens.reading
    have hnext := (before.feed channel.transport.source.bytes).next
    have hnone : (channel.decoder.feed channel.transport.source.bytes).next.1 = .ok none :=
      hincoming
    rw [hnext] at hnone
    have hframe : Frame.read .server limit (bytes ++ channel.transport.source.bytes) =
        .ok none := by
      split at hnone <;> first | assumption | cases hnone
    obtain ⟨rfl, rfl⟩ := awaits.of_nil
    rw [hunfinished, List.append_nil, Assembler.trace_of_none hframe]
    rfl
  | draining reason since deadline reader =>
    exfalso
    obtain ⟨timeout, time, hattended⟩ := h.attended
    obtain ⟨_, ledger, hdisciplined⟩ := hattended.disciplined
    have hclosed := hattended.intact.closed_iff.mpr (by rw [reader]; rfl)
    have hnone := hrests.read .wrapUp
    simp only [Channel.read, reader, endDrain] at hnone
    -- The writer does not wait, as long as it is there.
    have hrunning : channel.writer ≠ .finishing ∧ ¬ channel.writer.isOver := by
      refine ⟨hrests.writer_ne_finishing, fun hover => ?_⟩
      cases hwriter : channel.writer with
      | ended result => simp [hwriter] at hnone
      | aborted =>
        rw [hattended.aborted hwriter] at reader
        cases reader
      | _ => simp [hwriter, Writer.isOver] at hover
    have hmem := (h.stop (hdisciplined.closed hclosed)).resolve_right
      (not_or.mpr hrunning)
    cases hwriter : channel.writer with
    | idle => simp [hrests.waiting_eq_nil hwriter] at hmem
    | sending unsent isClose =>
      have hblocked := (hrests.blocked hwriter).2
      simp [Transport.isBlocked, h.takesAll.window] at hblocked
    | awaitingShutdown since' deadline' =>
      have hwait := hrests.write
      simp only [Channel.write, hwriter, awaitShutdown, takeItem, Outbox.take?] at hwait
      cases hwaiting : channel.session.outbox.waiting with
      | nil => simp [hwaiting] at hmem
      | cons item rest =>
        rw [hwaiting] at hwait
        cases item <;> cases hwait
    | finishing => exact hrunning.1 hwriter
    | ended | aborted => exact hrunning.2 (by rw [hwriter]; rfl)

end Follows

end Channel

end SocketGate
