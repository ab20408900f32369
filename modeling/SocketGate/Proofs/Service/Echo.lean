import SocketGate.Config.Basic
import SocketGate.Proofs.Channel.Callbacks
import SocketGate.Proofs.Channel.Fidelity
import SocketGate.Proofs.Frame.Pieces
import SocketGate.Proofs.Server.Isolation
import SocketGate.Proofs.Service.Mailing

/-!
# `SocketGate.Proofs.Service.Echo`: what comes in goes out again

An echo sends every message back that is delivered to it. Its call is made before anything else
happens to the channel, so a run of a channel with an echo is a list of actions with the calls put
in between (`Channel.echoing`). Apart from that it is a run like any other. What is known of all
runs is known of it, and the actions are arbitrary: the peer may send anything in any pieces and
take as much as it likes, pongs and keepalives take places in the queue, and the session may be
closed at any time.

The argument goes through the offers of a run (`Channel.offers`), which are the messages that are
sent, each with the session as it is then. Those of an echo are what was delivered. An offer is
accepted or refused by what the session looks like, and a data frame is in the queue exactly if it
is a fragment of a message that was accepted.

* `Assembler.Carries.filter_isData`: the data frames among frames that hold messages.
* `Channel.accepted_eq_filter_offers`: which of the messages that are sent are accepted.
* `Channel.offers_echoing`: an echo sends what is delivered to it.
* `Channel.echoed_of_actions`: from the delivery of a message to the client at the other end.
-/

set_option autoImplicit false

namespace SocketGate

/-- The message that an event reports, if it reports one. -/
def Event.message? : Event → Option Message
  | .received message => some message
  | .opened | .failed _ | .closed _ => none

/-! ### The frames of messages -/

namespace Assembler

/-- A message has one frame at least. -/
theorem fragments_ne_nil (message : Message) (limit : Nat) : message.fragments limit ≠ [] := by
  rw [Message.fragments, Ne, List.mapIdx_eq_nil_iff]
  exact pieces_ne_nil message limit

/-- The data frames among frames that hold messages are the fragments of these. -/
theorem Carries.filter_isData {limit : Nat} {frames : List Frame} {messages : List Message}
    (h : Carries limit frames messages) :
    frames.filter (·.opcode.isData) = messages.flatMap (·.fragments limit) := by
  induction h with
  | nil => rfl
  | message message before ih =>
    have hdata : (message.fragments limit).filter (·.opcode.isData) = message.fragments limit := by
      refine List.filter_eq_self.mpr fun frame hframe => ?_
      obtain ⟨-, hcontrol, -⟩ := of_mem_fragments message limit frame hframe
      rw [Opcode.isData, hcontrol, Bool.not_false]
    rw [List.filter_append, ih, hdata, List.flatMap_append, List.flatMap_singleton]
  | control frame isControl before ih =>
    have hcontrol : frame.opcode.isData = false := by
      rw [Opcode.isData, isControl, Bool.not_true]
    rw [List.filter_append, ih, List.filter_singleton, hcontrol]
    exact List.append_nil _

end Assembler

/-- A client that is fed the first bytes of frames that hold messages meets no violation. It gets
the first of the messages, and all of them if all bytes are there. -/
theorem Decoder.collect_prefix {size limit bound : Nat} {frames : List Frame}
    {messages : List Message} {written : Bytes} (hcarries : Assembler.Carries size frames messages)
    (hframes : ∀ frame ∈ frames, frame.mask = none ∧ frame.Sendable limit)
    (hbound : ∀ message ∈ messages, message.payload.length ≤ bound)
    (hwritten : written <+: Frame.wires frames) :
    let found := (({ role := .client, limit } : Decoder).feed written).drain
    let read := ({ limit := bound } : Assembler).collect found.1
    found.2.1 = none ∧ read.2.1 = none ∧ read.1 <+: messages ∧
      (written = Frame.wires frames → read.1 = messages) := by
  intro found read
  have hbuffer : (({ role := .client, limit } : Decoder).feed written).buffer = written := by
    rw [feed_eq]
    rfl
  obtain ⟨hviolation, hfound, hall⟩ :=
    Decoder.drain_prefix (({ role := .client, limit } : Decoder).feed written) frames
      (fun frame hframe => by
        obtain ⟨hmask, hsendable⟩ := hframes frame hframe
        rw [feed_eq]
        exact ⟨hsendable, by simp [Frame.reader, hmask]⟩)
      (by rw [feed_eq]) (by rwa [hbuffer])
  -- All frames together give all messages, so the first frames give the first messages.
  have hcollect := Assembler.collect_of_carries hcarries { limit := bound } rfl hbound
  obtain ⟨hviolation', hread⟩ := Assembler.collect_prefix (by rw [hcollect]) hfound
  rw [hcollect] at hread
  refine ⟨hviolation, hviolation', hread, fun hwhole => ?_⟩
  have hframes : found.1 = frames := hall (by rw [hbuffer, hwhole])
  show (Assembler.collect _ found.1).1 = messages
  rw [hframes, hcollect]

namespace Channel

open Session (Operation)

/-! ### Messages that are offered -/

/-- The message that an action sends, if it sends one. -/
def Action.sent? : Action → Option Message
  | .call (.send message) => some message
  | _ => none

theorem Action.sent?_eq_none {action : Action} (h : ∀ message, action ≠ .call (.send message)) :
    action.sent? = none := by
  unfold sent?
  split
  · rename_i message
    exact absurd rfl (h message)
  · rfl

/-- The messages that are sent during some actions, accepted or not. Each is given with the
session as it is offered to. -/
def offers (channel : Channel) : List Action → List (Session × Message)
  | [] => []
  | action :: actions =>
    (action.sent?.map (channel.session, ·)).toList ++ (channel.after action).offers actions

theorem offers_append (channel : Channel) (before after : List Action) :
    channel.offers (before ++ after) =
      channel.offers before ++ (channel.run before).offers after := by
  induction before generalizing channel with
  | nil => rfl
  | cons action before ih =>
    rw [List.cons_append, offers, offers, ih, List.append_assoc]
    rfl

/-- A message is accepted if it is sent to a session that admits it. -/
theorem acceptedBy_eq (channel : Channel) (action : Action) :
    (channel.acceptedBy action).toList =
      ((action.sent?.map (channel.session, ·)).toList.filter fun offer =>
        offer.1.Admits offer.2).map (·.2) := by
  cases action with
  | call request =>
    cases request with
    | send message =>
      have hiff := (channel.session.offer_offered
        (message.fragments channel.session.frameLimit)).accepted_iff
      have hcall : (channel.call (.send message)).1 = (channel.session.send message).1 := rfl
      rw [acceptedBy, hcall]
      by_cases hadmits : channel.session.Admits message
      · rw [show (channel.session.send message).1 = .ok () from hiff.mpr hadmits]
        simp [Action.sent?, hadmits]
      · cases hsend : (channel.session.send message).1 with
        | ok _ => exact absurd (hiff.mp hsend) hadmits
        | error refusal => simp [Action.sent?, hadmits]
    | _ => rfl
  | _ => rfl

theorem accepted_eq_filter_offers (channel : Channel) (actions : List Action) :
    channel.accepted actions =
      ((channel.offers actions).filter fun offer => offer.1.Admits offer.2).map (·.2) := by
  induction actions generalizing channel with
  | nil => rfl
  | cons action actions ih =>
    rw [accepted, offers, List.filter_append, List.map_append, ih, acceptedBy_eq]

/-- An offer is made to the session as it is at some point of the run. -/
theorem exists_of_mem_offers {channel : Channel} {actions : List Action}
    {offer : Session × Message} (h : offer ∈ channel.offers actions) :
    ∃ before, offer.1 = (channel.run before).session := by
  induction actions generalizing channel with
  | nil => cases h
  | cons action actions ih =>
    rw [offers, List.mem_append] at h
    rcases h with hfirst | hlater
    · obtain ⟨message, -, rfl⟩ := Option.map_eq_some_iff.mp (Option.mem_toList.mp hfirst)
      exact ⟨[], rfl⟩
    · obtain ⟨before, hbefore⟩ := ih hlater
      exact ⟨action :: before, hbefore⟩

/-! ### Echoes -/

/-- What the service makes of what an action reports: it sends a message back. -/
def answers (channel : Channel) (action : Action) : List Action :=
  ((channel.told action).elim [] fun told => Service.echo.reactions told.2).map .call

/-- These actions on a channel that is served by an echo. The service is called whenever an action
reports something, before anything else happens. -/
def echoing (channel : Channel) : List Action → List Action
  | [] => []
  | action :: actions =>
    action :: (channel.answers action ++
      ((channel.after action).run (channel.answers action)).echoing actions)

/-- The messages that are delivered to the service during some actions. -/
def delivered (channel : Channel) (actions : List Action) : List Message :=
  (channel.events actions).filterMap (·.2.message?)

theorem delivered_cons (channel : Channel) (action : Action) (actions : List Action) :
    channel.delivered (action :: actions) =
      ((channel.told action).bind (·.2.message?)).toList ++
        (channel.after action).delivered actions := by
  rw [delivered, events, List.filterMap_append, delivered]
  cases channel.told action with
  | none => rfl
  | some told => cases hmessage : told.2.message? <;> simp [hmessage]

/-- Nothing is answered unless a message is delivered, and this message is sent then. -/
theorem answers_eq (channel : Channel) (action : Action) :
    channel.answers action =
      ((channel.told action).bind (·.2.message?)).toList.map fun message =>
        .call (.send message) := by
  unfold answers
  cases channel.told action with
  | none => rfl
  | some told =>
    obtain ⟨state, event⟩ := told
    cases event <;> rfl

/-- A message is delivered only while the session is open. -/
theorem opened_of_delivered {channel : Channel} {action : Action} {message : Message}
    (hsound : channel.decoder.Sound)
    (h : (channel.told action).bind (·.2.message?) = some message) :
    (channel.after action).session.state = .opened := by
  cases action with
  | read now wakeup =>
    cases hread : channel.read now wakeup with
    | none => simp [told, outcome, hread] at h
    | some step =>
      obtain ⟨next, event⟩ := step
      have hturn := read_turn hread hsound
      have hafter : channel.after (.read now wakeup) = next := by
        simp [after, outcome, hread]
      have hevent : event.bind (·.message?) = some message := by
        rw [← h]
        cases event <;> simp [told, outcome, hread]
      rw [hafter]
      cases hturn with
      | goOn operations received serves before after opened =>
        cases received with
        | none => cases hevent
        | some _ => exact opened rfl
      | leave operations reason failure serves before after => cases failure <;> cases hevent
      | drain reason left since deadline serves before after => cases hevent
      | finish reason since deadline result serves before after ended => cases hevent
      | abandon reason since deadline before after session sent aborted => cases hevent
  | _ => cases h

/-- The messages that an echo sends are those that are delivered to it, in order, if nobody else
sends any. -/
theorem offers_echoing (channel : Channel) (actions : List Action)
    (hsole : ∀ message, .call (.send message) ∉ actions) :
    (channel.offers (channel.echoing actions)).map (·.2) =
      channel.delivered (channel.echoing actions) := by
  induction actions generalizing channel with
  | nil => rfl
  | cons action actions ih =>
    have hrest := fun message h => hsole message (List.mem_cons_of_mem action h)
    have hquiet := Action.sent?_eq_none fun message h => hsole message (h ▸ List.mem_cons_self)
    rw [echoing, offers, delivered_cons, hquiet, answers_eq]
    cases hmessage : (channel.told action).bind (·.2.message?) with
    | none => exact ih (channel.after action) hrest
    | some message =>
      show ((channel.after action).offers (.call (.send message) :: _)).map (·.2) =
        [message] ++ (channel.after action).delivered (.call (.send message) :: _)
      rw [offers, delivered_cons, List.map_append]
      exact congrArg (message :: ·) (ih _ hrest)

/-- All that an echo sends is sent while the session is open. -/
theorem opened_of_mem_offers {channel : Channel} {actions : List Action}
    (hsound : channel.decoder.Sound) (hsole : ∀ message, .call (.send message) ∉ actions)
    {offer : Session × Message} (h : offer ∈ channel.offers (channel.echoing actions)) :
    offer.1.state = .opened := by
  induction actions generalizing channel with
  | nil => cases h
  | cons action actions ih =>
    have hrest := fun message h => hsole message (List.mem_cons_of_mem action h)
    have hquiet := Action.sent?_eq_none fun message h => hsole message (h ▸ List.mem_cons_self)
    have hafter := channel.sound_after action hsound
    rw [echoing, offers, hquiet, offers_append, Option.map_none, Option.toList_none,
      List.nil_append, List.mem_append] at h
    rcases h with hanswer | hlater
    · rw [answers_eq] at hanswer
      cases hmessage : (channel.told action).bind (·.2.message?) with
      | none =>
        rw [hmessage] at hanswer
        cases hanswer
      | some message =>
        rw [hmessage] at hanswer
        obtain rfl := List.mem_singleton.mp hanswer
        exact opened_of_delivered hsound hmessage
    · exact ih (sound_run _ _ hafter) hrest hlater

/-! ### Any run -/

/-- What becomes of the messages that are delivered to an echo during a run of a channel with this
configuration. -/
structure Echoed (config : Config) (start : Channel) (run : List Action) : Prop where
  /-- Every message that is delivered is sent once, in the order of delivery. -/
  offered : (start.offers run).map (·.2) = start.delivered run
  /-- The session is open then. So a message is refused for one of two reasons: the writer is gone,
  or there are too many items with those of the message. -/
  refused : ∀ session message, (session, message) ∈ start.offers run →
    session.state = .opened ∧
    ((session.send message).1 = .ok () ↔ session.outbox.attached = true ∧
      session.outbox.waiting.length + (message.fragments config.maxFrameSize.toNat).length ≤
        config.maxQueuedFrames.toNat) ∧
    ((session.send message).1 = .error .sessionClosed ↔ session.outbox.attached = false) ∧
    ((session.send message).1 = .error .queueFull ↔ session.outbox.attached = true ∧
      config.maxQueuedFrames.toNat <
        session.outbox.waiting.length + (message.fragments config.maxFrameSize.toNat).length)
  /-- The data frames that enter the queue are those of the messages that are not refused, and each
  of these has one at least. Of a message that is refused there is none. -/
  enqueued : (∀ message : Message, message.fragments config.maxFrameSize.toNat ≠ []) ∧
    (Outbound.frames (start.enqueued run)).filter (·.opcode.isData) =
      (start.offers run).flatMap fun offer =>
        match (offer.1.send offer.2).1 with
        | .ok () => offer.2.fragments config.maxFrameSize.toNat
        | .error _ => []
  /-- A client that accepts control frames and frames of the configured size, and messages as long
  as those that were not refused, reads what was written without a violation. It gets some of the
  delivered messages, in their order: the first ones of those that were not refused, and all of
  these if everything was written. -/
  received : ∃ written, (start.run run).transport.sent = start.transport.sent ++ written ∧
    ∀ limit bound, maxControlPayload ≤ limit → config.maxFrameSize.toNat ≤ limit →
      (∀ message ∈ start.accepted run, message.payload.length ≤ bound) →
      let found := (({ role := .client, limit } : Decoder).feed written).drain
      let read := ({ limit := bound } : Assembler).collect found.1
      found.2.1 = none ∧ read.2.1 = none ∧
        read.1.Sublist (start.delivered run) ∧ read.1 <+: start.accepted run ∧
        (written = Frame.wires (Outbound.frames (start.enqueued run)) →
          read.1 = start.accepted run)

/-- The limits that an offer is measured by are those of the configuration. -/
theorem limits_of_mem_offers (config : Config) (transport : Transport) (id : SessionId)
    (path : String) (now : Nat) {actions : List Action} {offer : Session × Message}
    (h : offer ∈ (ofTransport transport id path config.limits now).offers actions) :
    offer.1.frameLimit = config.maxFrameSize.toNat ∧
      offer.1.outbox.limit = config.maxQueuedFrames.toNat := by
  obtain ⟨before, hbefore⟩ := exists_of_mem_offers h
  obtain ⟨operations, -, hrun, -, -⟩ :=
    (ofTransport transport id path config.limits now).exists_operations before nofun
  rw [hbefore, hrun]
  exact ⟨Session.frameLimit_run _ operations, Session.limit_run _ _ _ _ _ operations⟩

/-- A message that is sent to an open session is refused if the writer is gone or if too many items
wait, and for no other reason. -/
theorem refused_of_opened {session : Session} (hopened : session.state = .opened)
    (message : Message) :
    ((session.send message).1 = .ok () ↔ session.outbox.attached = true ∧
      session.outbox.waiting.length + (message.fragments session.frameLimit).length ≤
        session.outbox.limit) ∧
    ((session.send message).1 = .error .sessionClosed ↔ session.outbox.attached = false) ∧
    ((session.send message).1 = .error .queueFull ↔ session.outbox.attached = true ∧
      session.outbox.limit <
        session.outbox.waiting.length + (message.fragments session.frameLimit).length) := by
  have hoffered := session.offer_offered (message.fragments session.frameLimit)
  have hstate : session.state = .handshakeDone ∨ session.state = .opened := .inr hopened
  refine ⟨hoffered.accepted_iff.trans ?_, hoffered.closed_iff.trans ?_, hoffered.full_iff.trans ?_⟩
  · rw [and_iff_right hstate]
  · rw [or_iff_right (not_not.mpr hstate)]
  · rw [and_iff_right hstate]

/-- The fragments of the messages that are accepted, message by message of those that are sent. -/
theorem flatMap_fragments_accepted (channel : Channel) (actions : List Action) (limit : Nat) :
    (channel.accepted actions).flatMap (·.fragments limit) =
      (channel.offers actions).flatMap fun offer =>
        match (offer.1.send offer.2).1 with
        | .ok () => offer.2.fragments limit
        | .error _ => [] := by
  rw [accepted_eq_filter_offers]
  induction channel.offers actions with
  | nil => rfl
  | cons offer offers ih =>
    have hiff := (offer.1.offer_offered (offer.2.fragments offer.1.frameLimit)).accepted_iff
    rw [List.flatMap_cons, ← ih]
    by_cases hadmits : offer.1.Admits offer.2
    · rw [show (offer.1.send offer.2).1 = .ok () from hiff.mpr hadmits,
        List.filter_cons_of_pos (by simpa using hadmits), List.map_cons, List.flatMap_cons]
    · rw [List.filter_cons_of_neg (by simpa using hadmits)]
      cases hsend : (offer.1.send offer.2).1 with
      | ok _ => exact absurd (hiff.mp hsend) hadmits
      | error refusal => rfl

/-- An echo is faithful, whatever happens to its channel, as long as nobody else sends messages on
the session: whatever comes in and in whatever pieces, whenever the reader and the writer go on,
whatever the peer takes, and whatever pings, keepalives and closes compete for the queue. -/
theorem echoed_of_actions (config : Config) (transport : Transport) (id : SessionId)
    (path : String) (now : Nat) (actions : List Action)
    (hsole : ∀ message, .call (.send message) ∉ actions) :
    let start := ofTransport transport id path config.limits now
    Echoed config start (start.echoing actions) := by
  intro start
  have hsound : start.decoder.Sound := nofun
  have hoffered := start.offers_echoing actions hsole
  generalize hrun : start.echoing actions = run at hoffered
  have haccepted : (start.accepted run).Sublist (start.delivered run) := by
    rw [accepted_eq_filter_offers, ← hoffered]
    exact List.filter_sublist.map _
  obtain ⟨operations, hbrief, -, henqueued, haccepted'⟩ := start.exists_operations run hsound
  have hcarries : Assembler.Carries config.maxFrameSize.toNat
      (Outbound.frames (start.enqueued run)) (start.accepted run) := by
    have h := start.session.carries_enqueued operations hbrief [] [] .nil
    rwa [← henqueued, ← haccepted'] at h
  refine ⟨hoffered, ?_, ⟨?_, ?_⟩, ?_⟩
  · intro session message hmem
    obtain ⟨hframe, hqueue⟩ := limits_of_mem_offers config transport id path now hmem
    rw [← hrun] at hmem
    have hopened : session.state = .opened := opened_of_mem_offers hsound hsole hmem
    have hrefused := refused_of_opened hopened message
    dsimp only at hframe hqueue
    rw [hframe, hqueue] at hrefused
    exact ⟨hopened, hrefused⟩
  · exact fun message => Assembler.fragments_ne_nil message config.maxFrameSize.toNat
  · rw [hcarries.filter_isData, flatMap_fragments_accepted]
  · have hstart : Progress start [] [] := .idle [] rfl rfl rfl
    obtain ⟨written, hsent, hprogress⟩ := start.exists_progress run [] [] hsound hstart
    refine ⟨written, hsent, ?_⟩
    intro limit bound hcontrol hdata hbound found read
    have hframes : ∀ frame ∈ Outbound.frames (start.enqueued run),
        frame.mask = none ∧ frame.Sendable limit := by
      rw [henqueued]
      exact start.session.sendable_of_mem_enqueued operations hbrief config.maxFrameSize.toNat_lt
        limit hcontrol hdata
    obtain ⟨hviolation, hviolation', hread, hall⟩ :=
      Decoder.collect_prefix hcarries hframes hbound hprogress.written_prefix
    exact ⟨hviolation, hviolation', hread.sublist.trans haccepted, hread, hall⟩

/-- A client sends a text in two frames, a ping, and two byte strings of one byte each. -/
def pingedEcho : Channel :=
  ofTransport { source := { bytes :=
      [0x01, 0x82, 0, 0, 0, 0, 0x68, 0x69, 0x80, 0x81, 0, 0, 0, 0, 0x21, 0x89, 0x80, 0, 0, 0, 0,
        0x82, 0x81, 0, 0, 0, 0, 1, 0x82, 0x81, 0, 0, 0, 0, 2] } } ⟨0, 0⟩ "/"
    { maxFrameSize := 2, maxQueuedFrames := 3 : Config }.limits 0

/-- The writer starts when the first byte string has been read, and has sent one frame when the
second one is read. -/
def pingedEchoActions : List Action :=
  [.announce, .start, .read ⟨0, 0⟩ .inbound, .read ⟨0, 1⟩ .inbound, .read ⟨0, 2⟩ .inbound,
    .read ⟨0, 3⟩ .inbound, .write ⟨0, 4⟩, .write ⟨0, 5⟩, .write ⟨0, 6⟩, .read ⟨0, 7⟩ .inbound]

/-- The echo of the first byte string finds the queue full of the two frames of the text and of the
pong, so it is missing. -/
theorem echoed_of_actions_pingedEcho :
    (∀ message, .call (.send message) ∉ pingedEchoActions) ∧
    Echoed { maxFrameSize := 2, maxQueuedFrames := 3 } pingedEcho
      (pingedEcho.echoing pingedEchoActions) ∧
    pingedEcho.delivered (pingedEcho.echoing pingedEchoActions) =
      [.text "hi!", .binary [1], .binary [2]] ∧
    pingedEcho.accepted (pingedEcho.echoing pingedEchoActions) = [.text "hi!", .binary [2]] ∧
    (pingedEcho.run (pingedEcho.echoing pingedEchoActions)).transport.sent =
      [0x01, 0x02, 0x68, 0x69] := by
  have hsole : ∀ message, .call (.send message) ∉ pingedEchoActions := by
    simp [pingedEchoActions]
  exact ⟨hsole, echoed_of_actions _ _ _ _ _ _ hsole, by decide +kernel, by decide +kernel,
    by decide +kernel⟩

end Channel

end SocketGate
