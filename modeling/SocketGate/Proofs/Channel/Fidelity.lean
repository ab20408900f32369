import SocketGate.Config.Basic
import SocketGate.Proofs.Channel.History

/-!
# `SocketGate.Proofs.Channel.Fidelity`: the peer gets what was queued

`Progress` compares the bytes that a channel has sent with all that ever entered its
outbox. While the writer is idle these bytes are the frames that it has taken, whole; while
it sends they become so with the bytes that are left; and when it has sent its last byte
they are the first part of all that was queued. An item that is queued comes behind those
that wait, so the comparison goes on whatever happens in between (`Progress.turn`).

* `Channel.exists_progress`: after any actions the bytes sent are the first part of the
  queued frames on the wire.
* `Channel.wireFidelity_of_actions`: so a client that reads these bytes meets no violation,
  and it gets the first of the messages that were accepted, each one whole and in order.
-/

set_option autoImplicit false

namespace SocketGate

namespace Frame

theorem wires_eq_flatten (frames : List Frame) : wires frames = (frames.map wire).flatten :=
  List.flatMap_def

/-- Frames that can be sent are all written. -/
theorem mapM_write {limit : Nat} (frames : List Frame)
    (h : ∀ frame ∈ frames, frame.Sendable limit) :
    frames.mapM write = .ok (frames.map wire) := by
  induction frames with
  | nil => rfl
  | cons frame frames ih =>
    have hrest := ih fun other hother => h other (List.mem_cons_of_mem frame hother)
    rw [List.mapM_cons, (h frame List.mem_cons_self).write, hrest]
    rfl

end Frame

namespace Channel

/-- What the peer got, `written`, against all that ever entered the outbox, `past`. -/
inductive Progress (channel : Channel) (past : List Outbound) (written : Bytes) : Prop where
  /-- All that was taken has been sent. -/
  | idle (taken : List Outbound) (writer : channel.writer = .idle)
      (past_eq : past = taken ++ channel.session.outbox.waiting)
      (written_eq : written = Frame.wires (Outbound.frames taken))
  /-- All that was taken has been sent, but for the bytes that are left. -/
  | sending (taken : List Outbound) (unsent : Bytes) (isClose : Bool)
      (writer : channel.writer = .sending unsent isClose)
      (past_eq : past = taken ++ channel.session.outbox.waiting)
      (written_eq : written ++ unsent = Frame.wires (Outbound.frames taken))
  /-- Nothing more is sent. -/
  | spent (writer : channel.writer.isSpent)
      (isPrefix : written <+: Frame.wires (Outbound.frames past))

namespace Progress

variable {channel next : Channel} {past : List Outbound} {written : Bytes}

/-- The peer got the first part of what was queued. -/
theorem written_prefix (h : Progress channel past written) :
    written <+: Frame.wires (Outbound.frames past) := by
  cases h with
  | idle taken writer past_eq written_eq =>
    rw [past_eq, written_eq, Outbound.frames_append, Frame.wires_append]
    exact List.prefix_append _ _
  | sending taken unsent isClose writer past_eq written_eq =>
    rw [past_eq, Outbound.frames_append, Frame.wires_append, ← written_eq, List.append_assoc]
    exact List.prefix_append _ _
  | spent writer isPrefix => exact isPrefix

/-- Items are queued behind those that wait. -/
theorem queue (h : Progress channel past written) (items : List Outbound)
    (houtbox : next.session.outbox = channel.session.outbox.append items)
    (hwriter : next.writer = channel.writer) : Progress next (past ++ items) written := by
  have hwaiting : next.session.outbox.waiting = channel.session.outbox.waiting ++ items := by
    rw [houtbox, Outbox.waiting_append]
  cases h with
  | idle taken writer past_eq written_eq =>
    exact .idle taken (hwriter.trans writer)
      (by rw [past_eq, hwaiting, List.append_assoc]) written_eq
  | sending taken unsent isClose writer past_eq written_eq =>
    exact .sending taken unsent isClose (hwriter.trans writer)
      (by rw [past_eq, hwaiting, List.append_assoc]) written_eq
  | spent writer isPrefix =>
    refine .spent (hwriter ▸ writer) ?_
    rw [Outbound.frames_append, Frame.wires_append]
    exact isPrefix.trans (List.prefix_append _ _)

/-- The writer goes on. Nothing is queued meanwhile. -/
theorem write (h : Progress channel past written) (hturn : WriteTurn channel next) :
    ∃ more, next.transport.sent = channel.transport.sent ++ more ∧
      Progress next past (written ++ more) := by
  -- Each step of the writer begins in one of the three activities, which excludes the others.
  cases hturn with
  | take frame bytes isClose rest before waiting write after session remaining sent =>
    cases h with
    | idle taken writer past_eq written_eq =>
      -- The frame goes over from what waits to what was taken, and none of it is sent yet.
      have hbytes : bytes = frame.wire := ((frame.write_eq_ok_iff bytes).mp write).2
      have hframes : Outbound.frames (taken ++ [.frame frame]) =
          Outbound.frames taken ++ [frame] := by
        rw [Outbound.frames_append]
        rfl
      refine ⟨[], by rw [sent, List.append_nil], ?_⟩
      refine .sending (taken ++ [.frame frame]) bytes isClose after ?_ ?_
      · rw [past_eq, waiting, remaining, List.append_assoc]
        rfl
      · rw [hframes, Frame.wires_append, written_eq, hbytes, List.append_nil]
        simp [Frame.wires]
    | sending taken unsent isClose' writer past_eq written_eq => simp [before] at writer
    | spent writer isPrefix => simp [before, Writer.isSpent] at writer
  | send bytes unsent isClose before after session sent =>
    cases h with
    | idle taken writer past_eq written_eq => simp [before] at writer
    | sending taken unsent' isClose' writer past_eq written_eq =>
      obtain ⟨rfl, rfl⟩ : bytes ++ unsent = unsent' ∧ isClose = isClose' := by
        simpa [before] using writer
      -- The bytes go over from what is left to what is written.
      refine ⟨bytes, sent, .sending taken unsent isClose after ?_ ?_⟩
      · rw [past_eq, session]
      · rw [List.append_assoc, written_eq]
    | spent writer isPrefix => simp [before, Writer.isSpent] at writer
  | flush isClose before after session sent =>
    cases h with
    | idle taken writer past_eq written_eq => simp [before] at writer
    | sending taken unsent isClose' writer past_eq written_eq =>
      obtain ⟨rfl, rfl⟩ : [] = unsent ∧ isClose = isClose' := by simpa [before] using writer
      refine ⟨[], by rw [sent, List.append_nil], .idle taken after ?_ ?_⟩
      · rw [past_eq, session]
      · exact written_eq
    | spent writer isPrefix => simp [before, Writer.isSpent] at writer
  | retire operations writers after session sent =>
    -- What was taken but not written is lost, so only the prefix remains true.
    refine ⟨[], by rw [sent, List.append_nil], .spent after ?_⟩
    rw [List.append_nil]
    exact h.written_prefix

/-- Whatever happens, the comparison goes on with what is sent and what is queued. -/
theorem turn {messages : List Message} (h : Progress channel past written)
    (hturn : Turn channel next messages) :
    ∃ more, next.transport.sent = channel.transport.sent ++ more ∧
      Progress next (past ++ channel.session.outbox.added next.session.outbox)
        (written ++ more) := by
  cases hturn with
  | perform operations performs writer sent =>
    refine ⟨[], by rw [sent, List.append_nil], ?_⟩
    rw [performs.added_eq, List.append_nil]
    exact h.queue _ performs.outbox_eq writer
  | write turn =>
    obtain ⟨more, hsent, hmore⟩ := h.write turn
    obtain ⟨operations, hwriters, hsession⟩ := turn.exists_writers
    have hnothing : channel.session.outbox.added next.session.outbox = [] := by
      rw [hsession, Session.added_of_writers _ _ hwriters]
    rw [hnothing, List.append_nil]
    exact ⟨more, hsent, hmore⟩
  | abandon session sent aborted =>
    have hnothing : channel.session.outbox.added next.session.outbox = [] := by
      rw [session, Session.added_of_writers _ _ (by simp [Session.Operation.isWriters])]
    rw [hnothing, List.append_nil]
    refine ⟨[], by rw [sent, List.append_nil], .spent (by rw [aborted]; rfl) ?_⟩
    rw [List.append_nil]
    exact h.written_prefix

end Progress

/-- After any actions the peer has got the first part of all that was queued. -/
theorem exists_progress (channel : Channel) (actions : List Action) (past : List Outbound)
    (written : Bytes) (hsound : channel.decoder.Sound) (h : Progress channel past written) :
    ∃ more, (channel.run actions).transport.sent = channel.transport.sent ++ more ∧
      Progress (channel.run actions) (past ++ channel.enqueued actions) (written ++ more) := by
  induction actions generalizing channel past written with
  | nil =>
    refine ⟨[], (List.append_nil _).symm, ?_⟩
    rw [enqueued, List.append_nil, List.append_nil]
    exact h
  | cons action actions ih =>
    obtain ⟨first, hsent, hfirst⟩ := h.turn (channel.after_turn action hsound)
    obtain ⟨rest, hsent', hrest⟩ :=
      ih (channel.after action) _ _ (channel.sound_after action hsound) hfirst
    refine ⟨first ++ rest, ?_, ?_⟩
    · rw [← List.append_assoc, ← hsent]
      exact hsent'
    · rw [enqueued, ← List.append_assoc, ← List.append_assoc]
      exact hrest

/-- The wire carries what a session queues, for any actions on a channel whose opening
handshake has just been completed. In order:

- every frame that was queued can be written;
- the bytes sent since then are the first part of these frames, one after the other;
- a client reads these bytes without a violation, if it accepts control frames and frames of
  the configured size, and gets the first of the frames;
- it puts messages together from them without a violation, if it accepts the messages that
  were accepted for sending, and gets the first of these, in the same order. When all bytes
  are there, so are all messages. -/
theorem wireFidelity_of_actions (config : Config) (transport : Transport) (id : SessionId)
    (path : String) (now : Nat) (actions : List Action) :
    let start := ofTransport transport id path config.limits now
    let frames := Outbound.frames (start.enqueued actions)
    let messages := start.accepted actions
    ∃ pieces written, frames.mapM Frame.write = .ok pieces ∧
      (start.run actions).transport.sent = transport.sent ++ written ∧
      written <+: pieces.flatten ∧
      ∀ limit bound, maxControlPayload ≤ limit → config.maxFrameSize.toNat ≤ limit →
        (∀ message ∈ messages, message.payload.length ≤ bound) →
        let found := (({ role := .client, limit } : Decoder).feed written).drain
        let read := ({ limit := bound } : Assembler).collect found.1
        found.2.1 = none ∧ found.1 <+: frames ∧ read.2.1 = none ∧ read.1 <+: messages ∧
          (written = pieces.flatten → found.1 = frames ∧ read.1 = messages) := by
  intro start frames messages
  have hsound : start.decoder.Sound := nofun
  have hstart : Progress start [] [] := .idle [] rfl rfl rfl
  obtain ⟨written, hsent, hprogress⟩ := start.exists_progress actions [] [] hsound hstart
  have hprefix : written <+: Frame.wires frames := hprogress.written_prefix
  obtain ⟨operations, hbrief, -, henqueued, haccepted⟩ := start.exists_operations actions hsound
  have hframeLimit : start.session.frameLimit < 2 ^ 64 := config.maxFrameSize.toNat_lt
  -- Each frame is fit for any client that accepts control frames and data frames.
  have hfit : ∀ limit, maxControlPayload ≤ limit → config.maxFrameSize.toNat ≤ limit →
      ∀ frame ∈ frames, frame.mask = none ∧ frame.Sendable limit := by
    intro limit hcontrol hdata frame hframe
    rw [show frames = Outbound.frames (start.session.enqueued operations) from
      congrArg Outbound.frames henqueued] at hframe
    exact start.session.sendable_of_mem_enqueued operations hbrief hframeLimit limit hcontrol
      hdata frame hframe
  have hcarries : Assembler.Carries start.session.frameLimit frames messages := by
    have h := start.session.carries_enqueued operations hbrief [] [] .nil
    rwa [← henqueued, ← haccepted] at h
  have hwrite : frames.mapM Frame.write = .ok (frames.map Frame.wire) :=
    Frame.mapM_write frames fun frame hframe =>
      (hfit (max maxControlPayload config.maxFrameSize.toNat) (Nat.le_max_left _ _)
        (Nat.le_max_right _ _) frame hframe).2
  rw [Frame.wires_eq_flatten] at hprefix
  refine ⟨frames.map Frame.wire, written, hwrite, hsent, hprefix, ?_⟩
  intro limit bound hcontrol hdata hbound found read
  rw [← Frame.wires_eq_flatten] at hprefix ⊢
  -- Feeding an empty byte string leaves the buffer alone, so there are two cases here.
  have hfeed : ({ role := .client, limit } : Decoder).feed written =
      { role := .client, limit, buffer := written } := by
    unfold Decoder.feed
    split
    · rename_i hempty
      rw [List.isEmpty_iff.mp hempty]
    · rfl
  obtain ⟨hviolation, hfound, hall⟩ :=
    Decoder.drain_prefix { role := .client, limit, buffer := written } frames
      (fun frame hframe => by
        obtain ⟨hmask, hsendable⟩ := hfit limit hcontrol hdata frame hframe
        exact ⟨hsendable, by simp [Frame.reader, hmask]⟩) rfl hprefix
  rw [← hfeed] at hviolation hfound hall
  -- All frames together give all messages, so the first frames give the first messages.
  have hcollect := Assembler.collect_of_carries hcarries { limit := bound } rfl hbound
  obtain ⟨hviolation', hread⟩ := Assembler.collect_prefix (by rw [hcollect]) hfound
  rw [hcollect] at hread
  refine ⟨hviolation, hfound, hviolation', hread, fun hwritten => ?_⟩
  have hframes : found.1 = frames := hall (by rw [hfeed]; exact hwritten)
  refine ⟨hframes, ?_⟩
  show (Assembler.collect _ found.1).1 = messages
  rw [hframes, hcollect]

end Channel

end SocketGate
