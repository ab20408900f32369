import SocketGate.Proofs.Channel.Fidelity
import SocketGate.Proofs.Server.Slot
import SocketGate.Service.Builtin

/-!
# `SocketGate.Proofs.Server.Dispatch`: an opening handshake is answered in full or not at all

A request that goes to a service is answered with the bytes that complete the handshake, or
with those that refuse it. `Server.Stage` lists how far the answer can have come. The
connection stays without a session until the last byte of it is written and flushed, and a
failure on the way ends it for good.

* `Server.Stage.own`: what an action of the connection itself means to the answer.
* `Server.History.stage_of_run`: the answer after any actions.
* `Server.begins_of_hall`: no service of a hall closes a session as it begins.
* `Server.dispatch_of_actions`: the result of a request that goes to a service, what is
  written, and when a session begins.
-/

set_option autoImplicit false

namespace SocketGate

open Http (Request)

/-! ### The answer to a request -/

namespace Connection

/-- Some bytes of the answer are left, and they cannot be written. -/
def WriteFails (fault : IoFault) : Connection → Prop
  | replying transport _ unsent => unsent ≠ [] ∧ transport.writeFault = some fault
  | _ => False

/-- The answer is written, and it cannot be flushed. -/
def FlushFails (fault : IoFault) : Connection → Prop
  | replying transport _ unsent => unsent = [] ∧ transport.flushFault = some fault
  | _ => False

end Connection

/-- A handshake whose answer meets a failure is over. -/
theorem Connection.replied_of_fails {σ : Type} (site : Site σ) (time : Nat) (id : SessionId)
    (requests : List Call) {transport : Transport} {request : Request} {service : Nat}
    {unsent : Bytes} {fault : IoFault}
    (h : (replying transport (.upgrade request service) unsent).WriteFails fault ∨
      (replying transport (.upgrade request service) unsent).FlushFails fault) :
    replied site time id requests transport (.upgrade request service) unsent =
      finished transport.shutdown.2 (.error (.io fault)) := by
  rcases h with ⟨hunsent, hfault⟩ | ⟨rfl, hfault⟩
  · simp [replied, hunsent, Transport.isBlocked, Transport.write, hfault, failReply]
  · simp [replied, Transport.flush, hfault, failReply]

/-- What the application is told first about a connection is that its session begins. -/
theorem Connection.own_of_told {σ : Type} (site : Site σ) {now : Moment} (id : SessionId)
    (requests : List Call) {action : Server.Action} {connection : Connection}
    {told : Nat × SessionState × Event} (hnone : connection.channel? = none)
    (h : connection.told now action = some told) :
    ∃ channel, connection.own site now id requests action = .live told.1 channel := by
  unfold Connection.told at h
  split at h
  · cases hnone
  · rename_i slot transport request service unsent
    split at h
    · rename_i hready
      cases h
      rw [Bool.and_eq_true, List.isEmpty_iff, Option.isNone_iff_eq_none] at hready
      refine ⟨begun site now.time id transport request requests, ?_⟩
      simp [own, replied, Transport.flush, hready]
    · cases h
  · cases h

/-- A step of the peer sends nothing. -/
theorem Transport.sent_apply (transport : Transport) (step : PeerStep) :
    (transport.apply step).sent = transport.sent := by
  cases step <;> rfl

/-- What is written and what is left are the bytes that were to be written. -/
theorem Transport.sent_write {transport next : Transport} {bytes unsent : Bytes}
    (h : transport.write bytes = .ok (unsent, next)) :
    next.sent ++ unsent = transport.sent ++ bytes := by
  unfold write at h
  split at h
  · cases h
  · cases h
    rw [List.append_assoc, List.take_append_drop]

namespace Server

variable {σ : Type}

/-- How far a request to a service has come. The bytes in `before` were sent before it, and
the two predicates say which failures its answer has met. -/
inductive Stage (site : Site σ) (request : Request) (service : Nat) (before : Bytes)
    (writeFails flushFails : IoFault → Prop) : Connection → Prop where
  /-- It is being refused. -/
  | refusing (refusal : Refusal) (transport : Transport) (unsent : Bytes)
      (invalid : Handshake.ofRequest? request = .error refusal)
      (bytes : transport.sent ++ unsent = before ++ refusal.response) :
      Stage site request service before writeFails flushFails
        (.replying transport (.refusal refusal) unsent)
  /-- It is refused. All of the refusal is sent if no write failed. -/
  | refused (refusal : Refusal) (transport : Transport) (unsent : Bytes)
      (invalid : Handshake.ofRequest? request = .error refusal)
      (bytes : transport.sent ++ unsent = before ++ refusal.response)
      (whole : unsent ≠ [] → ∃ fault, writeFails fault) :
      Stage site request service before writeFails flushFails
        (.finished transport (.error (.handshake refusal)))
  /-- The handshake is being completed. -/
  | completing (handshake : Handshake) (transport : Transport) (unsent : Bytes)
      (valid : Handshake.ofRequest? request = .ok handshake)
      (bytes : transport.sent ++ unsent = before ++ handshake.response) :
      Stage site request service before writeFails flushFails
        (.replying transport (.upgrade request service) unsent)
  /-- The handshake could not be completed. All of the answer is sent if no write failed. -/
  | failed (handshake : Handshake) (fault : IoFault) (transport : Transport) (unsent : Bytes)
      (valid : Handshake.ofRequest? request = .ok handshake)
      (bytes : transport.sent ++ unsent = before ++ handshake.response)
      (cause : writeFails fault ∨ flushFails fault)
      (whole : unsent ≠ [] → writeFails fault) :
      Stage site request service before writeFails flushFails
        (.finished transport (.error (.io fault)))
  /-- The handshake is complete, and a session has begun and gone on. -/
  | begun (handshake : Handshake) (transport : Transport) (id : SessionId) (now : Nat)
      (actions : List Channel.Action)
      (valid : Handshake.ofRequest? request = .ok handshake)
      (bytes : transport.sent = before ++ handshake.response) :
      Stage site request service before writeFails flushFails
        (.live service ((Channel.ofTransport transport id request.path site.config.limits
          now).run actions))

namespace Stage

variable {site : Site σ} {request : Request} {service : Nat} {before : Bytes}
  {writeFails flushFails writeFails' flushFails' : IoFault → Prop} {connection : Connection}

/-- More failures may have been met. -/
theorem mono (h : Stage site request service before writeFails flushFails connection)
    (hwrite : ∀ fault, writeFails fault → writeFails' fault)
    (hflush : ∀ fault, flushFails fault → flushFails' fault) :
    Stage site request service before writeFails' flushFails' connection := by
  cases h with
  | refusing refusal transport unsent invalid bytes => exact .refusing _ _ _ invalid bytes
  | refused refusal transport unsent invalid bytes whole =>
    exact .refused _ _ _ invalid bytes fun hunsent => (whole hunsent).imp hwrite
  | completing handshake transport unsent valid bytes => exact .completing _ _ _ valid bytes
  | failed handshake fault transport unsent valid bytes cause whole =>
    exact .failed _ _ _ _ valid bytes (cause.imp (hwrite fault) (hflush fault))
      fun hunsent => hwrite fault (whole hunsent)
  | begun handshake transport id now actions valid bytes => exact .begun _ _ _ _ _ valid bytes

/-- The answer stands at its first byte. -/
theorem answer {transport : Transport} (hroute : site.route request = some service) :
    Stage site request service transport.sent writeFails flushFails
      (Server.answer site transport request) := by
  unfold Server.answer
  rw [hroute]
  dsimp only
  cases hrequest : Handshake.ofRequest? request with
  | error refusal => exact .refusing _ _ _ hrequest rfl
  | ok handshake => exact .completing _ _ _ hrequest rfl

/-- The channel goes on, if there is one. -/
theorem run (h : Stage site request service before writeFails flushFails connection)
    (actions : List Channel.Action) :
    Stage site request service before writeFails flushFails (connection.run actions) := by
  cases h with
  | refusing refusal transport unsent invalid bytes => exact .refusing _ _ _ invalid bytes
  | refused refusal transport unsent invalid bytes whole =>
    exact .refused _ _ _ invalid bytes whole
  | completing handshake transport unsent valid bytes => exact .completing _ _ _ valid bytes
  | failed handshake fault transport unsent valid bytes cause whole =>
    exact .failed _ _ _ _ valid bytes cause whole
  | begun handshake transport id now past valid bytes =>
    rw [Connection.run, ← Channel.run_append]
    exact .begun _ _ _ _ _ valid bytes

/-- The peer does something. -/
theorem peer (h : Stage site request service before writeFails flushFails connection)
    (step : PeerStep) :
    Stage site request service before writeFails flushFails
      (connection.mapTransport (·.apply step)) := by
  cases h with
  | refusing refusal transport unsent invalid bytes =>
    exact .refusing _ _ _ invalid (by rw [transport.sent_apply, bytes])
  | refused refusal transport unsent invalid bytes whole =>
    exact .refused _ _ unsent invalid (by rw [transport.sent_apply, bytes]) whole
  | completing handshake transport unsent valid bytes =>
    exact .completing _ _ _ valid (by rw [transport.sent_apply, bytes])
  | failed handshake fault transport unsent valid bytes cause whole =>
    exact .failed _ _ _ unsent valid (by rw [transport.sent_apply, bytes]) cause whole
  | begun handshake transport id now past valid bytes =>
    exact (begun handshake transport id now past valid bytes).run [.peer step]

/-- A step of the answer. If it meets a failure, this is one of those that are met. -/
theorem replied {transport : Transport} {reply : Reply} {unsent : Bytes}
    (h : Stage site request service before writeFails flushFails
      (.replying transport reply unsent)) (time : Nat) (id : SessionId) (requests : List Call)
    (hwrite : ∀ fault, (Connection.replying transport reply unsent).WriteFails fault →
      writeFails fault)
    (hflush : ∀ fault, (Connection.replying transport reply unsent).FlushFails fault →
      flushFails fault) :
    Stage site request service before writeFails flushFails
      (Connection.replied site time id requests transport reply unsent) := by
  unfold Connection.replied
  by_cases hempty : unsent = []
  · subst hempty
    simp only [List.isEmpty_nil, if_true]
    cases h with
    | refusing refusal transport unsent invalid bytes =>
      refine .refused _ _ [] invalid ?_ (absurd rfl)
      rw [← bytes]
      cases transport.flush <;> rfl
    | completing handshake transport unsent valid bytes =>
      cases hfault : transport.flushFault with
      | none =>
        simp only [Transport.flush, hfault]
        exact .begun _ _ _ _ _ valid (by rw [← bytes, List.append_nil])
      | some fault =>
        simp only [Transport.flush, hfault]
        exact .failed _ _ _ [] valid bytes (.inr (hflush fault ⟨rfl, hfault⟩)) (absurd rfl)
  · rw [if_neg (by simpa using hempty)]
    split
    · exact h
    · cases hfault : transport.writeFault with
      | some fault =>
        have hmet : writeFails fault := hwrite fault ⟨hempty, hfault⟩
        simp only [Transport.write, hfault]
        cases h with
        | refusing refusal transport unsent invalid bytes =>
          exact .refused _ _ unsent invalid bytes fun _ => ⟨fault, hmet⟩
        | completing handshake transport unsent valid bytes =>
          exact .failed _ _ _ unsent valid bytes (.inl hmet) fun _ => hmet
      | none =>
        split
        · rename_i hfailed
          simp [Transport.write, hfault] at hfailed
        · rename_i hwritten
          have hbytes := Transport.sent_write hwritten
          cases h with
          | refusing refusal transport unsent invalid bytes =>
            exact .refusing _ _ _ invalid (hbytes.trans bytes)
          | completing handshake transport unsent valid bytes =>
            exact .completing _ _ _ valid (hbytes.trans bytes)

/-- An action of the connection itself. -/
theorem own (h : Stage site request service before writeFails flushFails connection)
    (now : Moment) (id : SessionId) (requests : List Call) (action : Action)
    (hwrite : (∃ slot, action = .reply slot) → ∀ fault, connection.WriteFails fault →
      writeFails fault)
    (hflush : (∃ slot, action = .reply slot) → ∀ fault, connection.FlushFails fault →
      flushFails fault) :
    Stage site request service before writeFails flushFails
      (connection.own site now id requests action) := by
  have hsame (hown : connection.own site now id requests action = connection) :
      Stage site request service before writeFails flushFails
        (connection.own site now id requests action) := hown.symm ▸ h
  cases action with
  | peer slot step => exact h.peer step
  | call slot request => exact h.run [.call request]
  | head slot => exact hsame (by cases h <;> rfl)
  | reply slot =>
    cases connection with
    | replying transport reply unsent =>
      exact h.replied now.time id requests (hwrite ⟨slot, rfl⟩) (hflush ⟨slot, rfl⟩)
    | _ => exact hsame rfl
  | read slot wakeup =>
    cases connection with
    | live service' channel => exact h.run (.read now wakeup :: requests.map .call)
    | _ => exact hsame rfl
  | write slot =>
    cases connection with
    | live service' channel => exact h.run [.write now]
    | _ => exact hsame rfl
  | _ => exact hsame (by cases h <;> rfl)

end Stage

/-! ### Runs -/

namespace History

/-- Among these actions is a step of the answer in a slot that finds such a connection. -/
def Finds (site : Site σ) (history : History σ) (slot : Nat) (actions : List Action)
    (P : Connection → Prop) : Prop :=
  ∃ before after connection, actions = before ++ .reply slot :: after ∧
    (history.run site before).server.connections[slot]? = some connection ∧ P connection

theorem Finds.append {site : Site σ} {history : History σ} {slot : Nat} {actions : List Action}
    {P : Connection → Prop} (h : history.Finds site slot actions P) (more : List Action) :
    history.Finds site slot (actions ++ more) P := by
  obtain ⟨before, after, connection, rfl, hfound, hP⟩ := h
  exact ⟨before, after ++ more, connection, by simp, hfound, hP⟩

/-- How far the answer to a request has come after any actions. -/
theorem stage_of_run (site : Site σ) (history : History σ) {slot service : Nat}
    {transport : Transport} {request : Request} (hroute : site.route request = some service)
    (hanswer : history.server.connections[slot]? = some (answer site transport request))
    (actions : List Action) :
    ∃ connection, (history.run site actions).server.connections[slot]? = some connection ∧
      Stage site request service transport.sent
        (fun fault => history.Finds site slot actions (Connection.WriteFails fault))
        (fun fault => history.Finds site slot actions (Connection.FlushFails fault))
        connection := by
  induction actions using List.reverseRecOn with
  | nil => exact ⟨_, hanswer, .answer hroute⟩
  | append_singleton actions action ih =>
    obtain ⟨connection, hconnection, hstage⟩ := ih
    have hmore := hstage.mono
      (fun fault (hfinds : history.Finds site slot actions (Connection.WriteFails fault)) =>
        hfinds.append [action])
      (fun fault (hfinds : history.Finds site slot actions (Connection.FlushFails fault)) =>
        hfinds.append [action])
    rw [run_append]
    by_cases hslot : action.slot? = some slot
    · obtain ⟨calls, hacts⟩ := (history.run site actions).act_acts site hslot hconnection
      have hreply : (∃ slot', action = .reply slot') → action = .reply slot := by
        rintro ⟨slot', rfl⟩
        rw [Option.some.inj hslot]
      have hfinds {P : Connection → Prop} (haction : ∃ slot', action = .reply slot')
          (hP : P connection) : history.Finds site slot (actions ++ [action]) P :=
        ⟨actions, [], connection, by rw [hreply haction], hconnection, hP⟩
      exact ⟨_, hacts.own, hmore.own _ _ _ action (fun haction fault => hfinds haction)
        fun haction fault => hfinds haction⟩
    · obtain ⟨more, hmoved⟩ := (history.run site actions).act_elsewhere site hslot hconnection
      exact ⟨_, hmoved, hmore.run more⟩

/-- Nothing more is sent on a connection that is over. -/
theorem finished_of_run (site : Site σ) (history : History σ) {slot : Nat} {transport : Transport}
    {result : Except Failure Unit}
    (hfinished : history.server.connections[slot]? = some (.finished transport result))
    (actions : List Action) :
    ∃ transport', (history.run site actions).server.connections[slot]? =
      some (.finished transport' result) ∧ transport'.sent = transport.sent := by
  induction actions generalizing history transport with
  | nil => exact ⟨transport, hfinished, rfl⟩
  | cons action actions ih =>
    have hfirst : ∃ transport', (history.act site action).server.connections[slot]? =
        some (.finished transport' result) ∧ transport'.sent = transport.sent := by
      by_cases hslot : action.slot? = some slot
      · obtain ⟨calls, hacts⟩ := history.act_acts site hslot hfinished
        have hown := hacts.own
        cases action with
        | peer slot' step => exact ⟨_, hown, transport.sent_apply step⟩
        | _ => exact ⟨transport, hown, rfl⟩
      · obtain ⟨more, hmoved⟩ := history.act_elsewhere site hslot hfinished
        exact ⟨transport, hmoved, rfl⟩
    obtain ⟨middle, hmiddle, hsent⟩ := hfirst
    obtain ⟨last, hlast, hsent'⟩ := ih (history.act site action) hmiddle
    exact ⟨last, hlast, hsent'.trans hsent⟩

/-- An answer that completes a handshake fails when it meets a failure. -/
theorem failed_of_finds (site : Site σ) (history : History σ) {slot service : Nat}
    {transport : Transport} {request : Request} {handshake : Handshake}
    (hroute : site.route request = some service)
    (hvalid : Handshake.ofRequest? request = .ok handshake)
    (hanswer : history.server.connections[slot]? = some (answer site transport request))
    {actions : List Action} {fault : IoFault}
    (hfinds : history.Finds site slot actions (Connection.WriteFails fault) ∨
      history.Finds site slot actions (Connection.FlushFails fault)) :
    ∃ transport', (history.run site actions).server.connections[slot]? =
      some (.finished transport' (.error (.io fault))) := by
  have hsplit : ∃ before after connection, actions = before ++ .reply slot :: after ∧
      (history.run site before).server.connections[slot]? = some connection ∧
      (connection.WriteFails fault ∨ connection.FlushFails fault) := by
    rcases hfinds with ⟨before, after, connection, heq, hfound, hfails⟩ |
      ⟨before, after, connection, heq, hfound, hfails⟩
    · exact ⟨before, after, connection, heq, hfound, .inl hfails⟩
    · exact ⟨before, after, connection, heq, hfound, .inr hfails⟩
  obtain ⟨before, after, connection, rfl, hfound, hfails⟩ := hsplit
  have hfailed : ∃ transport',
      ((history.run site before).act site (.reply slot)).server.connections[slot]? =
        some (.finished transport' (.error (.io fault))) := by
    obtain ⟨calls, hacts⟩ := (history.run site before).act_acts site
      (show (Action.reply slot).slot? = some slot from rfl) hfound
    obtain ⟨connection', hfound', hstage⟩ := history.stage_of_run site hroute hanswer before
    obtain rfl := Option.some.inj (hfound.symm.trans hfound')
    cases hstage with
    | refusing refusal transport unsent invalid => simp [hvalid] at invalid
    | completing handshake transport unsent =>
      have hover := Connection.replied_of_fails site
        (history.run site before).server.now.time
        (site.newId ((history.run site before).server.issued + 1)) (calls slot) hfails
      exact ⟨_, hacts.own.trans (congrArg some hover)⟩
    | _ => rcases hfails with hfails | hfails <;> cases hfails
  obtain ⟨transport', hfinished⟩ := hfailed
  rw [run_append]
  obtain ⟨last, hlast, -⟩ := finished_of_run site _ hfinished after
  exact ⟨last, hlast⟩

end History

/-! ### A request that goes to a service -/

/-- Unless the peer takes nothing, a step of the answer ends it or writes some of it. -/
theorem replied_goesOn (site : Site σ) (time : Nat) (id : SessionId) (requests : List Call)
    (transport : Transport) (reply : Reply) (unsent : Bytes) :
    (unsent ≠ [] ∧ transport.writeFault = none ∧ transport.window = some 0) ∨
      (Connection.replied site time id requests transport reply unsent).result? ≠ none ∨
      ∃ transport' unsent',
        Connection.replied site time id requests transport reply unsent =
          .replying transport' reply unsent' ∧ unsent'.length < unsent.length := by
  unfold Connection.replied
  by_cases hempty : unsent = []
  · right
    left
    rw [if_pos (by simp [hempty])]
    cases reply with
    | upgrade request service => cases transport.flush <;> nofun
    | refusal refusal => nofun
    | page => nofun
  · rw [if_neg (by simpa using hempty)]
    by_cases hblocked : transport.isBlocked
    · left
      simpa [Transport.isBlocked, hempty] using hblocked
    · right
      rw [if_neg hblocked]
      cases hfault : transport.writeFault with
      | some fault =>
        left
        simp only [Transport.write, hfault]
        cases reply <;> nofun
      | none =>
        right
        simp only [Transport.write, hfault]
        refine ⟨_, _, rfl, ?_⟩
        -- The window lets one byte through at least.
        have hlength := List.length_pos_iff.mpr hempty
        have hroom : 0 < transport.room unsent.length := by
          unfold Transport.room
          cases hwindow : transport.window with
          | none => exact hlength
          | some size =>
            have hsize : size ≠ 0 := by simpa [Transport.isBlocked, hfault, hwindow] using hblocked
            show 0 < min size unsent.length
            omega
        rw [List.length_drop]
        omega

/-- What a channel has sent after these bytes is the first part of frames, one after the
other. -/
def SendsFrames (before : Bytes) (channel : Channel) : Prop :=
  ∃ (frames : List Frame) (pieces : List Bytes) (written : Bytes),
    frames.mapM Frame.write = .ok pieces ∧ written <+: pieces.flatten ∧
      channel.transport.sent = before ++ written

theorem sendsFrames_run (config : Config) (transport : Transport) (id : SessionId)
    (path : String) (now : Nat) (actions : List Channel.Action) :
    SendsFrames transport.sent
      ((Channel.ofTransport transport id path config.limits now).run actions) := by
  generalize hstart : Channel.ofTransport transport id path config.limits now = start
  have hsound : start.decoder.Sound := by
    rw [← hstart]
    nofun
  have hprogress : Channel.Progress start [] [] := by
    rw [← hstart]
    exact .idle [] rfl rfl rfl
  have hframeLimit : start.session.frameLimit < 2 ^ 64 := by
    rw [← hstart]
    exact config.maxFrameSize.toNat_lt
  have hbefore : start.transport.sent = transport.sent := by rw [← hstart]; rfl
  obtain ⟨written, hsent, hprogress⟩ := start.exists_progress actions [] [] hsound hprogress
  obtain ⟨operations, hbrief, -, henqueued, -⟩ := start.exists_operations actions hsound
  have hprefix := hprogress.written_prefix
  rw [List.nil_append, List.nil_append, henqueued, Frame.wires_eq_flatten] at hprefix
  have hwrite := Frame.mapM_write (Outbound.frames (start.session.enqueued operations))
    fun frame hframe => (start.session.sendable_of_mem_enqueued operations hbrief hframeLimit
      (max maxControlPayload start.session.frameLimit) (Nat.le_max_left _ _)
      (Nat.le_max_right _ _) frame hframe).2
  exact ⟨_, _, written, hwrite, hprefix, by rw [hsent, hbefore]⟩

/-- Calls that do not close it leave a session open. -/
theorem opened_run_calls (channel : Channel) (requests : List Call)
    (hopened : channel.session.state = .opened)
    (hspares : ∀ code text, .close code text ∉ requests) :
    (channel.run (requests.map .call)).session.state = .opened := by
  induction requests generalizing channel with
  | nil => exact hopened
  | cons request requests ih =>
    refine ih _ ?_ fun code text hmem => hspares code text (List.mem_cons_of_mem _ hmem)
    have hoffer (frames : List Frame) :
        (channel.session.offer frames).2.state = .opened := by
      unfold Session.offer
      split
      · exact hopened
      · split <;> exact hopened
    show (channel.session.call request).2.state = .opened
    cases request with
    | send message => exact hoffer _
    | ping =>
      show channel.session.ping.2.state = .opened
      unfold Session.ping Session.sendControl
      split
      · exact hopened
      · exact hoffer _
    | close code text => exact absurd List.mem_cons_self (hspares code text)

/-- What is known of a request that a connection has sent and that goes to a service, when
some actions have been done since it was read. -/
structure Dispatched (site : Site σ) (start : History σ) (actions : List Action)
    (slot service : Nat) (transport : Transport) (request : Request) (connection : Connection) :
    Prop where
  /-- What has been sent is the first part of the answer, or all of it and then what the
  session has sent. -/
  stage : Stage site request service transport.sent
    (fun fault => start.Finds site slot actions (Connection.WriteFails fault))
    (fun fault => start.Finds site slot actions (Connection.FlushFails fault)) connection
  /-- A session sends frames, after the last byte of the answer. -/
  written : ∀ channel, connection = .live service channel → ∃ handshake,
    Handshake.ofRequest? request = .ok handshake ∧
      SendsFrames (transport.sent ++ handshake.response) channel
  /-- A valid handshake fails exactly if a step of its answer has met a failure of the write
  or of the flush. -/
  fails : ∀ handshake, Handshake.ofRequest? request = .ok handshake → ∀ failure,
    connection.result? = some (.error failure) ↔ ∃ fault, failure = .io fault ∧
      (start.Finds site slot actions (Connection.WriteFails fault) ∨
        start.Finds site slot actions (Connection.FlushFails fault))
  /-- An invalid one never succeeds. -/
  refused : ∀ refusal, Handshake.ofRequest? request = .error refusal → ∀ result,
    connection.result? = some result → result = .error (.handshake refusal)
  /-- Unless the peer takes nothing, a step of the answer ends it or writes some of it. -/
  goesOn : ∀ sender reply unsent, connection = .replying sender reply unsent →
    (unsent ≠ [] ∧ sender.writeFault = none ∧ sender.window = some 0) ∨
      ∃ next, ((start.run site actions).act site (.reply slot)).server.connections[slot]? =
        some next ∧ (next.result? ≠ none ∨ ∃ sender' unsent',
          next = .replying sender' reply unsent' ∧ unsent'.length < unsent.length)
  /-- After a failure nothing more is sent. -/
  ends : ∀ failure, connection.result? = some (.error failure) → ∀ more, ∃ last,
    ((start.run site actions).run site more).server.connections[slot]? = some last ∧
      last.result? = some (.error failure) ∧ last.transport.sent = connection.transport.sent
  /-- As long as no session has begun, the application has been told nothing and nobody is in
  the registry for this connection. -/
  nobody : connection.channel? = none → (start.run site actions).server.callbacks slot = [] ∧
    ∀ id, (id, slot) ∉ (start.run site actions).server.registry
  /-- A step of the connection that does not begin a session leaves the registry and the log
  alone. -/
  aside : connection.channel? = none → ∀ action : Action, action.slot? = some slot →
    ((start.run site actions).act site action).server.channel? slot = none →
    ((start.run site actions).act site action).server.registry =
        (start.run site actions).server.registry ∧
      ((start.run site actions).act site action).server.log = (start.run site actions).server.log
  /-- When the last byte of the answer is written, and the flush does not fail, the session
  begins in the next step: it is registered and open, the application is told so, and unless
  the application then closes it, it stays open. -/
  begins : ∀ sender, connection = .replying sender (.upgrade request service) [] →
    sender.flushFault = none →
    let next := ((start.run site actions).act site (.reply slot)).server
    let id := site.newId ((start.run site actions).server.issued + 1)
    next.registry = (start.run site actions).server.registry.filter (·.1 ≠ id) ++ [(id, slot)] ∧
      next.log = (start.run site actions).server.log ++ [⟨slot, .opened, true, .opened⟩] ∧
      ∃ channel, next.connections[slot]? = some (.live service channel) ∧
        channel.session.id = id ∧
        ((∀ handle, (site.application.react (start.run site actions).server.services service
          handle .opened).Spares) → channel.session.state = .opened)
  /-- The application is told once that a session is open, and before anything else. -/
  opened : ∀ channel, connection = .live service channel → ∃ events,
    (start.run site actions).server.callbacks slot = (.opened, .opened) :: events ∧
      ∀ told ∈ events, told.2 ≠ .opened

/-- A session that begins is registered and open. -/
theorem begins_of_replying (site : Site σ) (history : History σ) {slot service : Nat}
    {sender : Transport} {request : Request}
    (hconnection : history.server.connections[slot]? =
      some (.replying sender (.upgrade request service) []))
    (hflush : sender.flushFault = none) :
    let next := (history.act site (.reply slot)).server
    let id := site.newId (history.server.issued + 1)
    next.registry = history.server.registry.filter (·.1 ≠ id) ++ [(id, slot)] ∧
      next.log = history.server.log ++ [⟨slot, .opened, true, .opened⟩] ∧
      ∃ channel, next.connections[slot]? = some (.live service channel) ∧
        channel.session.id = id ∧
        ((∀ handle, (site.application.react history.server.services service handle
          .opened).Spares) → channel.session.state = .opened) := by
  intro next id
  obtain ⟨hregistry, hlog⟩ := begin_entered site history.server sender request service
    (List.getElem?_eq_some_iff.mp hconnection).1
  obtain ⟨calls, hacts⟩ := history.act_acts site
    (show (Action.reply slot).slot? = some slot from rfl) hconnection
  have hnext : next = { begin site history.server slot sender request service with
      now := (begin site history.server slot sender request service).now.next } := by
    simp [next, History.act, History.perform, Server.perform, attempt, hconnection, writeReply,
      finishReply, Transport.flush, hflush]
  have hlive : next.connections[slot]? = some (.live service (Connection.begun site
      history.server.now.time id sender request (calls slot))) := by
    rw [hacts.own]
    simp [Connection.own, Connection.replied, Transport.flush, hflush, id]
  refine ⟨hnext ▸ hregistry, hnext ▸ hlog, _, hlive, ?_, fun hspares => ?_⟩
  · exact Channel.id_run _ _ fun header hpending => by cases hpending
  · have hcalls := hacts.spared (service, .opened, .opened)
      (by simp [Connection.told, hflush]) hspares slot
    have hstart (channel : Channel) : channel.start.session = channel.session := by
      unfold Channel.start
      split <;> rfl
    unfold Connection.begun
    rw [← List.cons_append, Channel.run_append]
    refine (congrArg Session.state (hstart _)).trans ?_
    exact opened_run_calls _ (calls slot) rfl hcalls

/-- No service of a hall closes a session that it is told is open. -/
theorem spares_of_opened (hall : Hall) (number : Nat) (handle : Handle) :
    (Hall.application.react hall number handle .opened).Spares := by
  unfold Hall.application
  dsimp only
  cases hall[number]? with
  | none => exact trivial
  | some service =>
    refine Script.Spares.map ?_ _
    cases service with
    | chat room =>
      -- Whoever comes in is welcomed, and the others are told.
      have hopened : (room.react handle .opened).Spares :=
        ⟨(fun _ _ h => by cases h), fun _ => Script.spares_tell _ _ _⟩
      exact hopened.map _
    | _ => exact trivial

/-- A session that begins in a hall is registered, and it is still open when its service has been
told so. -/
theorem begins_of_hall (site : Site Hall) (happlication : site.application = Hall.application)
    (history : History Hall) {slot service : Nat} {sender : Transport} {request : Request}
    (hconnection : history.server.connections[slot]? =
      some (.replying sender (.upgrade request service) []))
    (hflush : sender.flushFault = none) :
    let next := (history.act site (.reply slot)).server
    let id := site.newId (history.server.issued + 1)
    (id, slot) ∈ next.registry ∧
      ∃ channel, next.connections[slot]? = some (.live service channel) ∧
        channel.session.id = id ∧ channel.session.state = .opened := by
  intro next id
  obtain ⟨hregistry, -, channel, hlive, hid, hopened⟩ :=
    begins_of_replying site history hconnection hflush
  have hspares (handle : Handle) : (site.application.react history.server.services service handle
      .opened).Spares := by
    rw [happlication]
    exact spares_of_opened _ _ _
  refine ⟨?_, channel, hlive, hid, hopened hspares⟩
  rw [hregistry]
  exact List.mem_append_right _ (List.mem_singleton_self _)

/-- A request that goes to a service, after any actions on a server. -/
theorem dispatch_of_actions (site : Site σ) (services : σ) (before actions : List Action)
    (slot service : Nat) (transport : Transport) (request : Request)
    (hroute : site.route request = some service)
    (hanswer : ((fresh services).run site before).server.connections[slot]? =
      some (answer site transport request)) :
    let start := (fresh services).run site before
    ∃ connection, (start.run site actions).server.connections[slot]? = some connection ∧
      Dispatched site start actions slot service transport request connection := by
  intro start
  obtain ⟨connection, hconnection, hstage⟩ := start.stage_of_run site hroute hanswer actions
  have htraced : Traced site (start.run site actions).server := by
    rw [← History.run_append]
    exact .run site services _
  have hseated : Seated (start.run site actions).server := by
    rw [← History.run_append]
    exact .run site services _
  have hchannel := (start.run site actions).server.channel?_of_connection slot _ hconnection
  refine ⟨connection, hconnection, ?_⟩
  exact {
    stage := hstage
    written := by
      rintro channel rfl
      cases hstage with
      | begun handshake transport' id now past valid bytes =>
        exact ⟨handshake, valid, bytes ▸ sendsFrames_run site.config transport' id _ now past⟩
    fails := by
      intro handshake hvalid failure
      constructor
      · intro hresult
        cases hstage with
        | refused refusal transport unsent invalid => simp [hvalid] at invalid
        | failed handshake fault transport unsent valid bytes cause =>
          cases hresult
          exact ⟨fault, rfl, cause⟩
        | _ => cases hresult
      · rintro ⟨fault, rfl, hfinds⟩
        obtain ⟨transport', hover⟩ :=
          start.failed_of_finds site hroute hvalid hanswer hfinds
        rw [Option.some.inj (hconnection.symm.trans hover)]
        rfl
    refused := by
      intro refusal hinvalid result hresult
      cases hstage with
      | refused refusal' transport unsent invalid =>
        cases hresult
        rw [Except.error.inj (invalid.symm.trans hinvalid)]
      | failed handshake fault transport unsent valid => simp [hinvalid] at valid
      | begun handshake transport' id now past valid => simp [hinvalid] at valid
      | _ => cases hresult
    goesOn := by
      rintro sender reply unsent rfl
      obtain ⟨calls, hacts⟩ := (start.run site actions).act_acts site
        (show (Action.reply slot).slot? = some slot from rfl) hconnection
      exact (replied_goesOn site _ _ _ sender reply unsent).imp_right fun hnext =>
        ⟨_, hacts.own, hnext⟩
    ends := by
      intro failure hresult more
      cases connection with
      | finished transport' result =>
        cases hresult
        obtain ⟨last, hlast, hsent⟩ :=
          (start.run site actions).finished_of_run site hconnection more
        exact ⟨_, hlast, rfl, hsent⟩
      | _ => cases hresult
    nobody := by
      intro hnone
      rw [hnone] at hchannel
      refine ⟨htraced.silent slot hchannel, fun id hmem => ?_⟩
      have hid := hseated.own id slot hmem
      simp [idAt?, hchannel] at hid
    aside := by
      intro hnone action hslot hstill
      obtain ⟨calls, hacts⟩ := (start.run site actions).act_acts site hslot hconnection
      refine hacts.quiet (Option.eq_none_iff_forall_ne_some.mpr fun told htold => ?_)
      -- Before a session begins the application is told only that it does.
      obtain ⟨channel, hbegun⟩ := Connection.own_of_told site
        (site.newId ((start.run site actions).server.issued + 1)) (calls slot) hnone htold
      have hown := hacts.own
      rw [hbegun] at hown
      rw [channel?_of_connection _ slot _ hown] at hstill
      cases hstill
    begins := by
      rintro sender rfl hflush
      exact begins_of_replying site _ hconnection hflush
    opened := by
      rintro channel rfl
      obtain ⟨-, events, hcallbacks, hprotocol⟩ := htraced.protocol hconnection
      refine ⟨events, hcallbacks, fun told hmem heq => ?_⟩
      exact hprotocol.reported.opened_not_mem (heq ▸ List.mem_map_of_mem (f := (·.2)) hmem) }

/-- A handshake is completed in two steps of the answer, and then a session has begun. -/
theorem dispatch_of_actions_caller :
    ∃ transport request connection,
      quietSite.route request = some 0 ∧
      ((fresh ()).run quietSite [.connect caller, .head 0]).server.connections[0]? =
        some (answer quietSite transport request) ∧
      Dispatched quietSite ((fresh ()).run quietSite [.connect caller, .head 0])
        [.reply 0, .reply 0] 0 0 transport request connection ∧
      connection.result? = some (.ok ()) := by
  have hevaluated : ((Request.read caller.source).bind fun reading =>
        reading.1.toOption.join).isSome ∧
      (((fresh ()).run quietSite ([.connect caller, .head 0] ++
        [.reply 0, .reply 0])).server.connections.map fun connection =>
          connection.channel?.isSome) = [true] := by
    decide +kernel
  obtain ⟨hread, hlive⟩ := hevaluated
  obtain ⟨request, hrequest⟩ := Option.isSome_iff_exists.mp hread
  obtain ⟨⟨outcome, source⟩, hreading, houtcome⟩ := Option.bind_eq_some_iff.mp hrequest
  obtain rfl : outcome = .ok (some request) := by
    cases outcome with
    | error fault => cases houtcome
    | ok found => exact congrArg Except.ok houtcome
  have hhead : readHead quietSite caller =
      some (answer quietSite { caller with source } request) := by
    rw [readHead, hreading]
  have hanswer : ((fresh ()).run quietSite [.connect caller, .head 0]).server.connections[0]? =
      some (answer quietSite { caller with source } request) := by
    have hconnected : ((fresh ()).act quietSite (.connect caller)).server.connections[0]? =
        some (.awaitingHead caller) := rfl
    obtain ⟨calls, hacts⟩ := ((fresh ()).act quietSite (.connect caller)).act_acts quietSite
      (show (Action.head 0).slot? = some 0 from rfl) hconnected
    have hown := hacts.own
    rwa [Connection.own, hhead] at hown
  obtain ⟨connection, hconnection, hdispatched⟩ := dispatch_of_actions quietSite ()
    [.connect caller, .head 0] [.reply 0, .reply 0] 0 0 _ request rfl hanswer
  refine ⟨_, request, connection, rfl, hanswer, hdispatched, ?_⟩
  rw [← History.run_append] at hconnection
  have hchannel : connection.channel?.isSome := by
    have hfirst := List.getElem?_map (f := fun connection : Connection =>
      connection.channel?.isSome) (l := ((fresh ()).run quietSite ([.connect caller, .head 0] ++
        [.reply 0, .reply 0])).server.connections) (i := 0)
    rw [hlive, hconnection] at hfirst
    exact (Option.some.inj hfirst).symm
  cases connection with
  | live service channel => rfl
  | _ => cases hchannel

end Server

end SocketGate
