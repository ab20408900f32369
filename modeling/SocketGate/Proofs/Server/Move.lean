import SocketGate.Proofs.Channel.History
import SocketGate.Server.Step

/-!
# `SocketGate.Proofs.Server.Move`: the changes that a server is made of

Whatever is done to a server is a sequence of small changes, and `Server.Move` lists them:
a connection comes, or its request is answered; a session begins; a channel acts, and the
application may be told about it; a sweep expires a session. The reaction of an application
is such a sequence too, since all it can do is call sessions. Every invariant of a server
is proved for one change and then holds for every run.

A change has the id of the session that it expires, if it expires one, and `Server.Moves`
collects these ids.

* `Server.deliver_moves`: an application that is told something only calls sessions.
* `Server.attempt_moves`, `Server.sweepOver_moves`: what a task and what a sweep does.
* `Server.Move.follow`: a channel that is live stays so in its slot, it goes on by its own
  actions, and what the application is told about it is what these report.
-/

set_option autoImplicit false

namespace SocketGate

open Http (Request)

namespace Server

variable {σ : Type}

/-! ### Changes -/

/-- What the application was told about the session in a slot, each time with the state of
that session. -/
def callbacks (server : Server σ) (slot : Nat) : List (SessionState × Event) :=
  (server.log.filter fun line => line.slot = slot).map fun line => (line.state, line.event)

/-- One change from `server` to `next`, which may expire a session. -/
inductive Move (site : Site σ) (server next : Server σ) : Option SessionId → Prop where
  /-- Nothing happens to the connections, the registry and the log. -/
  | rest (connections : next.connections = server.connections)
      (registry : next.registry = server.registry) (log : next.log = server.log) :
      Move site server next none
  /-- A peer connects. -/
  | connect (transport : Transport)
      (connections : next.connections = server.connections ++ [.awaitingHead transport])
      (registry : next.registry = server.registry) (log : next.log = server.log) :
      Move site server next none
  /-- Something happens to a connection that is no channel, and it does not become one. -/
  | answer (slot : Nat) (connection : Connection) (before : server.channel? slot = none)
      (after : connection.channel? = none)
      (connections : next.connections = server.connections.set slot connection)
      (registry : next.registry = server.registry) (log : next.log = server.log) :
      Move site server next none
  /-- A session begins: it is registered and announced. -/
  | upgrade (slot service : Nat) (transport : Transport) (id : SessionId) (path : String)
      (now : Nat) (before : server.channel? slot = none)
      (inRange : slot < server.connections.length)
      (connections : next.connections = server.connections.set slot
        (.live service (Channel.ofTransport transport id path site.config.limits now).announce))
      (registry : next.registry = server.registry.filter (·.1 ≠ id) ++ [(id, slot)])
      (log : next.log = server.log ++ [⟨slot, .opened, true, .opened⟩]) :
      Move site server next none
  /-- A channel acts, and has nothing to report. -/
  | act (slot service : Nat) (channel : Channel) (action : Channel.Action)
      (before : server.connections[slot]? = some (.live service channel))
      (told : channel.told action = none)
      (connections : next.connections =
        server.connections.set slot (.live service (channel.after action)))
      (registry : next.registry = server.registry) (log : next.log = server.log) :
      Move site server next none
  /-- A channel acts, and the application is told. At a close the session leaves the
  registry first. -/
  | report (slot service : Nat) (channel : Channel) (action : Channel.Action)
      (state : SessionState) (registered : Bool) (event : Event)
      (before : server.connections[slot]? = some (.live service channel))
      (told : channel.told action = some (state, event))
      (connections : next.connections =
        server.connections.set slot (.live service (channel.after action)))
      (registry : next.registry = if event.isClosed
        then server.registry.filter (·.1 ≠ (channel.after action).session.id)
        else server.registry)
      (log : next.log = server.log ++ [⟨slot, state, registered, event⟩])
      (unregistered : event.isClosed → registered = false) : Move site server next none
  /-- A sweep expires a session: it leaves the registry and is closed by force. -/
  | expire (slot service : Nat) (channel : Channel) (id : SessionId)
      (registered : server.slotOf? id = some slot)
      (before : server.connections[slot]? = some (.live service channel))
      (connections : next.connections =
        server.connections.set slot (.live service (channel.after .expire)))
      (registry : next.registry = server.registry.filter (·.1 ≠ id))
      (log : next.log = server.log) : Move site server next (some id)

/-- Some changes one after the other, and the ids of the sessions that they expire. -/
inductive Moves (site : Site σ) : Server σ → Server σ → List SessionId → Prop where
  /-- No change. -/
  | nil (server : Server σ) : Moves site server server []
  /-- A change and then some more. -/
  | cons {server middle next : Server σ} {first : Option SessionId} {rest : List SessionId}
      (move : Move site server middle first) (moves : Moves site middle next rest) :
      Moves site server next (first.toList ++ rest)

namespace Moves

variable {site : Site σ} {server middle next : Server σ}

/-- One change that expires nobody. -/
theorem single (move : Move site server next none) : Moves site server next [] :=
  .cons move (.nil next)

theorem trans {first rest : List SessionId} (h : Moves site server middle first)
    (h' : Moves site middle next rest) : Moves site server next (first ++ rest) := by
  induction h with
  | nil => exact h'
  | cons move moves ih =>
    rw [List.append_assoc]
    exact .cons move (ih h')

/-- Changes that expire nobody. -/
theorem quiet {rest : List SessionId} (h : Moves site server middle [])
    (h' : Moves site middle next rest) : Moves site server next rest :=
  h.trans h'

end Moves

/-! ### Slots -/

theorem channel?_eq_some_iff (server : Server σ) (slot : Nat) (channel : Channel) :
    server.channel? slot = some channel ↔
      ∃ service, server.connections[slot]? = some (.live service channel) := by
  unfold channel?
  rw [Option.bind_eq_some_iff]
  constructor
  · rintro ⟨connection, hconnection, hchannel⟩
    cases connection with
    | live service channel' =>
      cases hchannel
      exact ⟨service, hconnection⟩
    | _ => cases hchannel
  · rintro ⟨service, hlive⟩
    exact ⟨_, hlive, rfl⟩

theorem channel?_of_connection (server : Server σ) (slot : Nat) (connection : Connection)
    (h : server.connections[slot]? = some connection) :
    server.channel? slot = connection.channel? := by
  rw [channel?, h]
  rfl

theorem channel?_congr {server next : Server σ} {slot : Nat}
    (h : next.connections[slot]? = server.connections[slot]?) :
    next.channel? slot = server.channel? slot := by
  unfold channel?
  rw [h]

/-- A new connection is no channel yet. -/
theorem channel?_connect {server next : Server σ} {transport : Transport}
    (h : next.connections = server.connections ++ [.awaitingHead transport]) (slot : Nat) :
    next.channel? slot = server.channel? slot := by
  by_cases hslot : slot < server.connections.length
  · exact channel?_congr (by rw [h, List.getElem?_append_left hslot])
  · have hnone : server.connections[slot]? = none := List.getElem?_eq_none (by omega)
    unfold channel?
    rw [h, hnone, List.getElem?_append_right (by omega)]
    cases slot - server.connections.length <;> rfl

/-- A connection that is no channel is replaced by another one. -/
theorem channel?_answer {server next : Server σ} {slot : Nat} {connection : Connection}
    (hbefore : server.channel? slot = none) (hafter : connection.channel? = none)
    (h : next.connections = server.connections.set slot connection) (slot' : Nat) :
    next.channel? slot' = server.channel? slot' := by
  by_cases hslot : slot = slot'
  · subst hslot
    rw [hbefore]
    unfold channel?
    rw [h]
    by_cases hlength : slot < server.connections.length
    · rw [List.getElem?_set_self hlength]
      exact hafter
    · rw [List.getElem?_eq_none (by rw [List.length_set]; omega)]
      rfl
  · exact channel?_congr (by rw [h, List.getElem?_set_ne hslot])

/-- Putting what is there back in its place changes nothing. -/
theorem set_of_getElem? {α : Type} {list : List α} {index : Nat} {value : α}
    (h : list[index]? = some value) : list.set index value = list := by
  obtain ⟨hindex, rfl⟩ := List.getElem?_eq_some_iff.mp h
  exact List.set_getElem_self hindex

/-- Changing the connection in a slot replaces it. -/
theorem modifyConnection_eq (server : Server σ) (slot : Nat) (f : Connection → Connection)
    (connection : Connection) (h : server.connections[slot]? = some connection) :
    server.modifyConnection slot f = server.setConnection slot (f connection) := by
  unfold modifyConnection setConnection
  rw [List.modify_eq_set_getElem?, h]
  rfl

/-- Changing the channel in a slot replaces it. -/
theorem modifyChannel_eq (server : Server σ) (slot service : Nat) (f : Channel → Channel)
    (channel : Channel) (h : server.connections[slot]? = some (.live service channel)) :
    server.modifyChannel slot f = server.setConnection slot (.live service (f channel)) := by
  unfold modifyChannel
  exact server.modifyConnection_eq slot _ _ h

/-- A change of the channel in a slot that is an action without a report. If there is no
channel, nothing changes. -/
theorem modifyChannel_moves (site : Site σ) (server : Server σ) (slot : Nat)
    (f : Channel → Channel) (action : Channel.Action)
    (hafter : ∀ channel : Channel, f channel = channel.after action)
    (htold : ∀ channel : Channel, channel.told action = none) :
    Moves site server (server.modifyChannel slot f) [] := by
  cases hconnection : server.connections[slot]? with
  | none =>
    refine .single (.rest ?_ rfl rfl)
    show server.connections.modify slot _ = server.connections
    rw [List.modify_eq_set_getElem?, hconnection]
    rfl
  | some connection =>
    cases connection with
    | live service channel =>
      rw [server.modifyChannel_eq slot service f channel hconnection, hafter]
      exact .single (.act slot service channel action hconnection (htold channel) rfl rfl rfl)
    | _ =>
      refine .single (.rest ?_ rfl rfl)
      unfold modifyChannel
      rw [server.modifyConnection_eq slot _ _ hconnection]
      exact set_of_getElem? hconnection

/-! ### What the application does -/

/-- A call of the application. -/
theorem call_moves (site : Site σ) (server : Server σ) (slot : Nat) (request : Call) :
    Moves site server (server.call slot request).2 [] := by
  unfold call
  split
  · rename_i service channel hlive
    exact .single (.act slot service channel (.call request) hlive rfl rfl rfl rfl)
  · exact .nil server

/-- A script only calls sessions. -/
theorem execute_moves {α : Type} (site : Site σ) (script : Script α) (server : Server σ) :
    Moves site server (execute script server).2 [] := by
  induction script generalizing server with
  | done value => exact .nil server
  | call slot request next ih =>
    exact (call_moves site server slot request).quiet (ih _ (server.call slot request).2)

/-- A script leaves the registry and the log alone. -/
theorem execute_registry {α : Type} (script : Script α) (server : Server σ) :
    (execute script server).2.registry = server.registry ∧
      (execute script server).2.log = server.log := by
  induction script generalizing server with
  | done value => exact ⟨rfl, rfl⟩
  | call slot request next ih =>
    have hcall : (server.call slot request).2.registry = server.registry ∧
        (server.call slot request).2.log = server.log := by
      unfold call
      split <;> exact ⟨rfl, rfl⟩
    obtain ⟨hregistry, hlog⟩ := ih (server.call slot request).1 (server.call slot request).2
    exact ⟨hregistry.trans hcall.1, hlog.trans hcall.2⟩

/-- The server when an event has been written into the log, before the application
reacts. -/
def noted (server : Server σ) (slot : Nat) (channel : Channel) (event : Event) : Server σ :=
  let server := if event.isClosed then server.deregister channel.session.id else server
  { server with
    log := server.log ++
      [⟨slot, channel.session.state, server.isRegistered channel.session.id, event⟩] }

theorem log_noted (server : Server σ) (slot : Nat) (channel : Channel) (event : Event) :
    (server.noted slot channel event).log = server.log ++
      [⟨slot, channel.session.state, (if event.isClosed
        then server.deregister channel.session.id else server).isRegistered channel.session.id,
        event⟩] := by
  unfold noted
  cases event.isClosed <;> rfl

/-- The application is told after the event is noted, and its reaction is carried out. -/
theorem deliver_eq (site : Site σ) {server : Server σ} {slot service : Nat} {channel : Channel}
    (h : server.connections[slot]? = some (.live service channel)) (event : Event) :
    let script := site.application.react server.services service (handleOf slot channel) event
    deliver site server slot event =
      { (execute script (server.noted slot channel event)).2 with
        services := (execute script (server.noted slot channel event)).1 } := by
  unfold deliver noted
  rw [h]
  cases event <;> rfl

/-- After the event is noted, the application only calls sessions. -/
theorem deliver_moves (site : Site σ) (server : Server σ) (slot service : Nat)
    (channel : Channel) (event : Event)
    (h : server.connections[slot]? = some (.live service channel)) :
    Moves site (server.noted slot channel event) (deliver site server slot event) [] := by
  rw [deliver_eq site h]
  exact (execute_moves site _ _).quiet (.single (.rest rfl rfl rfl))

/-- A session that has been taken out of the registry is not in it. -/
theorem isRegistered_deregister (server : Server σ) (id : SessionId) :
    (server.deregister id).isRegistered id = false := by
  simp [isRegistered, slotOf?, deregister]

/-! ### What a task does -/

/-- The request head is read into a connection that is no channel. -/
theorem channel?_readHead (site : Site σ) (transport : Transport) (connection : Connection)
    (h : readHead site transport = some connection) : connection.channel? = none := by
  unfold readHead at h
  split at h
  · cases h
  · obtain rfl := Option.some.inj h
    split
    · rfl
    · rfl
    · unfold answer
      split
      · rfl
      · split <;> rfl

/-- A session begins. -/
theorem begin_moves (site : Site σ) (server : Server σ) (slot : Nat) (transport : Transport)
    (request : Request) (service : Nat) (before : server.channel? slot = none)
    (inRange : slot < server.connections.length) :
    Moves site server (begin site server slot transport request service) [] := by
  unfold begin
  dsimp only
  -- The new channel and the server that it is registered in get names of their own.
  generalize hchannel : Channel.ofTransport transport (site.newId (server.issued + 1))
    request.path site.config.limits server.now.time = channel
  generalize hopen : ({ server with issued := server.issued + 1 }.setConnection slot
    (.live service channel.announce)).register (site.newId (server.issued + 1)) slot = registered
  have hlive : registered.connections[slot]? = some (.live service channel.announce) := by
    rw [← hopen]
    exact List.getElem?_set_self inRange
  have hnoted : registered.noted slot channel.announce .opened =
      { registered with log := server.log ++ [⟨slot, .opened, true, .opened⟩] } := by
    have hstate : channel.announce.session.state = .opened := by
      rw [← hchannel]
      rfl
    have hid : channel.announce.session.id = site.newId (server.issued + 1) := by
      rw [← hchannel]
      rfl
    have hregistered : registered.isRegistered (site.newId (server.issued + 1)) = true := by
      rw [← hopen]
      simp [isRegistered, slotOf?, register, List.find?_append]
    have hlog : registered.log = server.log := by
      rw [← hopen]
      rfl
    simp only [noted, Event.isClosed, Bool.false_eq_true, if_false, hstate, hid, hregistered, hlog]
  have hupgrade : Move site server (registered.noted slot channel.announce .opened) none := by
    rw [hnoted, ← hopen, ← hchannel]
    exact .upgrade slot service transport _ request.path server.now.time before inRange rfl rfl rfl
  have hmoves := (Moves.single hupgrade).quiet
    (deliver_moves site registered slot service channel.announce .opened hlive)
  exact hmoves.quiet (modifyChannel_moves site _ slot Channel.start .start (fun _ => rfl)
    fun _ => rfl)

/-- A connection that is no channel is put in its place again, changed. -/
theorem setConnection_moves (site : Site σ) (server : Server σ) (slot : Nat)
    (connection : Connection) (before : server.channel? slot = none)
    (after : connection.channel? = none) :
    Moves site server (server.setConnection slot connection) [] :=
  .single (.answer slot connection before after rfl rfl rfl)

/-- The answer to a request has been written. -/
theorem finishReply_moves (site : Site σ) (server : Server σ) (slot : Nat)
    (transport : Transport) (reply : Reply) (before : server.channel? slot = none)
    (inRange : slot < server.connections.length) :
    Moves site server (finishReply site server slot transport reply) [] := by
  cases reply with
  | upgrade request service =>
    unfold finishReply
    dsimp only
    split
    · exact begin_moves site server slot transport request service before inRange
    · exact setConnection_moves site server slot _ before rfl
  | refusal refusal => exact setConnection_moves site server slot _ before rfl
  | page => exact setConnection_moves site server slot _ before rfl

/-- The answer to a request goes on. -/
theorem writeReply_moves {site : Site σ} {server next : Server σ} {slot : Nat}
    {transport : Transport} {reply : Reply} {unsent : Bytes}
    (h : writeReply site server slot transport reply unsent = some next)
    (before : server.channel? slot = none) (inRange : slot < server.connections.length) :
    Moves site server next [] := by
  unfold writeReply at h
  split at h
  · obtain rfl := Option.some.inj h
    exact finishReply_moves site server slot transport reply before inRange
  · split at h
    · cases h
    · split at h
      · obtain rfl := Option.some.inj h
        refine setConnection_moves site server slot _ before ?_
        cases reply <;> rfl
      · obtain rfl := Option.some.inj h
        exact setConnection_moves site server slot _ before rfl

/-- The reader of a channel goes on. -/
theorem readChannel_moves {site : Site σ} {server next : Server σ} {slot service : Nat}
    {channel : Channel} {wakeup : Wakeup}
    (h : readChannel site server slot service channel wakeup = some next)
    (hlive : server.connections[slot]? = some (.live service channel)) :
    Moves site server next [] := by
  have houtcome : ∀ step, channel.read server.now wakeup = some step →
      channel.outcome (.read server.now wakeup) = step := by
    intro step hstep
    simp only [Channel.outcome, hstep, Option.getD_some]
  unfold readChannel at h
  split at h
  · cases h
  · rename_i after hread
    obtain rfl := Option.some.inj h
    have hafter := houtcome _ hread
    refine .single (.act slot service channel (.read server.now wakeup) hlive ?_ ?_ rfl rfl)
    · rw [Channel.told, hafter]
      rfl
    · rw [Channel.after, hafter]
      rfl
  · rename_i after event hread
    obtain rfl := Option.some.inj h
    have hafter := houtcome _ hread
    have hlength : slot < server.connections.length := (List.getElem?_eq_some_iff.mp hlive).1
    have hset : (server.setConnection slot (.live service after)).connections[slot]? =
        some (.live service after) := List.getElem?_set_self hlength
    -- The step of the reader and the line in the log are one change.
    have hmove : Move site server
        ((server.setConnection slot (.live service after)).noted slot after event) none := by
      have hnext : channel.after (.read server.now wakeup) = after := congrArg (·.1) hafter
      refine .report slot service channel (.read server.now wakeup) after.session.state
        _ event hlive ?_ ?_ ?_ (log_noted _ slot after event) fun hclosed => ?_
      · rw [Channel.told, hnext, hafter]
        rfl
      · rw [hnext]
        unfold noted
        cases event.isClosed <;> rfl
      · rw [hnext]
        unfold noted
        cases event.isClosed <;> rfl
      · rw [if_pos hclosed]
        exact isRegistered_deregister _ _
    exact (Moves.single hmove).quiet (deliver_moves site _ slot service after event hset)

/-- What a task does, except for the periodic sweep. -/
theorem attempt_moves {site : Site σ} {server next : Server σ} {task : Task}
    (h : server.attempt site task = some next) (htick : task ≠ .tick) :
    Moves site server next [] := by
  cases task with
  | head slot =>
    unfold attempt at h
    dsimp only at h
    split at h
    · rename_i transport hconnection
      obtain ⟨connection, hread, rfl⟩ := Option.map_eq_some_iff.mp h
      exact setConnection_moves site server slot connection
        (server.channel?_of_connection slot _ hconnection)
        (channel?_readHead site transport connection hread)
    · cases h
  | reply slot =>
    unfold attempt at h
    dsimp only at h
    split at h
    · rename_i hconnection
      exact writeReply_moves h (server.channel?_of_connection slot _ hconnection)
        (List.getElem?_eq_some_iff.mp hconnection).1
    · cases h
  | read slot wakeup =>
    unfold attempt at h
    dsimp only at h
    split at h
    · rename_i hlive
      exact readChannel_moves h hlive
    · cases h
  | write slot =>
    unfold attempt at h
    dsimp only at h
    split at h
    · rename_i service channel hlive
      obtain ⟨after, hwrite, rfl⟩ := Option.map_eq_some_iff.mp h
      refine .single (.act slot service channel (.write server.now) hlive rfl ?_ rfl rfl)
      simp only [Channel.after, Channel.outcome, hwrite, Option.getD_some]
      rfl
    · cases h
  | tick => exact absurd rfl htick

/-! ### What a sweep does -/

/-- The outcome of a visit: nothing, or the session is expired, or it is sent a ping. In
the last two cases the session is registered. -/
theorem visit_cases (site : Site σ) (number : UInt64) (server : Server σ) (report : SweepReport)
    (id : SessionId) :
    let next := visit site.config (Bytes.ofNatBE 8 number.toNat) (server, report) id
    (Moves site server next.1 [] ∧ next.2 = report ∧ next.1.registry = server.registry) ∨
    ((server.slotOf? id).isSome ∧ Moves site server next.1 [id] ∧
      next.2 = { report with expired := report.expired ++ [id] } ∧
      next.1.registry = server.registry.filter (·.1 ≠ id)) ∨
    ((server.slotOf? id).isSome ∧ Moves site server next.1 [] ∧
      next.2 = { report with pinged := report.pinged ++ [id] } ∧
      next.1.registry = server.registry) := by
  intro next
  unfold next visit
  dsimp only
  split
  · exact .inl ⟨.nil server, rfl, rfl⟩
  · rename_i slot hslot
    split
    · exact .inl ⟨.nil server, rfl, rfl⟩
    · rename_i channel hchannel
      obtain ⟨service, hlive⟩ := (server.channel?_eq_some_iff slot channel).mp hchannel
      split
      · exact .inl ⟨.nil server, rfl, rfl⟩
      · split
        · -- The session has left too many pings unanswered, or was silent for too long.
          refine .inr (.inl ⟨by rw [hslot]; rfl, ?_, rfl, rfl⟩)
          have hmove : Move site server (server.expire slot id) (some id) := by
            refine .expire slot service channel id hslot hlive ?_ rfl rfl
            unfold expire
            rw [(server.deregister id).modifyChannel_eq slot service _ channel hlive]
            rfl
          exact .cons hmove (.nil _)
        · have hmoves : Moves site server (server.modifyChannel slot fun channel' =>
              channel'.withSession
                (channel.session.keepalive (Bytes.ofNatBE 8 number.toNat)).2) [] := by
            rw [server.modifyChannel_eq slot service _ channel hlive]
            exact .single (.act slot service channel (.keepalive number) hlive rfl rfl rfl rfl)
          -- It is reported only if the ping was queued.
          cases hqueued : (channel.session.keepalive (Bytes.ofNatBE 8 number.toNat)).1 with
          | false => exact .inl ⟨hmoves, by simp, rfl⟩
          | true => exact .inr (.inr ⟨by rw [hslot]; rfl, hmoves, by simp, rfl⟩)

/-- A session that is found in the registry is one of its keys. -/
theorem mem_of_slotOf? {server : Server σ} {id : SessionId} {slot : Nat}
    (h : server.slotOf? id = some slot) : (id, slot) ∈ server.registry := by
  obtain ⟨entry, hfind, rfl⟩ := Option.map_eq_some_iff.mp h
  have hid : entry.1 = id := by simpa using List.find?_some hfind
  exact hid ▸ List.mem_of_find?_eq_some hfind

/-- Visits one after the other. Whoever is sent a ping was registered before the first. -/
theorem visits_moves (site : Site σ) (number : UInt64) (ids : List SessionId)
    (server : Server σ) (report : SweepReport) :
    let next := ids.foldl (visit site.config (Bytes.ofNatBE 8 number.toNat)) (server, report)
    ∃ expired, next.2.expired = report.expired ++ expired ∧ Moves site server next.1 expired ∧
      ∀ id ∈ next.2.pinged, id ∈ report.pinged ∨ id ∈ server.registry.map (·.1) := by
  induction ids generalizing server report with
  | nil => exact ⟨[], (List.append_nil _).symm, .nil server, fun id h => .inl h⟩
  | cons id ids ih =>
    have hmem : (server.slotOf? id).isSome → id ∈ server.registry.map (·.1) := by
      intro hsome
      obtain ⟨slot, hslot⟩ := Option.isSome_iff_exists.mp hsome
      exact List.mem_map_of_mem (f := (·.1)) (mem_of_slotOf? hslot)
    have hcases := visit_cases site number server report id
    rw [List.foldl_cons]
    generalize visit site.config (Bytes.ofNatBE 8 number.toNat) (server, report) id = middle
      at hcases ⊢
    obtain ⟨middle, after⟩ := middle
    obtain ⟨expired, hexpired, hmoves, hpinged⟩ := ih middle after
    obtain ⟨hfirst, rfl, hregistry⟩ | ⟨hslot, hfirst, rfl, hregistry⟩ |
      ⟨hslot, hfirst, rfl, hregistry⟩ := hcases
    · dsimp only at hregistry
      rw [hregistry] at hpinged
      exact ⟨expired, hexpired, hfirst.quiet hmoves, hpinged⟩
    · dsimp only at hregistry
      rw [hregistry] at hpinged
      -- The registry has lost this session, and what is left of it was there before.
      refine ⟨id :: expired, ?_, hfirst.trans hmoves, fun other hother => ?_⟩
      · rw [hexpired, List.append_assoc]
        rfl
      · refine (hpinged other hother).imp_right fun h => ?_
        obtain ⟨entry, hentry, rfl⟩ := List.mem_map.mp h
        exact List.mem_map_of_mem (f := (·.1)) (List.mem_filter.mp hentry).1
    · dsimp only at hregistry
      rw [hregistry] at hpinged
      refine ⟨expired, hexpired, hfirst.quiet hmoves, fun other hother => ?_⟩
      rcases hpinged other hother with h | h
      · rcases List.mem_append.mp h with hold | hnew
        · exact .inl hold
        · exact .inr (List.mem_singleton.mp hnew ▸ hmem hslot)
      · exact .inr h

/-- A sweep expires the sessions that it reports as expired, and whoever it reports as sent
a ping was registered before it. -/
theorem sweepOver_moves (site : Site σ) (server : Server σ) (ids : List SessionId) :
    let next := sweepOver site.config server ids
    Moves site server next.1 next.2.expired ∧
      ∀ id ∈ next.2.pinged, id ∈ server.registry.map (·.1) := by
  obtain ⟨expired, hexpired, hmoves, hpinged⟩ := visits_moves site (server.sweeps + 1) ids
    { server with sweeps := server.sweeps + 1 } {}
  rw [List.nil_append] at hexpired
  have hcount : Moves site server { server with sweeps := server.sweeps + 1 } [] :=
    .single (.rest rfl rfl rfl)
  exact ⟨hexpired ▸ hcount.quiet hmoves, fun id hid => (hpinged id hid).resolve_left nofun⟩

/-! ### Callbacks -/

theorem callbacks_congr {server next : Server σ} (h : next.log = server.log) (slot : Nat) :
    next.callbacks slot = server.callbacks slot := by
  unfold callbacks
  rw [h]

/-- What some more lines in the log add to the callbacks of a slot. -/
theorem callbacks_of_log {server next : Server σ} (lines : List Occurrence)
    (h : next.log = server.log ++ lines) (slot : Nat) :
    next.callbacks slot = server.callbacks slot ++
      (lines.filter fun line => line.slot = slot).map fun line => (line.state, line.event) := by
  unfold callbacks
  rw [h, List.filter_append, List.map_append]

/-- Lines about another slot add nothing. -/
theorem callbacks_of_other {server next : Server σ} {lines : List Occurrence} {slot slot' : Nat}
    (h : next.log = server.log ++ lines) (hlines : ∀ line ∈ lines, line.slot = slot')
    (hne : slot' ≠ slot) : next.callbacks slot = server.callbacks slot := by
  have hnone : lines.filter (fun line => line.slot = slot) = [] := by
    rw [List.filter_eq_nil_iff]
    intro line hline
    simpa [hlines line hline] using hne
  rw [callbacks_of_log lines h, hnone]
  exact List.append_nil _

/-! ### Live channels -/

/-- In one change a live channel stays in its slot and acts at most once, and what the
application is told about it is what that action reports. -/
theorem Move.follow {site : Site σ} {server next : Server σ} {expired : Option SessionId}
    {slot service : Nat} {channel : Channel} (h : Move site server next expired)
    (hlive : server.connections[slot]? = some (.live service channel)) :
    ∃ actions, next.connections[slot]? = some (.live service (channel.run actions)) ∧
      next.callbacks slot = server.callbacks slot ++ channel.events actions := by
  have hchannel : server.channel? slot = some channel :=
    server.channel?_of_connection slot _ hlive
  have hlength : slot < server.connections.length := (List.getElem?_eq_some_iff.mp hlive).1
  -- Another slot changes, and a line about it may be added to the log.
  have hother : ∀ (slot' : Nat) (connection : Connection) (lines : List Occurrence),
      slot' ≠ slot → next.connections = server.connections.set slot' connection →
      next.log = server.log ++ lines → (∀ line ∈ lines, line.slot = slot') →
      ∃ actions, next.connections[slot]? = some (.live service (channel.run actions)) ∧
        next.callbacks slot = server.callbacks slot ++ channel.events actions := by
    intro slot' connection lines hne hconnections hlog hlines
    refine ⟨[], ?_, ?_⟩
    · rw [hconnections, List.getElem?_set_ne hne]
      exact hlive
    · rw [callbacks_of_other hlog hlines hne, Channel.events, List.append_nil]
  -- The channel itself acts.
  have hown : ∀ action : Channel.Action,
      next.connections = server.connections.set slot (.live service (channel.after action)) →
      next.callbacks slot = server.callbacks slot ++ (channel.told action).toList →
      ∃ actions, next.connections[slot]? = some (.live service (channel.run actions)) ∧
        next.callbacks slot = server.callbacks slot ++ channel.events actions := by
    intro action hconnections htold
    refine ⟨[action], ?_, ?_⟩
    · rw [hconnections, List.getElem?_set_self hlength]
      rfl
    · rw [htold, Channel.events, Channel.events, List.append_nil]
  cases h with
  | rest connections registry log =>
    refine ⟨[], by rw [connections]; exact hlive, ?_⟩
    rw [callbacks_congr log, Channel.events, List.append_nil]
  | connect transport connections registry log =>
    refine ⟨[], ?_, ?_⟩
    · rw [connections, List.getElem?_append_left hlength]
      exact hlive
    · rw [callbacks_congr log, Channel.events, List.append_nil]
  | answer slot' connection before after connections registry log =>
    refine hother slot' connection [] ?_ connections (by rw [log, List.append_nil]) (by simp)
    rintro rfl
    simp [hchannel] at before
  | upgrade slot' service' transport id path now before inRange connections registry log =>
    refine hother slot' _ _ ?_ connections log (by simp)
    rintro rfl
    simp [hchannel] at before
  | act slot' service' channel' action before told connections registry log =>
    by_cases hslot : slot' = slot
    · subst hslot
      obtain ⟨rfl, rfl⟩ := Connection.live.inj (Option.some.inj (before.symm.trans hlive))
      refine hown action connections ?_
      rw [callbacks_congr log, told, Option.toList_none, List.append_nil]
    · exact hother slot' _ [] hslot connections (by rw [log, List.append_nil]) (by simp)
  | report slot' service' channel' action state registered event before told connections
      registry log unregistered =>
    by_cases hslot : slot' = slot
    · subst hslot
      obtain ⟨rfl, rfl⟩ := Connection.live.inj (Option.some.inj (before.symm.trans hlive))
      refine hown action connections ?_
      rw [callbacks_of_log _ log, told]
      simp
    · exact hother slot' _ _ hslot connections log (by simp)
  | expire slot' service' channel' id registered before connections registry log =>
    by_cases hslot : slot' = slot
    · subst hslot
      obtain ⟨rfl, rfl⟩ := Connection.live.inj (Option.some.inj (before.symm.trans hlive))
      exact hown .expire connections (by rw [callbacks_congr log]; exact (List.append_nil _).symm)
    · exact hother slot' _ [] hslot connections (by rw [log, List.append_nil]) (by simp)

/-- In any changes a live channel stays in its slot and acts, and what the application is
told about it is what these actions report. -/
theorem Moves.follow {site : Site σ} {server next : Server σ} {expired : List SessionId}
    {slot service : Nat} {channel : Channel} (h : Moves site server next expired)
    (hlive : server.connections[slot]? = some (.live service channel)) :
    ∃ actions, next.connections[slot]? = some (.live service (channel.run actions)) ∧
      next.callbacks slot = server.callbacks slot ++ channel.events actions := by
  induction h generalizing channel with
  | nil server =>
    refine ⟨[], hlive, ?_⟩
    rw [Channel.events, List.append_nil]
  | cons move moves ih =>
    obtain ⟨first, hmiddle, hcallbacks⟩ := move.follow hlive
    obtain ⟨rest, hnext, hcallbacks'⟩ := ih hmiddle
    refine ⟨first ++ rest, ?_, ?_⟩
    · rw [Channel.run_append]
      exact hnext
    · rw [hcallbacks', hcallbacks, Channel.events_append, List.append_assoc]

end Server

end SocketGate
