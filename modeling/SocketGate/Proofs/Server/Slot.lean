import Mathlib.Data.List.Nodup
import SocketGate.Proofs.Channel.Reason
import SocketGate.Proofs.Server.Registry

/-!
# `SocketGate.Proofs.Server.Slot`: one connection among the others

What an action on a server does to the connection in one slot depends on little else.
`Connection.own` says what an action of its own does to a connection, and an action of
another slot can do one thing to it only: the application, which is told of the other
session, may call this one. `Server.Acts` puts the two together for all slots at once.

An application that keeps to itself calls no session but the one that it is told about, and
its state stays as it is (`Application.Keeps`). Then the connections of a server do not see
each other at all.

* `Server.deliver_reaction`: what telling the application does to a server.
* `Server.History.act_acts`: what an action does that is neither a sweep nor a new connection.
-/

set_option autoImplicit false

namespace SocketGate

open Http (Request)

/-! ### What the application calls -/

namespace Script

variable {σ α : Type}

/-- Make these calls of one session, whatever is answered, and end with a value. -/
def requests (slot : Nat) (value : α) : List Call → Script α
  | [] => .done value
  | request :: rest => .call slot request fun _ => requests slot value rest

/-- The calls that a script makes of the session in a slot when it is carried out. -/
def callsTo (slot : Nat) : Script α → Server σ → List Call
  | .done _, _ => []
  | .call slot' request next, server =>
    (if slot' = slot then [request] else []) ++
      callsTo slot (next (server.call slot' request).1) (server.call slot' request).2

/-- Whatever is answered, the script closes no session. -/
def Spares : Script α → Prop
  | .done _ => True
  | .call _ request next =>
    (∀ code text, request ≠ .close code text) ∧ ∀ answer, (next answer).Spares

theorem Spares.map {β : Type} {script : Script α} (h : script.Spares) (f : α → β) :
    (script.map f).Spares := by
  induction script with
  | done value => exact trivial
  | call slot request next ih => exact ⟨h.1, fun answer => ih answer (h.2 answer)⟩

theorem spares_tell (slots : List Nat) (message : Message) (value : α) :
    (tell slots message value).Spares := by
  induction slots with
  | nil => exact trivial
  | cons slot slots ih => exact ⟨(fun _ _ h => by cases h), fun _ => ih⟩

theorem Spares.callsTo {script : Script α} (h : script.Spares) (slot : Nat) (server : Server σ)
    (code : CloseCode) (text : String) : .close code text ∉ script.callsTo slot server := by
  induction script generalizing server with
  | done value => exact List.not_mem_nil
  | call slot' request next ih =>
    rw [Script.callsTo, List.mem_append]
    rintro (hfirst | hrest)
    · split at hfirst
      · exact h.1 code text (List.mem_singleton.mp hfirst).symm
      · cases hfirst
    · exact ih _ (h.2 _) _ hrest

theorem callsTo_requests (slot slot' : Nat) (value : α) (calls : List Call)
    (server : Server σ) :
    (requests slot' value calls).callsTo slot server = if slot' = slot then calls else [] := by
  induction calls generalizing server with
  | nil => simp [requests, callsTo]
  | cons request rest ih =>
    rw [requests, callsTo, ih]
    split <;> rfl

theorem execute_requests (slot : Nat) (value : α) (calls : List Call) (server : Server σ) :
    (Server.execute (requests slot value calls) server).1 = value := by
  induction calls generalizing server with
  | nil => rfl
  | cons request rest ih => exact ih _

end Script

/-- In this state the application reacts to an event by calls of the session that it is told
about, whatever these are answered, and its state stays as it is. -/
def Application.Keeps {σ : Type} (application : Application σ) (services : σ)
    (reactions : Nat → Event → List Call) : Prop :=
  ∀ service handle event, application.react services service handle event =
    Script.requests handle.slot services (reactions service event)

/-! ### Room for a ping -/

/-- Whether one more frame may wait. -/
def Outbox.hasRoom (outbox : Outbox) : Bool :=
  outbox.attached && decide (outbox.waiting.length < outbox.limit)

/-- A keepalive ping is queued exactly if there is room for it, and only then it counts. -/
theorem Session.keepalive_of_opened {session : Session} (payload : Bytes)
    (h : session.state = .opened) :
    session.keepalive payload =
      if session.outbox.hasRoom then
        (true, { session with
          outbox := session.outbox.append [.frame (Frame.ping payload)]
          missedPings := session.missedPings + 1 })
      else (false, session) := by
  unfold keepalive
  rw [if_neg (not_not.mpr h)]
  have hiff := Outbox.push_eq_ok_iff session.outbox
    (session.outbox.append [.frame (Frame.ping payload)]) [Frame.ping payload]
  cases hroom : session.outbox.hasRoom with
  | true =>
    obtain ⟨hattached, hlength⟩ := (Bool.and_eq_true _ _).mp hroom
    have hpush := hiff.mpr ⟨hattached, Nat.succ_le_of_lt (of_decide_eq_true hlength), rfl⟩
    rw [hpush, if_pos rfl]
  | false =>
    rw [if_neg (by decide)]
    cases hpush : session.outbox.push [Frame.ping payload] with
    | error refusal => rfl
    | ok outbox =>
      obtain ⟨hattached, hlength, -⟩ := (Outbox.push_eq_ok_iff _ _ _).mp hpush
      rw [List.length_singleton] at hlength
      simp [Outbox.hasRoom, hattached, Nat.lt_of_succ_le hlength] at hroom

/-! ### Connections -/

namespace Connection

/-- The channel of a connection does these actions, if there is one. -/
def run (actions : List Channel.Action) : Connection → Connection
  | live service channel => live service (channel.run actions)
  | connection => connection

@[simp]
theorem run_nil (connection : Connection) : connection.run [] = connection := by
  cases connection <;> rfl

theorem run_append (connection : Connection) (before after : List Channel.Action) :
    connection.run (before ++ after) = (connection.run before).run after := by
  cases connection with
  | live service channel => exact congrArg (live service) (channel.run_append before after)
  | _ => rfl

variable {σ : Type}

/-- The channel of a session that begins, when the application has been told of it. -/
def begun (site : Site σ) (time : Nat) (id : SessionId) (transport : Transport)
    (request : Request) (requests : List Call) : Channel :=
  (Channel.ofTransport transport id request.path site.config.limits time).run
    (.announce :: (requests.map .call ++ [.start]))

/-- The answer to a request goes on. -/
def replied (site : Site σ) (time : Nat) (id : SessionId) (requests : List Call)
    (transport : Transport) (reply : Reply) (unsent : Bytes) : Connection :=
  if unsent.isEmpty then
    match reply with
    | .upgrade request service =>
      match transport.flush with
      | .ok () => live service (begun site time id transport request requests)
      | .error fault => failReply transport reply fault
    | .refusal refusal => finishRefusal transport refusal
    | .page => finishPage transport
  else if transport.isBlocked then replying transport reply unsent
  else match transport.write unsent with
    | .error fault => failReply transport reply fault
    | .ok (unsent, transport) => replying transport reply unsent

/-- What an action of its own does to a connection at a moment. A session that begins gets
the id, and these are the calls of the application when it is told something. -/
def own (site : Site σ) (now : Moment) (id : SessionId) (requests : List Call) :
    Server.Action → Connection → Connection
  | .peer _ step, connection => connection.mapTransport (·.apply step)
  | .call _ request, connection => connection.run [.call request]
  | .head _, awaitingHead transport =>
    (Server.readHead site transport).getD (awaitingHead transport)
  | .reply _, replying transport reply unsent =>
    replied site now.time id requests transport reply unsent
  | .read _ wakeup, live service channel =>
    live service (channel.run (.read now wakeup :: requests.map .call))
  | .write _, live service channel => live service (channel.after (.write now))
  | _, connection => connection

/-- What the application is told when a connection does an action of its own: the service,
the state of the session and the event. -/
def told (now : Moment) : Server.Action → Connection → Option (Nat × SessionState × Event)
  | .read _ wakeup, live service channel =>
    (channel.told (.read now wakeup)).map fun told => (service, told)
  | .reply _, replying transport (.upgrade _ service) unsent =>
    if unsent.isEmpty && transport.flushFault.isNone then some (service, .opened, .opened)
    else none
  | _, _ => none

end Connection

namespace Server

variable {σ : Type}

/-! ### Calls -/

/-- The clock, the count of the sweeps and the periodic sweep are the same; only the steps
that were made are more. -/
structure SameTime (server next : Server σ) : Prop where
  time : next.now.time = server.now.time
  sweeps : next.sweeps = server.sweeps
  sweeper : next.sweeper = server.sweeper

namespace SameTime

variable {server middle next : Server σ}

theorem refl (server : Server σ) : SameTime server server := ⟨rfl, rfl, rfl⟩

theorem trans (h : SameTime server middle) (h' : SameTime middle next) :
    SameTime server next :=
  ⟨h'.time.trans h.time, h'.sweeps.trans h.sweeps, h'.sweeper.trans h.sweeper⟩

end SameTime

/-- A connection that is put into a slot. -/
theorem getElem?_set_eq_map {server : Server σ} {slot : Nat} (connection : Connection)
    (slot' : Nat) : (server.connections.set slot connection)[slot']? =
      server.connections[slot']?.map fun old => if slot = slot' then connection else old := by
  rw [List.getElem?_set']
  split
  · rfl
  · cases server.connections[slot']? <;> rfl

/-- A call reaches the connection in its slot. -/
theorem call_connections (server : Server σ) (slot : Nat) (request : Call) (slot' : Nat) :
    (server.call slot request).2.connections[slot']? =
      server.connections[slot']?.map (·.run (if slot = slot' then [.call request] else [])) := by
  by_cases hslot : slot = slot'
  · subst hslot
    unfold call
    cases hconnection : server.connections[slot]? with
    | none => simp [hconnection]
    | some connection =>
      cases connection with
      | live service channel =>
        show (server.connections.set slot _)[slot]? = _
        rw [getElem?_set_eq_map, hconnection]
        simp only [if_true, Option.map_some]
        rfl
      | _ => simp [hconnection, Connection.run]
  · unfold call
    split
    · show (server.connections.set slot _)[slot']? = _
      rw [getElem?_set_eq_map]
      simp [hslot]
    · simp [hslot]

theorem call_sameTime (server : Server σ) (slot : Nat) (request : Call) :
    SameTime server (server.call slot request).2 := by
  unfold call
  split <;> exact ⟨rfl, rfl, rfl⟩

/-- A script makes its calls of every connection. -/
theorem execute_connections {α : Type} (script : Script α) (server : Server σ) (slot : Nat) :
    (execute script server).2.connections[slot]? =
      server.connections[slot]?.map (·.run ((script.callsTo slot server).map .call)) := by
  induction script generalizing server with
  | done value => simp [execute, Script.callsTo]
  | call slot' request next ih =>
    show (execute (next _) (server.call slot' request).2).2.connections[slot]? = _
    rw [ih, call_connections, Option.map_map]
    congr 1
    funext connection
    rw [Script.callsTo, List.map_append, connection.run_append, apply_ite (List.map _)]
    rfl

theorem execute_sameTime {α : Type} (script : Script α) (server : Server σ) :
    SameTime server (execute script server).2 := by
  induction script generalizing server with
  | done value => exact .refl server
  | call slot request next ih =>
    exact (call_sameTime server slot request).trans (ih _ (server.call slot request).2)

/-- What comes of it when the application is told about the session in a slot: it makes these
calls. -/
structure Reaction (site : Site σ) (server next : Server σ) (slot service : Nat)
    (channel : Channel) (event : Event) (calls : Nat → List Call) : Prop where
  connections : ∀ slot' : Nat, next.connections[slot']? =
    server.connections[slot']?.map fun connection => connection.run ((calls slot').map .call)
  log : next.log = (server.noted slot channel event).log
  registry : next.registry = (server.noted slot channel event).registry
  sameTime : SameTime server next
  spared : (site.application.react server.services service (handleOf slot channel) event).Spares →
    ∀ slot' code text, .close code text ∉ calls slot'
  kept : ∀ reactions, site.application.Keeps server.services reactions →
    next.services = server.services ∧
      ∀ slot', calls slot' = if slot = slot' then reactions service event else []

/-- The application is told about the session in a slot. -/
theorem deliver_reaction (site : Site σ) (server : Server σ) {slot service : Nat}
    {channel : Channel} (event : Event)
    (h : server.connections[slot]? = some (.live service channel)) :
    ∃ calls, Reaction site server (deliver site server slot event) slot service channel event
      calls := by
  have hdeliver := deliver_eq site h event
  generalize hscript : site.application.react server.services service (handleOf slot channel)
    event = script at hdeliver
  have hconnections : (server.noted slot channel event).connections = server.connections := by
    unfold noted
    cases event.isClosed <;> rfl
  have hnoted : SameTime server (server.noted slot channel event) := by
    unfold noted
    cases event.isClosed <;> exact ⟨rfl, rfl, rfl⟩
  rw [hdeliver]
  refine ⟨fun slot' => script.callsTo slot' (server.noted slot channel event), ?_, ?_, ?_, ?_, ?_,
    ?_⟩
  · intro slot'
    show (execute script _).2.connections[slot']? = _
    rw [execute_connections, hconnections]
  · exact (execute_registry script _).2
  · exact (execute_registry script _).1
  · have hexecute := execute_sameTime script (server.noted slot channel event)
    exact hnoted.trans ⟨hexecute.time, hexecute.sweeps, hexecute.sweeper⟩
  · rw [hscript]
    exact fun hspares slot' code text => hspares.callsTo slot' _ code text
  · intro reactions hkeeps
    rw [hkeeps] at hscript
    subst hscript
    exact ⟨Script.execute_requests _ _ _ _, fun slot' => Script.callsTo_requests _ _ _ _ _⟩

/-! ### Actions of one slot -/

/-- The slot that an action is about, if it is about one. -/
def Action.slot? : Action → Option Nat
  | .peer slot _ | .call slot _ | .head slot | .reply slot | .read slot _ | .write slot =>
    some slot
  | .connect _ | .sweep _ | .tick _ | .start | .stop | .wait _ => none

/-- From `server` to `next` the connection in a slot does an action of its own. The
application may be told, and makes these calls. -/
structure Acts (site : Site σ) (server next : Server σ) (slot : Nat) (action : Action)
    (connection : Connection) (calls : Nat → List Call) : Prop where
  own : next.connections[slot]? = some
    (connection.own site server.now (site.newId (server.issued + 1)) (calls slot) action)
  others : ∀ slot' : Nat, slot' ≠ slot → next.connections[slot']? =
    server.connections[slot']?.map fun other => other.run ((calls slot').map .call)
  told : next.callbacks slot = server.callbacks slot ++
    ((connection.told server.now action).map (·.2)).toList
  untold : ∀ slot', slot' ≠ slot → next.callbacks slot' = server.callbacks slot'
  quiet : connection.told server.now action = none →
    next.registry = server.registry ∧ next.log = server.log
  sameTime : SameTime server next
  spared : ∀ told, connection.told server.now action = some told →
    (∀ handle, (site.application.react server.services told.1 handle told.2.2).Spares) →
      ∀ slot' code text, .close code text ∉ calls slot'
  kept : ∀ reactions, site.application.Keeps server.services reactions →
    next.services = server.services ∧ (∀ slot', slot' ≠ slot → calls slot' = []) ∧
      calls slot = ((connection.told server.now action).map
        fun told => reactions told.1 told.2.2).getD []

/-- The application is not told, and makes no calls. -/
theorem Acts.silent {site : Site σ} {server next : Server σ} {slot : Nat} {action : Action}
    {connection : Connection} (hconnection : server.connections[slot]? = some connection)
    (hnext : next.connections = server.connections.set slot
      (connection.own site server.now (site.newId (server.issued + 1)) [] action))
    (htold : connection.told server.now action = none)
    (hregistry : next.registry = server.registry) (hlog : next.log = server.log)
    (hservices : next.services = server.services) (hsame : SameTime server next) :
    Acts site server next slot action connection fun _ => [] where
  own := by rw [hnext, getElem?_set_eq_map, hconnection]; simp
  others slot' hne := by rw [hnext, getElem?_set_eq_map]; simp [hne.symm]
  told := by rw [callbacks_congr hlog, htold]; simp
  untold slot' _ := callbacks_congr hlog slot'
  quiet _ := ⟨hregistry, hlog⟩
  sameTime := hsame
  spared _ _ _ _ _ _ := List.not_mem_nil
  kept reactions _ := ⟨hservices, fun _ _ => rfl, by rw [htold]; rfl⟩

/-- Nothing happens. -/
theorem Acts.rest {site : Site σ} {server : Server σ} {slot : Nat} {action : Action}
    {connection : Connection} (hconnection : server.connections[slot]? = some connection)
    (hown : connection.own site server.now (site.newId (server.issued + 1)) [] action =
      connection) (htold : connection.told server.now action = none) :
    Acts site server server slot action connection fun _ => [] :=
  .silent hconnection (by rw [hown, set_of_getElem? hconnection]) htold rfl rfl rfl (.refl server)

/-- The application is told about a connection that has become a channel, or has acted as
one. After that nothing happens to the other connections. -/
theorem Reaction.acts {site : Site σ} {server middle next last : Server σ} {slot service : Nat}
    {action : Action} {connection : Connection} {channel : Channel} {event : Event}
    {calls : Nat → List Call} (h : Reaction site middle next slot service channel event calls)
    (hmiddle : middle.connections = server.connections.set slot (.live service channel))
    (htold : connection.told server.now action = some (service, channel.session.state, event))
    (hown : last.connections[slot]? = some
      (connection.own site server.now (site.newId (server.issued + 1)) (calls slot) action))
    (hothers : ∀ slot' : Nat, slot' ≠ slot →
      last.connections[slot']? = next.connections[slot']?)
    (hlog : middle.log = server.log) (hlog' : last.log = next.log)
    (hservices : middle.services = server.services) (hservices' : last.services = next.services)
    (hsame : SameTime server middle) (hsame' : SameTime next last) :
    Acts site server last slot action connection calls := by
  have hline := hlog'.trans (h.log.trans (middle.log_noted slot channel event))
  rw [hlog] at hline
  exact {
    own := hown
    others := fun slot' hne => by
      rw [hothers slot' hne, h.connections, hmiddle, List.getElem?_set_ne hne.symm]
    told := by
      rw [callbacks_of_log _ hline, htold]
      simp
    untold := fun slot' hne => callbacks_of_other hline (by simp) hne.symm
    quiet := fun hnone => by simp [htold] at hnone
    sameTime := (hsame.trans h.sameTime).trans hsame'
    spared := fun told hold hspares => by
      obtain rfl := Option.some.inj (htold.symm.trans hold)
      exact h.spared (hservices ▸ hspares _)
    kept := fun reactions hkeeps => by
      obtain ⟨hkept, hcalls⟩ := h.kept reactions (hservices ▸ hkeeps)
      refine ⟨hservices'.trans (hkept.trans hservices), fun slot' hne => ?_, ?_⟩
      · rw [hcalls, if_neg hne.symm]
      · rw [hcalls, if_pos rfl, htold]
        rfl }

/-- The reader of a channel goes on. -/
theorem readChannel_acts {site : Site σ} {server next : Server σ} {slot service : Nat}
    {channel : Channel} {wakeup : Wakeup}
    (h : readChannel site server slot service channel wakeup = some next)
    (hlive : server.connections[slot]? = some (.live service channel)) :
    ∃ calls, Acts site server next slot (.read slot wakeup) (.live service channel) calls := by
  unfold readChannel at h
  split at h
  · cases h
  · rename_i after hread
    cases h
    have houtcome := Channel.outcome_of_read hread
    refine ⟨_, .silent hlive ?_ ?_ rfl rfl rfl ⟨rfl, rfl, rfl⟩⟩
    · show _ = server.connections.set slot (.live service (channel.after _))
      rw [Channel.after, houtcome]
      rfl
    · simp [Connection.told, Channel.told, houtcome]
  · rename_i after event hread
    cases h
    have houtcome := Channel.outcome_of_read hread
    have hset : (server.setConnection slot (.live service after)).connections[slot]? =
        some (.live service after) :=
      List.getElem?_set_self (List.getElem?_eq_some_iff.mp hlive).1
    obtain ⟨calls, hreaction⟩ := deliver_reaction site _ event hset
    refine ⟨calls, hreaction.acts rfl ?_ ?_ (fun _ _ => rfl) rfl rfl rfl rfl ⟨rfl, rfl, rfl⟩
      (.refl _)⟩
    · simp [Connection.told, Channel.told, Channel.after, houtcome]
    · rw [hreaction.connections, hset]
      show some (Connection.live service (after.run _)) =
        some (.live service ((channel.after _).run _))
      rw [Channel.after, houtcome]

/-- A session begins. -/
theorem begin_acts (site : Site σ) (server : Server σ) {slot : Nat} (transport : Transport)
    (request : Request) (service : Nat) (hflush : transport.flushFault = none)
    (hconnection : server.connections[slot]? =
      some (.replying transport (.upgrade request service) [])) :
    ∃ calls, Acts site server (begin site server slot transport request service) slot
      (.reply slot) (.replying transport (.upgrade request service) []) calls := by
  unfold begin
  dsimp only
  generalize hid : site.newId (server.issued + 1) = id
  generalize hchannel : Channel.ofTransport transport id request.path site.config.limits
    server.now.time = channel
  generalize hregistered : ({ server with issued := server.issued + 1 }.setConnection slot
    (.live service channel.announce)).register id slot = registered
  have hset : registered.connections[slot]? = some (.live service channel.announce) := by
    rw [← hregistered]
    exact List.getElem?_set_self (List.getElem?_eq_some_iff.mp hconnection).1
  obtain ⟨calls, hreaction⟩ := deliver_reaction site registered .opened hset
  have hannounced := hreaction.connections slot
  rw [hset] at hannounced
  -- The last thing done to the new channel is that its reader is started.
  rw [modifyChannel_eq _ slot service Channel.start _ hannounced]
  refine ⟨calls, hreaction.acts ?_ ?_ ?_ ?_ ?_ rfl ?_ rfl ?_ ⟨rfl, rfl, rfl⟩⟩
  · rw [← hregistered]
    rfl
  · rw [← hchannel]
    simp [Connection.told, hflush, Channel.announce, Session.announce, Channel.ofTransport,
      Session.fresh]
  · show (List.set _ slot _)[slot]? = _
    rw [List.getElem?_set_self (List.getElem?_eq_some_iff.mp hannounced).1, hid]
    have hrun : channel.run (.announce :: ((calls slot).map .call ++ [.start])) =
        (channel.announce.run ((calls slot).map .call)).start :=
      Channel.run_append channel.announce _ [.start]
    simp [Connection.own, Connection.replied, Transport.flush, hflush, Connection.begun, hchannel,
      hrun]
  · exact fun slot' hne => List.getElem?_set_ne hne.symm
  · rw [← hregistered]
    rfl
  · rw [← hregistered]
    rfl
  · rw [← hregistered]
    exact ⟨rfl, rfl, rfl⟩

/-- A session that begins is in the registry and open when the application is told so. -/
theorem begin_entered (site : Site σ) (server : Server σ) {slot : Nat} (transport : Transport)
    (request : Request) (service : Nat) (hslot : slot < server.connections.length) :
    let next := begin site server slot transport request service
    let id := site.newId (server.issued + 1)
    next.registry = server.registry.filter (·.1 ≠ id) ++ [(id, slot)] ∧
      next.log = server.log ++ [⟨slot, .opened, true, .opened⟩] := by
  unfold begin
  dsimp only
  generalize site.newId (server.issued + 1) = id
  generalize hchannel : Channel.ofTransport transport id request.path site.config.limits
    server.now.time = channel
  generalize hregistered : ({ server with issued := server.issued + 1 }.setConnection slot
    (.live service channel.announce)).register id slot = registered
  have hset : registered.connections[slot]? = some (.live service channel.announce) := by
    rw [← hregistered]
    exact List.getElem?_set_self hslot
  have hentry : registered.registry = server.registry.filter (·.1 ≠ id) ++ [(id, slot)] := by
    rw [← hregistered]
    rfl
  obtain ⟨calls, hreaction⟩ := deliver_reaction site registered .opened hset
  refine ⟨hreaction.registry.trans hentry, ?_⟩
  have hfound : registered.isRegistered id = true := by
    simp [isRegistered, slotOf?, hentry, List.find?_append]
  have hlog := hreaction.log.trans (registered.log_noted slot channel.announce .opened)
  rw [show registered.log = server.log by rw [← hregistered]; rfl] at hlog
  refine hlog.trans ?_
  rw [← hchannel]
  simp [Event.isClosed, Channel.announce, Channel.ofTransport, Session.announce, Session.fresh,
    hfound]

/-- The answer to a request goes on. -/
theorem writeReply_acts {site : Site σ} {server next : Server σ} {slot : Nat}
    {transport : Transport} {reply : Reply} {unsent : Bytes}
    (h : writeReply site server slot transport reply unsent = some next)
    (hconnection : server.connections[slot]? = some (.replying transport reply unsent)) :
    ∃ calls, Acts site server next slot (.reply slot) (.replying transport reply unsent)
      calls := by
  unfold writeReply at h
  split at h
  · rename_i hempty
    obtain rfl := List.isEmpty_iff.mp hempty
    cases h
    cases reply with
    | upgrade request service =>
      cases hflush : transport.flushFault with
      | none =>
        simp only [finishReply, Transport.flush, hflush]
        exact begin_acts site server transport request service hflush hconnection
      | some fault =>
        simp only [finishReply, Transport.flush, hflush]
        refine ⟨_, .silent hconnection ?_ ?_ rfl rfl rfl ⟨rfl, rfl, rfl⟩⟩
        · simp [Connection.own, Connection.replied, Transport.flush, hflush, setConnection]
        · simp [Connection.told, hflush]
    | refusal refusal => exact ⟨_, .silent hconnection rfl rfl rfl rfl rfl ⟨rfl, rfl, rfl⟩⟩
    | page => exact ⟨_, .silent hconnection rfl rfl rfl rfl rfl ⟨rfl, rfl, rfl⟩⟩
  · rename_i hempty
    have htold : (Connection.replying transport reply unsent).told server.now (.reply slot) =
        none := by
      cases reply <;> simp [Connection.told, hempty]
    split at h
    · cases h
    · rename_i hblocked
      split at h
      · rename_i fault hwrite
        cases h
        refine ⟨_, .silent hconnection ?_ htold rfl rfl rfl ⟨rfl, rfl, rfl⟩⟩
        simp [Connection.own, Connection.replied, hempty, hblocked, hwrite, setConnection]
      · rename_i rest sender hwrite
        cases h
        refine ⟨_, .silent hconnection ?_ htold rfl rfl rfl ⟨rfl, rfl, rfl⟩⟩
        simp [Connection.own, Connection.replied, hempty, hblocked, hwrite, setConnection]

/-! ### Actions -/

/-- A step that is counted does nothing else. -/
theorem Acts.counted {site : Site σ} {server next : Server σ} {slot : Nat} {action : Action}
    {connection : Connection} {calls : Nat → List Call}
    (h : Acts site server next slot action connection calls) :
    Acts site server { next with now := next.now.next } slot action connection calls where
  own := h.own
  others := h.others
  told := h.told
  untold := h.untold
  quiet := h.quiet
  sameTime := h.sameTime.trans ⟨rfl, rfl, rfl⟩
  spared := h.spared
  kept := h.kept

namespace History

/-- A task that is tried. If it is not ready, nothing happens. -/
theorem perform_acts {site : Site σ} {history : History σ} {slot : Nat} {connection : Connection}
    {task : Task} {action : Action}
    (hconnection : history.server.connections[slot]? = some connection)
    (hready : ∀ next, history.server.attempt site task = some next →
      ∃ calls, Acts site history.server next slot action connection calls)
    (hwaits : history.server.attempt site task = none →
      connection.own site history.server.now (site.newId (history.server.issued + 1)) [] action =
        connection ∧ connection.told history.server.now action = none) :
    ∃ calls, Acts site history.server (history.perform site task).server slot action connection
      calls := by
  show ∃ calls, Acts site history.server
    (((history.server.attempt site task).map _).getD history.server) slot action connection calls
  cases hattempt : history.server.attempt site task with
  | some next =>
    obtain ⟨calls, hacts⟩ := hready next hattempt
    exact ⟨calls, hacts.counted⟩
  | none =>
    obtain ⟨hown, htold⟩ := hwaits hattempt
    exact ⟨_, .rest hconnection hown htold⟩

/-- What an action of a slot does to the connection there, to the others and to what the
application is told. -/
theorem act_acts (site : Site σ) (history : History σ) {action : Action} {slot : Nat}
    {connection : Connection} (hslot : action.slot? = some slot)
    (hconnection : history.server.connections[slot]? = some connection) :
    ∃ calls, Acts site history.server (history.act site action).server slot action connection
      calls := by
  cases action with
  | peer slot' step =>
    cases hslot
    refine ⟨_, .silent hconnection ?_ rfl rfl rfl rfl ⟨rfl, rfl, rfl⟩⟩
    show (history.server.modifyConnection slot _).connections = _
    rw [history.server.modifyConnection_eq slot _ connection hconnection]
    rfl
  | call slot' request =>
    cases hslot
    show ∃ calls, Acts site history.server (history.server.call slot request).2 _ _ _ calls
    unfold Server.call
    rw [hconnection]
    cases connection with
    | live service channel =>
      exact ⟨_, .silent hconnection rfl rfl rfl rfl rfl ⟨rfl, rfl, rfl⟩⟩
    | _ =>
      exact ⟨_, .rest hconnection rfl rfl⟩
  | head slot' =>
    cases hslot
    cases connection with
    | awaitingHead transport =>
      refine perform_acts hconnection (fun next hnext => ?_) fun hnone => ?_
      · simp only [attempt, hconnection] at hnext
        obtain ⟨connection, hread, rfl⟩ := Option.map_eq_some_iff.mp hnext
        refine ⟨_, .silent hconnection ?_ rfl rfl rfl rfl ⟨rfl, rfl, rfl⟩⟩
        simp [Connection.own, hread, setConnection]
      · simp only [attempt, hconnection, Option.map_eq_none_iff] at hnone
        exact ⟨by simp [Connection.own, hnone], rfl⟩
    | _ =>
      exact perform_acts hconnection (fun next hnext => by simp [attempt, hconnection] at hnext)
        fun _ => ⟨rfl, rfl⟩
  | reply slot' =>
    cases hslot
    cases connection with
    | replying transport reply unsent =>
      refine perform_acts hconnection (fun next hnext => ?_) fun hnone => ?_
      · simp only [attempt, hconnection] at hnext
        exact writeReply_acts hnext hconnection
      · simp only [attempt, hconnection, writeReply] at hnone
        -- The peer takes no more bytes for now.
        split at hnone
        · cases hnone
        · rename_i hempty
          split at hnone
          · rename_i hblocked
            refine ⟨by simp [Connection.own, Connection.replied, hempty, hblocked], ?_⟩
            cases reply <;> simp [Connection.told, hempty]
          · split at hnone <;> cases hnone
    | _ =>
      exact perform_acts hconnection (fun next hnext => by simp [attempt, hconnection] at hnext)
        fun _ => ⟨rfl, rfl⟩
  | read slot' wakeup =>
    cases hslot
    cases connection with
    | live service channel =>
      refine perform_acts hconnection (fun next hnext => ?_) fun hnone => ?_
      · simp only [attempt, hconnection] at hnext
        exact readChannel_acts hnext hconnection
      · simp only [attempt, hconnection, readChannel] at hnone
        split at hnone
        · rename_i hread
          have houtcome := Channel.outcome_of_read_eq_none hread
          refine ⟨?_, by simp [Connection.told, Channel.told, houtcome]⟩
          show Connection.live service (channel.after _) = _
          rw [Channel.after, houtcome]
        · cases hnone
        · cases hnone
    | _ =>
      exact perform_acts hconnection (fun next hnext => by simp [attempt, hconnection] at hnext)
        fun _ => ⟨rfl, rfl⟩
  | write slot' =>
    cases hslot
    cases connection with
    | live service channel =>
      refine perform_acts hconnection (fun next hnext => ?_) fun hnone => ?_
      · simp only [attempt, hconnection] at hnext
        obtain ⟨after, hwrite, rfl⟩ := Option.map_eq_some_iff.mp hnext
        refine ⟨_, .silent hconnection ?_ rfl rfl rfl rfl ⟨rfl, rfl, rfl⟩⟩
        simp [Connection.own, Channel.after, Channel.outcome, hwrite, setConnection]
      · simp only [attempt, hconnection, Option.map_eq_none_iff] at hnone
        refine ⟨?_, rfl⟩
        simp [Connection.own, Channel.after, Channel.outcome, hnone]
    | _ =>
      exact perform_acts hconnection (fun next hnext => by simp [attempt, hconnection] at hnext)
        fun _ => ⟨rfl, rfl⟩
  | _ => cases hslot

/-- An action of a slot where nobody is does nothing. -/
theorem act_of_nobody (site : Site σ) (history : History σ) {action : Action} {slot : Nat}
    (hslot : action.slot? = some slot) (hnobody : history.server.connections[slot]? = none) :
    history.act site action = history := by
  have htask (task : Task) (h : history.server.attempt site task = none) :
      history.perform site task = history := by
    simp [perform, Server.perform, h]
  cases action with
  | peer slot' step =>
    cases hslot
    have hsame : history.server.applyPeer slot step = history.server := by
      simp [applyPeer, modifyConnection, List.modify_eq_set_getElem?, hnobody]
    simp [act, hsame]
  | call slot' request =>
    cases hslot
    simp [act, call, hnobody]
  | head slot' | reply slot' | read slot' wakeup | write slot' =>
    cases hslot
    exact htask _ (by simp [attempt, hnobody])
  | _ => cases hslot

end History

/-! ### Sweeps -/

/-- What a sweep finds about a session. -/
inductive Verdict where
  /-- It is not open, or a ping finds no room. -/
  | passed
  | pinged
  | expired
  deriving DecidableEq

/-- What a sweep finds about a session at a time. -/
def verdict (config : Config) (time : Nat) (session : Session) : Verdict :=
  if session.state ≠ .opened then .passed
  else if isUnresponsive config time session then .expired
  else if session.outbox.hasRoom then .pinged
  else .passed

theorem opened_of_verdict {config : Config} {time : Nat} {session : Session}
    (h : verdict config time session ≠ .passed) : session.state = .opened := by
  by_contra hstate
  exact h (if_pos hstate)

/-- A session that is sent a ping has room for it, and has missed fewer pings than it may. -/
theorem verdict_pinged {config : Config} {time : Nat} {session : Session}
    (h : verdict config time session = .pinged) :
    session.outbox.hasRoom ∧ session.missedPings < config.pingFailureThreshold := by
  unfold verdict at h
  split at h
  · cases h
  · split at h
    · cases h
    · rename_i hresponsive
      split at h
      · rename_i hroom
        simp only [isUnresponsive, Bool.or_eq_true, not_or, decide_eq_true_eq] at hresponsive
        exact ⟨hroom, UInt32.not_le.mp hresponsive.1⟩
      · cases h

/-- The channel in a slot does an action. -/
theorem modifyChannel_connections (server : Server σ) (slot : Nat) (action : Channel.Action)
    (slot' : Nat) : (server.modifyChannel slot (·.after action)).connections[slot']? =
      server.connections[slot']?.map (·.run (if slot = slot' then [action] else [])) := by
  unfold modifyChannel modifyConnection
  rw [List.getElem?_modify]
  congr 1
  funext connection
  split
  · cases connection <;> rfl
  · exact connection.run_nil.symm

theorem modifyChannel_live (server : Server σ) {slot service : Nat} {channel : Channel}
    (action : Channel.Action) (h : server.connections[slot]? = some (.live service channel)) :
    (server.modifyChannel slot (·.after action)).connections[slot]? =
      some (.live service (channel.after action)) := by
  rw [modifyChannel_connections, h, if_pos rfl]
  rfl

/-- The channels in the other slots do nothing. -/
theorem modifyChannel_connections_ne (server : Server σ) {slot slot' : Nat}
    (action : Channel.Action) (h : slot ≠ slot') :
    (server.modifyChannel slot (·.after action)).connections[slot']? =
      server.connections[slot']? := by
  rw [modifyChannel_connections, if_neg h]
  simp

/-- What a sweep does when it comes to a session that is there. -/
theorem visit_eq (config : Config) (number : UInt64) (server : Server σ) (report : SweepReport)
    (id : SessionId) {slot : Nat} {channel : Channel} (hslot : server.slotOf? id = some slot)
    (hchannel : server.channel? slot = some channel) :
    visit config (Bytes.ofNatBE 8 number.toNat) (server, report) id =
      match verdict config server.now.time channel.session with
      | .passed => (server, report)
      | .pinged => (server.modifyChannel slot (·.after (.keepalive number)),
        { report with pinged := report.pinged ++ [id] })
      | .expired => ((server.deregister id).modifyChannel slot (·.after .expire),
        { report with expired := report.expired ++ [id] }) := by
  obtain ⟨service, hlive⟩ := (server.channel?_eq_some_iff slot channel).mp hchannel
  unfold visit verdict
  simp only [hslot, hchannel]
  by_cases hopened : channel.session.state = .opened
  · rw [if_neg (not_not.mpr hopened), if_neg (not_not.mpr hopened)]
    cases hexpired : isUnresponsive config server.now.time channel.session with
    | true => rfl
    | false =>
      simp only [Bool.false_eq_true, if_false]
      rw [modifyChannel_eq _ _ _ _ _ hlive, Session.keepalive_of_opened _ hopened]
      cases hroom : channel.session.outbox.hasRoom with
      | true =>
        simp only [if_true]
        rw [modifyChannel_eq _ _ _ _ _ hlive]
        simp only [Channel.after, Channel.outcome, Session.keepalive_of_opened _ hopened, hroom,
          if_true]
        rfl
      | false => simp [setConnection, set_of_getElem? hlive]
  · rw [if_pos hopened, if_pos hopened]

/-- A sweep that comes to nobody does nothing. -/
theorem visit_of_nobody (config : Config) (payload : Bytes) (server : Server σ)
    (report : SweepReport) (id : SessionId)
    (h : ∀ slot, server.slotOf? id = some slot → server.channel? slot = none) :
    visit config payload (server, report) id = (server, report) := by
  unfold visit
  dsimp only
  cases hslot : server.slotOf? id with
  | none => rfl
  | some slot => simp [h slot hslot]

/-- What a sweep does when it comes to an id: nothing, or it sends a ping to the session that
has this id or expires it. -/
theorem visit_outcome (config : Config) (number : UInt64) (server : Server σ)
    (report : SweepReport) (id : SessionId) :
    let next := visit config (Bytes.ofNatBE 8 number.toNat) (server, report) id
    next = (server, report) ∨
      ∃ slot, server.slotOf? id = some slot ∧
        (next = (server.modifyChannel slot (·.after (.keepalive number)),
            { report with pinged := report.pinged ++ [id] }) ∨
          next = ((server.deregister id).modifyChannel slot (·.after .expire),
            { report with expired := report.expired ++ [id] })) := by
  intro next
  cases hslot : server.slotOf? id with
  | none => exact .inl (visit_of_nobody config _ server report id (by simp [hslot]))
  | some slot =>
    cases hchannel : server.channel? slot with
    | none => exact .inl (visit_of_nobody config _ server report id (by simp [hslot, hchannel]))
    | some channel =>
      have hvisit : next = _ := visit_eq config number server report id hslot hchannel
      cases hverdict : verdict config server.now.time channel.session with
      | passed => exact .inl (by rw [hvisit, hverdict])
      | pinged => exact .inr ⟨slot, rfl, .inl (by rw [hvisit, hverdict])⟩
      | expired => exact .inr ⟨slot, rfl, .inr (by rw [hvisit, hverdict])⟩

/-- A visit leaves every connection alone but that of the session that it comes to. -/
theorem visit_connections_of_ne (config : Config) (number : UInt64)
    (pass : Server σ × SweepReport) {id : SessionId} {slot : Nat}
    (h : pass.1.slotOf? id ≠ some slot) :
    (visit config (Bytes.ofNatBE 8 number.toNat) pass id).1.connections[slot]? =
      pass.1.connections[slot]? := by
  rcases visit_outcome config number pass.1 pass.2 id with hnone | ⟨slot', hslot, hping | hexpire⟩
  · rw [hnone]
  · rw [hping]
    exact modifyChannel_connections_ne pass.1 _ fun heq => h (heq ▸ hslot)
  · rw [hexpire]
    exact modifyChannel_connections_ne (pass.1.deregister id) _ fun heq => h (heq ▸ hslot)

/-- A sweep does something to a channel, or nothing. -/
theorem visit_connections (config : Config) (number : UInt64) (server : Server σ)
    (report : SweepReport) (id : SessionId) (slot : Nat) :
    ∃ actions,
      (visit config (Bytes.ofNatBE 8 number.toNat) (server, report) id).1.connections[slot]? =
        server.connections[slot]?.map (·.run actions) := by
  rcases visit_outcome config number server report id with hnone | ⟨slot', -, hping | hexpire⟩
  · exact ⟨[], by simp [hnone]⟩
  · rw [hping]
    exact ⟨_, modifyChannel_connections server slot' _ slot⟩
  · rw [hexpire]
    exact ⟨_, modifyChannel_connections (server.deregister id) slot' _ slot⟩

theorem sweepOver_connections (config : Config) (server : Server σ) (ids : List SessionId)
    (slot : Nat) :
    ∃ actions, (sweepOver config server ids).1.connections[slot]? =
      server.connections[slot]?.map (·.run actions) := by
  have hvisits (pass : Server σ × SweepReport) (number : UInt64) :
      ∃ actions,
        (ids.foldl (visit config (Bytes.ofNatBE 8 number.toNat)) pass).1.connections[slot]? =
          pass.1.connections[slot]?.map (·.run actions) := by
    induction ids generalizing pass with
    | nil => exact ⟨[], by simp⟩
    | cons id ids ih =>
      obtain ⟨first, hfirst⟩ := visit_connections config number pass.1 pass.2 id slot
      obtain ⟨rest, hrest⟩ := ih (visit config (Bytes.ofNatBE 8 number.toNat) pass id)
      refine ⟨first ++ rest, ?_⟩
      rw [List.foldl_cons, hrest, hfirst, Option.map_map]
      simp [Function.comp_def, Connection.run_append]
  exact hvisits _ _

/-- A tick is not due and does nothing, or it is due and sweeps. -/
theorem History.tick_cases (site : Site σ) (history : History σ) (ids : List SessionId) :
    (history.act site (.tick ids) = history ∧ ∀ sweeper, history.server.sweeper = some sweeper →
      history.server.now.time < sweeper.deadline) ∨
      ∃ sweeper, history.server.sweeper = some sweeper ∧
        sweeper.deadline ≤ history.server.now.time ∧
        let swept := sweepOver site.config history.server ids
        history.act site (.tick ids) =
          { server := { swept.1 with
              sweeper := some (sweeper.advance site.config swept.1.now)
              now := swept.1.now.next }
            reports := history.reports ++ [swept.2] } := by
  unfold act tickOver
  cases hsweeper : history.server.sweeper with
  | none => exact .inl ⟨rfl, fun sweeper h => by cases h⟩
  | some sweeper =>
    by_cases hdue : sweeper.deadline ≤ history.server.now.time
    · exact .inr ⟨sweeper, rfl, hdue, by simp only [if_pos hdue]⟩
    · refine .inl ⟨by simp only [if_neg hdue], fun sweeper' h => ?_⟩
      obtain rfl := Option.some.inj h
      exact Nat.lt_of_not_le hdue

/-- An action that is not about a slot does something to a channel there, or nothing. -/
theorem History.act_elsewhere (site : Site σ) (history : History σ) {action : Action} {slot : Nat}
    {connection : Connection} (hslot : action.slot? ≠ some slot)
    (hconnection : history.server.connections[slot]? = some connection) :
    ∃ actions, (history.act site action).server.connections[slot]? =
      some (connection.run actions) := by
  have hrest (next : List Connection) (h : next[slot]? = history.server.connections[slot]?) :
      ∃ actions, next[slot]? = some (connection.run actions) := ⟨[], by simp [h, hconnection]⟩
  have hsweep (ids : List SessionId) :
      ∃ actions, (sweepOver site.config history.server ids).1.connections[slot]? =
        some (connection.run actions) := by
    obtain ⟨actions, hactions⟩ := sweepOver_connections site.config history.server ids slot
    exact ⟨actions, by rw [hactions, hconnection]; rfl⟩
  cases haction : action.slot? with
  | some slot' =>
    have hne : slot ≠ slot' := fun heq => hslot (heq ▸ haction)
    cases hothers : history.server.connections[slot']? with
    | none => exact hrest _ (by rw [history.act_of_nobody site haction hothers])
    | some other =>
      obtain ⟨calls, hacts⟩ := history.act_acts site haction hothers
      exact ⟨_, by rw [hacts.others slot hne, hconnection]; rfl⟩
  | none =>
    cases action with
    | connect transport =>
      refine hrest _ (List.getElem?_append_left (List.getElem?_eq_some_iff.mp hconnection).1)
    | sweep ids => exact hsweep ids
    | tick ids =>
      rcases history.tick_cases site ids with ⟨hidle, -⟩ | ⟨sweeper, -, -, hdue⟩
      · exact hrest _ (by rw [hidle])
      · rw [hdue]
        exact hsweep ids
    | start =>
      refine hrest _ ?_
      show (history.server.start site).connections[slot]? = _
      unfold start
      split <;> rfl
    | stop => exact hrest _ rfl
    | wait milliseconds => exact hrest _ rfl
    | _ => cases haction

/-! ### The registry -/

/-- Whoever is in the registry has begun in its slot, and no id is in it twice. This holds
even if ids are given twice. -/
structure Seated (server : Server σ) : Prop where
  own : ∀ id slot, (id, slot) ∈ server.registry → server.idAt? slot = some id
  nodup : (server.registry.map (·.1)).Nodup

/-- A session enters the registry when it begins, and not later. -/
theorem Passage.mem_registry {server next : Server σ} {expired : Option SessionId}
    (h : Passage server next expired) {id : SessionId} {slot : Nat}
    (hmem : (id, slot) ∈ next.registry) :
    (id, slot) ∈ server.registry ∨ server.idAt? slot = none ∧ next.idAt? slot = some id := by
  cases h with
  | keep ids closed registry => exact .inl (registry ▸ hmem)
  | enter slot' id' before after others open_ closed registry =>
    rw [registry] at hmem
    rcases List.mem_append.mp hmem with hold | hnew
    · exact .inl (mem_filter_ne.mp hold).1
    · obtain ⟨rfl, rfl⟩ := Prod.mk.inj (List.mem_singleton.mp hnew)
      exact .inr ⟨before, after⟩
  | leave slot' id' own ids closed registry =>
    rw [registry] at hmem
    exact .inl (mem_filter_ne.mp hmem).1
  | expire slot' id' registered ids closed registry =>
    rw [registry] at hmem
    exact .inl (mem_filter_ne.mp hmem).1

namespace Seated

variable {server next : Server σ}

theorem passage {expired : Option SessionId} (h : Seated server)
    (hpassage : Passage server next expired) : Seated next where
  own id slot hmem := by
    rcases hpassage.mem_registry hmem with hold | ⟨-, hnew⟩
    · exact hpassage.idAt? (h.own id slot hold)
    · exact hnew
  nodup := by
    cases hpassage with
    | keep ids closed registry => exact registry ▸ h.nodup
    | enter slot id before after others open_ closed registry =>
      exact registry ▸ nodup_enter id slot h.nodup
    | leave slot id own ids closed registry => exact registry ▸ nodup_filter id h.nodup
    | expire slot id registered ids closed registry => exact registry ▸ nodup_filter id h.nodup

theorem moves {site : Site σ} {ids : List SessionId} (h : Seated server)
    (htraced : Traced site server) (hmoves : Moves site server next ids) : Seated next := by
  induction hmoves with
  | nil => exact h
  | cons move moves ih => exact ih (h.passage (move.passage htraced)) (htraced.move move)

/-- The registry is in order after any actions. -/
theorem run (site : Site σ) (services : σ) (actions : List Action) :
    Seated ((fresh services).run site actions).server := by
  obtain ⟨ids, -, hmoves⟩ := (fresh services).run_moves site actions
  have hfresh : Seated (fresh services).server := ⟨fun id slot hmem => (nomatch hmem), .nil⟩
  exact hfresh.moves (.fresh site services) hmoves

/-- A session is found in the registry under its id exactly if it is there. -/
theorem slotOf?_eq_some_iff (h : Seated server) {id : SessionId} {slot : Nat} :
    server.slotOf? id = some slot ↔ (id, slot) ∈ server.registry := by
  constructor
  · exact mem_of_slotOf?
  · intro hmem
    cases hslot : server.slotOf? id with
    | none =>
      have hnone := List.find?_eq_none.mp (Option.map_eq_none_iff.mp hslot) _ hmem
      simp at hnone
    | some slot' =>
      -- Two entries with one id are the same.
      have hsame := List.inj_on_of_nodup_map (f := (·.1)) h.nodup (mem_of_slotOf? hslot) hmem rfl
      rw [(Prod.mk.inj hsame).2]

end Seated

/-- A session that is not in the registry does not come back. -/
theorem not_mem_registry_of_moves {site : Site σ} {server next : Server σ}
    {ids : List SessionId} (htraced : Traced site server) (hmoves : Moves site server next ids)
    {id : SessionId} {slot : Nat} (hbegun : server.idAt? slot ≠ none)
    (hmem : (id, slot) ∈ next.registry) : (id, slot) ∈ server.registry := by
  induction hmoves with
  | nil => exact hmem
  | cons move moves ih =>
    have hpassage := move.passage htraced
    obtain ⟨own, hown⟩ := Option.ne_none_iff_exists'.mp hbegun
    have hmiddle := ih (htraced.move move) (by rw [hpassage.idAt? hown]; nofun) hmem
    exact (hpassage.mem_registry hmiddle).resolve_right fun hnew => hbegun hnew.1

end Server

end SocketGate
