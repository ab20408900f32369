import SocketGate.Proofs.Channel.Rest
import SocketGate.Proofs.Http.Head
import SocketGate.Proofs.Server.Slot
import SocketGate.Proofs.Server.Timers

/-!
# `SocketGate.Proofs.Server.Trace`: what an application is told of a stream

A peer sends a stream that begins with the request for a session of a service. Nobody calls
that session, and no sweep is made. Then the service is told what there is in the stream as a
whole, however it is cut into pieces and whatever the other connections do in the meantime:
that the session has begun, and then what a channel reports of the bytes behind the request.

`Connection.Follows` says what is still to be told while some steps of the peer are still to
come. It goes through the states of a connection: the request head is not there yet, the
request is being answered, and the session has begun.

* `Connection.Follows.own`: what an action of the connection leaves.
* `Server.Tells.run`: what a run leaves.
* `Server.Tells.eq_nil_of_settledAt`: a connection that has settled has nothing to tell.
-/

set_option autoImplicit false

namespace SocketGate

open Http (Request)

variable {σ : Type}

/-! ### Actions -/

namespace Server

/-- What an action brings from the peer of the connection in a slot. -/
def Action.arrival? (slot : Nat) : Action → Option PeerStep
  | .peer slot' step => if slot' = slot then some step else none
  | _ => none

/-- Whether an action leaves the session in a slot to its peer: it is no call of it and no
sweep. -/
def Action.leaves (slot : Nat) : Action → Bool
  | .call slot' _ => slot' ≠ slot
  | .sweep _ | .tick _ => false
  | _ => true

end Server

/-! ### One connection -/

/-- A connection that is served by a service, with what the application is yet to be told when
these steps of the peer are still to come. -/
inductive Connection.Follows (site : Site σ) (service : Nat) (ending : Ending)
    (due : List PeerStep) : Connection → List Event → Prop where
  /-- The stream begins with the request. -/
  | head (transport : Transport) (future : Bytes) (request : Request) (handshake : Handshake)
      (rest : Source) (takes : transport.TakesAll)
      (awaits : Awaits ending transport.source.ending due future)
      (inbound : ∀ step ∈ due, step.isInbound)
      (read : Request.read ⟨transport.source.bytes ++ future, ending⟩ =
        some (.ok (some request), rest))
      (route : site.route request = some service)
      (valid : Handshake.ofRequest? request = .ok handshake) :
      Follows site service ending due (.awaitingHead transport)
        (.opened :: site.config.trace rest.bytes ending)
  /-- The handshake is being completed. -/
  | reply (transport : Transport) (future : Bytes) (request : Request) (unsent : Bytes)
      (takes : transport.TakesAll) (awaits : Awaits ending transport.source.ending due future)
      (inbound : ∀ step ∈ due, step.isInbound) :
      Follows site service ending due (.replying transport (.upgrade request service) unsent)
        (.opened :: site.config.trace (transport.source.bytes ++ future) ending)
  | live (channel : Channel) (events : List Event)
      (follows : channel.Follows site.config.limits.frame ending due events) :
      Follows site service ending due (.live service channel) events

namespace Connection.Follows

variable {site : Site σ} {service : Nat} {ending : Ending} {due : List PeerStep}
  {connection : Connection} {events : List Event} {slot : Nat} {action : Server.Action}

/-- The peer does one of the steps that were to come. -/
theorem peer {step : PeerStep} (h : connection.Follows site service ending (step :: due) events) :
    (connection.mapTransport (·.apply step)).Follows site service ending due events := by
  have htail {steps : List PeerStep} (hinbound : ∀ other ∈ step :: steps, other.isInbound) :
      ∀ other ∈ steps, other.isInbound :=
    fun other hmem => hinbound other (List.mem_cons_of_mem step hmem)
  cases h with
  | head transport future request handshake rest takes awaits inbound read route valid =>
    obtain ⟨later, hbytes, hawaits⟩ := awaits.apply
    exact .head _ later request handshake rest (takes.apply (inbound step List.mem_cons_self))
      hawaits (htail inbound) (hbytes ▸ read) route valid
  | reply transport future request unsent takes awaits inbound =>
    obtain ⟨later, hbytes, hawaits⟩ := awaits.apply
    rw [← hbytes]
    exact .reply _ later request unsent (takes.apply (inbound step List.mem_cons_self)) hawaits
      (htail inbound)
  | live channel events follows =>
    obtain ⟨left, hevents, hleft⟩ := Channel.Follows.after (.peer step) follows rfl
    obtain rfl : events = left := hevents
    exact .live _ events hleft

/-- The request head is read as soon as it is there. -/
theorem readHead {transport : Transport} {next : Connection}
    (h : (Connection.awaitingHead transport).Follows site service ending due events)
    (hread : Server.readHead site transport = some next) :
    next.Follows site service ending due events := by
  cases h with
  | head transport future request handshake rest takes awaits inbound read route valid =>
    unfold Server.readHead at hread
    cases hfirst : Request.read transport.source with
    | none => simp [hfirst] at hread
    | some found =>
      obtain ⟨outcome, after⟩ := found
      -- What comes after the bytes that are there has no part in it.
      have hwhole : outcome = .ok (some request) ∧ rest.bytes = after.bytes ++ future := by
        by_cases hnow : transport.source.ending = .unfinished
        · obtain ⟨-, hmore⟩ := Request.firm_read.extend _ _ _ hnow hfirst
          have hsame := (hmore future ending).symm.trans read
          obtain ⟨rfl, rfl⟩ := Prod.mk.inj (Option.some.inj hsame)
          exact ⟨rfl, rfl⟩
        · obtain ⟨rfl, rfl⟩ := awaits.of_ended hnow
          rw [List.append_nil] at read
          obtain ⟨rfl, rfl⟩ := Prod.mk.inj (Option.some.inj (hfirst.symm.trans read))
          exact ⟨rfl, (List.append_nil _).symm⟩
      obtain ⟨rfl, hbytes⟩ := hwhole
      have hending := Request.firm_read.ending _ _ _ hfirst
      rw [hfirst] at hread
      simp only [Server.answer, route, valid] at hread
      rw [← Option.some.inj hread, hbytes]
      exact .reply { transport with source := after } future request handshake.response
        ⟨takes.window, takes.writeFault, takes.flushFault⟩ (hending ▸ awaits) inbound

/-- The answer to the request goes on until the session begins. -/
theorem replied {transport : Transport} {reply : Reply} {unsent : Bytes} (time : Nat)
    (id : SessionId)
    (h : (Connection.replying transport reply unsent).Follows site service ending due events) :
    ∃ left, events = (if unsent.isEmpty then [Event.opened] else []) ++ left ∧
      (Connection.replied site time id [] transport reply unsent).Follows site service ending due
        left := by
  cases h with
  | reply transport future request unsent takes awaits inbound =>
    unfold Connection.replied
    by_cases hempty : unsent.isEmpty
    · rw [if_pos hempty, if_pos hempty]
      refine ⟨_, rfl, ?_⟩
      simp only [Transport.flush, takes.flushFault]
      exact .live _ _ (Channel.follows_ofTransport site.config takes awaits inbound id request.path
        time)
    · rw [if_neg hempty, if_neg hempty]
      refine ⟨_, rfl, ?_⟩
      have hfree : transport.isBlocked = false := by simp [Transport.isBlocked, takes.window]
      simp only [hfree, Bool.false_eq_true, if_false, Transport.write, takes.writeFault]
      exact .reply _ future request _
        ⟨by simp [takes.window], rfl, takes.flushFault⟩ awaits inbound

/-- What the application is told when the connection does an action of its own is the first
part of what it was to be told, and it is told it by the service. -/
theorem own (now : Moment) (id : SessionId) (hslot : action.slot? = some slot)
    (hleaves : action.leaves slot)
    (h : connection.Follows site service ending ((action.arrival? slot).toList ++ due) events) :
    (∀ told, connection.told now action = some told → told.1 = service) ∧
      ∃ left, events = ((connection.told now action).map (·.2.2)).toList ++ left ∧
        (connection.own site now id [] action).Follows site service ending due left := by
  have hsame (hdue : action.arrival? slot = none) (htold : connection.told now action = none)
      (hown : connection.own site now id [] action = connection) :
      (∀ told, connection.told now action = some told → told.1 = service) ∧
        ∃ left, events = ((connection.told now action).map (·.2.2)).toList ++ left ∧
          (connection.own site now id [] action).Follows site service ending due left := by
    rw [hdue] at h
    rw [htold, hown]
    exact ⟨(fun told hold => by cases hold), events, rfl, h⟩
  cases action with
  | peer slot' step =>
    obtain rfl := Option.some.inj hslot
    have harrival : (Server.Action.peer slot' step).arrival? slot' = some step := if_pos rfl
    rw [harrival] at h
    exact ⟨(fun told hold => by cases hold), events, rfl, h.peer⟩
  | call slot' request => simp [Server.Action.leaves, Option.some.inj hslot] at hleaves
  | head slot' =>
    cases connection with
    | awaitingHead transport =>
      refine ⟨(fun told hold => by cases hold), events, rfl, ?_⟩
      show ((Server.readHead site transport).getD _).Follows site service ending due events
      cases hread : Server.readHead site transport with
      | none => exact h
      | some next => exact h.readHead hread
    | _ => exact hsame rfl rfl rfl
  | reply slot' =>
    cases connection with
    | replying transport reply unsent =>
      obtain ⟨left, hevents, hleft⟩ := replied now.time id h
      cases h with
      | reply transport future request unsent takes awaits inbound =>
        have htold : (Connection.replying transport (.upgrade request service) unsent).told now
            (.reply slot') = if unsent.isEmpty then some (service, .opened, .opened) else none := by
          simp [Connection.told, takes.flushFault]
        refine ⟨fun told hold => ?_, left, ?_, hleft⟩
        · rw [htold] at hold
          split at hold <;> cases hold
          rfl
        · rw [hevents, htold]
          split <;> rfl
    | _ => exact hsame rfl rfl rfl
  | read slot' wakeup =>
    cases connection with
    | live service' channel =>
      cases h with
      | live channel events follows =>
        obtain ⟨left, hevents, hleft⟩ := Channel.Follows.after (.read now wakeup) follows rfl
        refine ⟨fun told hold => ?_, left, ?_, .live _ left hleft⟩
        · obtain ⟨reported, -, rfl⟩ := Option.map_eq_some_iff.mp hold
          rfl
        · rw [hevents, Connection.told, Option.map_map]
          rfl
    | _ => exact hsame rfl rfl rfl
  | write slot' =>
    cases connection with
    | live service' channel =>
      cases h with
      | live channel events follows =>
        obtain ⟨left, hevents, hleft⟩ := Channel.Follows.after (.write now) follows rfl
        obtain rfl : events = left := hevents
        exact ⟨(fun told hold => by cases hold), events, rfl, .live _ events hleft⟩
    | _ => exact hsame rfl rfl rfl
  | _ => cases hslot

end Connection.Follows

/-! ### Servers -/

namespace Server

/-- The connection in a slot is served by a service that does nothing. These events are still
to be told when these steps of its peer are still to come. -/
structure Tells (site : Site σ) (reactions : Nat → Event → List Call) (slot service : Nat)
    (ending : Ending) (due : List PeerStep) (server : Server σ) (events : List Event) : Prop where
  keeps : site.application.Keeps server.services reactions
  idle : ∀ event, reactions service event = []
  follows : ∃ connection, server.connections[slot]? = some connection ∧
    connection.Follows site service ending due events

namespace Tells

variable {site : Site σ} {reactions : Nat → Event → List Call} {slot service : Nat}
  {ending : Ending} {due : List PeerStep} {history : History σ} {events : List Event}

/-- What is done elsewhere does not reach the connection. -/
theorem apart {action : Action}
    (h : Tells site reactions slot service ending due history.server events)
    (hslot : action.slot? ≠ some slot) (hleaves : action.leaves slot) :
    (history.act site action).server.callbacks slot = history.server.callbacks slot ∧
      Tells site reactions slot service ending due (history.act site action).server events := by
  obtain ⟨connection, hconnection, hfollows⟩ := h.follows
  have hsame (next : Server σ) (hconnections : next.connections[slot]? = some connection)
      (hservices : next.services = history.server.services)
      (hcallbacks : next.callbacks slot = history.server.callbacks slot) :
      next.callbacks slot = history.server.callbacks slot ∧
        Tells site reactions slot service ending due next events :=
    ⟨hcallbacks, hservices.symm ▸ h.keeps, h.idle, connection, hconnections, hfollows⟩
  cases haction : action.slot? with
  | some slot' =>
    have hne : slot ≠ slot' := fun heq => hslot (heq ▸ haction)
    cases hother : history.server.connections[slot']? with
    | none =>
      rw [history.act_of_nobody site haction hother]
      exact hsame _ hconnection rfl rfl
    | some other =>
      obtain ⟨calls, hacts⟩ := history.act_acts site haction hother
      obtain ⟨hservices, hcalls, -⟩ := hacts.kept reactions h.keeps
      refine hsame _ ?_ hservices (hacts.untold slot hne)
      rw [hacts.others slot hne, hconnection, hcalls slot hne]
      simp
  | none =>
    cases action with
    | connect transport =>
      refine hsame _ ?_ rfl rfl
      exact (List.getElem?_append_left (List.getElem?_eq_some_iff.mp hconnection).1).trans
        hconnection
    | start =>
      show (history.server.start site).callbacks slot = _ ∧ Tells _ _ _ _ _ _
        (history.server.start site) _
      unfold start
      split <;> exact hsame _ hconnection rfl rfl
    | stop | wait => exact hsame _ hconnection rfl rfl
    | sweep | tick => cases hleaves
    | _ => cases haction

/-- The connection does an action of its own, and the service makes no calls. -/
theorem own {action : Action} {connection : Connection}
    (h : Tells site reactions slot service ending ((action.arrival? slot).toList ++ due)
      history.server events)
    (hconnection : history.server.connections[slot]? = some connection)
    (hslot : action.slot? = some slot) (hleaves : action.leaves slot) :
    (history.act site action).server.connections[slot]? = some (connection.own site
        history.server.now (site.newId (history.server.issued + 1)) [] action) ∧
      ∃ told left, (history.act site action).server.callbacks slot =
          history.server.callbacks slot ++ told ∧
        events = told.map (·.2) ++ left ∧
        Tells site reactions slot service ending due (history.act site action).server left := by
  obtain ⟨found, hfound, hfollows⟩ := h.follows
  obtain rfl := Option.some.inj (hconnection.symm.trans hfound)
  obtain ⟨calls, hacts⟩ := history.act_acts site hslot hconnection
  obtain ⟨hservices, -, hcalls⟩ := hacts.kept reactions h.keeps
  obtain ⟨hservice, left, hevents, hleft⟩ := hfollows.own history.server.now
    (site.newId (history.server.issued + 1)) hslot hleaves
  have hnone : calls slot = [] := by
    rw [hcalls]
    cases htold : connection.told history.server.now action with
    | none => rfl
    | some told =>
      show reactions told.1 told.2.2 = []
      rw [hservice told htold]
      exact h.idle told.2.2
  have hown := hacts.own
  rw [hnone] at hown
  refine ⟨hown, _, left, hacts.told, ?_, hservices.symm ▸ h.keeps, h.idle, _, hown, hleft⟩
  rw [hevents]
  cases connection.told history.server.now action <;> rfl

/-- What the application is told by an action is the first part of what is to be told. -/
theorem act (action : Action) (hleaves : action.leaves slot)
    (h : Tells site reactions slot service ending ((action.arrival? slot).toList ++ due)
      history.server events) :
    ∃ told left, (history.act site action).server.callbacks slot =
        history.server.callbacks slot ++ told ∧
      events = told.map (·.2) ++ left ∧
      Tells site reactions slot service ending due (history.act site action).server left := by
  by_cases hslot : action.slot? = some slot
  · obtain ⟨connection, hconnection, -⟩ := h.follows
    exact (h.own hconnection hslot hleaves).2
  · have hnone : action.arrival? slot = none := by
      cases action with
      | peer slot' step => exact if_neg fun heq => hslot (congrArg some heq)
      | _ => rfl
    rw [hnone] at h
    obtain ⟨hcallbacks, htells⟩ := h.apart hslot hleaves
    exact ⟨[], events, by rw [hcallbacks, List.append_nil], rfl, htells⟩

/-- What the application is told by a run is the first part of what is to be told. -/
theorem run {actions : List Action} (hleaves : ∀ action ∈ actions, action.leaves slot)
    (h : Tells site reactions slot service ending
      (actions.filterMap (Action.arrival? slot) ++ due) history.server events) :
    ∃ told left, (history.run site actions).server.callbacks slot =
        history.server.callbacks slot ++ told ∧
      events = told.map (·.2) ++ left ∧
      Tells site reactions slot service ending due (history.run site actions).server left := by
  induction actions generalizing history events with
  | nil => exact ⟨[], events, (List.append_nil _).symm, rfl, h⟩
  | cons action actions ih =>
    have hcons : (action :: actions).filterMap (Action.arrival? slot) =
        (action.arrival? slot).toList ++ actions.filterMap (Action.arrival? slot) := by
      cases harrival : action.arrival? slot <;> simp [harrival]
    rw [hcons, List.append_assoc] at h
    obtain ⟨first, middle, hfirst, hevents, hafter⟩ :=
      h.act action (hleaves action List.mem_cons_self)
    obtain ⟨rest, left, hrest, hmiddle, hrun⟩ :=
      ih (fun other hother => hleaves other (List.mem_cons_of_mem action hother)) hafter
    refine ⟨first ++ rest, left, ?_, ?_, hrun⟩
    · rw [← List.append_assoc, ← hfirst]
      exact hrest
    · rw [hevents, hmiddle, List.map_append, List.append_assoc]

/-- A connection that has settled when all steps of its peer have come has told all. -/
theorem eq_nil_of_settledAt {server : Server σ}
    (h : Tells site reactions slot service ending [] server events)
    (hsettled : SettledAt site server slot) : events = [] := by
  obtain ⟨connection, hconnection, hfollows⟩ := h.follows
  cases hfollows with
  | head transport future request handshake rest takes awaits inbound read route valid =>
    exfalso
    have hnone := Option.map_eq_none_iff.mp (hsettled (.head slot) rfl)
    obtain ⟨rfl, rfl⟩ := awaits.of_nil
    rw [List.append_nil] at read
    simp [attempt, hconnection, readHead, read] at hnone
  | reply transport future request unsent takes awaits inbound =>
    exfalso
    have hnone := Option.map_eq_none_iff.mp (hsettled (.reply slot) rfl)
    simp only [attempt, hconnection, writeReply] at hnone
    split at hnone
    · cases hnone
    · simp [Transport.isBlocked, takes.window, Transport.write, takes.writeFault] at hnone
  | live channel events follows =>
    exact follows.eq_nil_of_rests (hsettled.rests (channel?_live hconnection))

end Tells

/-! ### Settling -/

/-- Whether an action is a step of a task of the connection in a slot. -/
def Action.isTask (slot : Nat) : Action → Bool
  | .head slot' | .reply slot' | .read slot' _ | .write slot' => slot' = slot
  | _ => false

theorem Action.of_isTask {action : Action} {slot : Nat} (h : action.isTask slot) :
    action.slot? = some slot ∧ action.leaves slot ∧ action.arrival? slot = none := by
  cases action with
  | head slot' | reply slot' | read slot' | write slot' =>
    exact ⟨congrArg some (of_decide_eq_true h), rfl, rfl⟩
  | _ => cases h

end Server

namespace Connection

/-- How many states a connection still goes through before its session begins. -/
def stage : Connection → Nat
  | awaitingHead _ => 3
  | replying _ _ unsent => if unsent.isEmpty then 1 else 2
  | live .. | finished .. => 0

/-- How many steps the channel of a connection makes at most. -/
def effort : Connection → Nat
  | live _ channel => channel.effort
  | _ => 0

end Connection

namespace Server

open Connection (Follows)

variable {site : Site σ} {reactions : Nat → Event → List Call} {slot service : Nat}
  {ending : Ending} {events : List Event}

/-- A connection that has not settled can make a step, and has less to do after it. -/
theorem settledAt_or_less {server : Server σ} {connection : Connection} (id : SessionId)
    (hconnection : server.connections[slot]? = some connection)
    (h : connection.Follows site service ending [] events) : SettledAt site server slot ∨
      ∃ action : Action, action.isTask slot ∧ Prod.Lex (· < ·) (· < ·)
        ((connection.own site server.now id [] action).stage,
          (connection.own site server.now id [] action).effort)
        (connection.stage, connection.effort) := by
  cases h with
  | head transport future request handshake rest takes awaits inbound read route valid =>
    refine .inr ⟨.head slot, decide_eq_true rfl, .left _ _ ?_⟩
    obtain ⟨rfl, rfl⟩ := awaits.of_nil
    rw [List.append_nil] at read
    simp only [Connection.own, readHead, read, answer, route, valid, Option.getD_some,
      Connection.stage]
    split <;> omega
  | reply transport future request unsent takes awaits inbound =>
    refine .inr ⟨.reply slot, decide_eq_true rfl, .left _ _ ?_⟩
    show (Connection.replied site _ id [] transport (.upgrade request service) unsent).stage <
      if unsent.isEmpty then 1 else 2
    unfold Connection.replied
    by_cases hempty : unsent.isEmpty
    · rw [if_pos hempty, if_pos hempty]
      simp only [Transport.flush, takes.flushFault]
      exact Nat.zero_lt_one
    · -- All that is left is taken at once.
      have hfree : transport.isBlocked = false := by simp [Transport.isBlocked, takes.window]
      rw [if_neg hempty, if_neg hempty, if_neg (by simp [hfree])]
      simp [Transport.write, takes.writeFault, Transport.room, takes.window, Connection.stage]
  | live channel events follows =>
    rcases Channel.rests_or_effort_lt server.now follows.takesAll.window with
      hrests | ⟨wakeup, hless⟩ | hless
    · refine .inl fun task htask => ?_
      cases task with
      | tick => cases htask
      | head slot' | reply slot' | read slot' wakeup | write slot' =>
        obtain rfl := Option.some.inj htask
        simp [perform, attempt, hconnection, readChannel, hrests.read, hrests.write]
    · exact .inr ⟨.read slot wakeup, decide_eq_true rfl, .right _ hless⟩
    · exact .inr ⟨.write slot, decide_eq_true rfl, .right _ hless⟩

/-- Some steps of its own tasks settle a connection. -/
theorem Tells.exists_settledAt (history : History σ) (connection : Connection)
    (events : List Event) (hconnection : history.server.connections[slot]? = some connection)
    (h : Tells site reactions slot service ending [] history.server events) :
    ∃ more : List Action, (∀ action ∈ more, action.isTask slot) ∧
      SettledAt site (history.run site more).server slot := by
  obtain ⟨found, hfound, hfollows⟩ := h.follows
  obtain rfl := Option.some.inj (hconnection.symm.trans hfound)
  rcases settledAt_or_less (site.newId (history.server.issued + 1)) hconnection hfollows with
    hsettled | ⟨action, htask, hless⟩
  · exact ⟨[], by simp, hsettled⟩
  · obtain ⟨hslot, hleaves, hnone⟩ := action.of_isTask htask
    have hdue : Tells site reactions slot service ending ((action.arrival? slot).toList ++ [])
        history.server events := by rwa [hnone]
    obtain ⟨hnext, told, left, -, -, htells⟩ := hdue.own hconnection hslot hleaves
    obtain ⟨more, hall, hsettled⟩ := exists_settledAt _ _ left hnext htells
    exact ⟨action :: more, List.forall_mem_cons.mpr ⟨htask, hall⟩, hsettled⟩
termination_by (connection.stage, connection.effort)
decreasing_by exact hless

/-! ### The stream as a whole -/

/-- What is reported is what there is in the stream as a whole, however it is cut into pieces.
That holds of the stream of a channel, and of a stream that begins with a request for a
service that does nothing. Nothing else is ever reported, all of it has been when nothing can
go on, and it can always come to that. -/
theorem callbacks_of_stream (site : Site σ) (transport : Transport) (pieces : List Bytes)
    (ending : Ending) (htakes : transport.TakesAll)
    (hopen : transport.source.ending = .unfinished) :
    let stream := transport.source.bytes ++ pieces.flatten
    (∀ (id : SessionId) (path : String) (time : Nat) (actions : List Channel.Action),
      (∀ action ∈ actions, action.isStep) →
      actions.filterMap Channel.Action.peer? = delivery pieces ending →
      let channel := (Channel.ofTransport transport id path site.config.limits time).run
        [.announce, .start]
      let trace := site.config.trace stream ending
      (channel.events actions).map (·.2) <+: trace ∧
        (∀ now, (channel.run actions).Rests now → (channel.events actions).map (·.2) = trace) ∧
        ∀ now, ∃ more : List Channel.Action,
          (∀ action ∈ more, action.isStep ∧ action.peer? = none) ∧
          (channel.run (actions ++ more)).Rests now ∧
          (channel.events (actions ++ more)).map (·.2) = trace) ∧
    (∀ (history : History σ) (reactions : Nat → Event → List Call) (slot service : Nat)
      (request : Request) (handshake : Handshake) (rest : Source) (actions : List Action),
      site.application.Keeps history.server.services reactions →
      (∀ event, reactions service event = []) →
      history.server.connections[slot]? = some (.awaitingHead transport) →
      history.server.callbacks slot = [] →
      Request.read ⟨stream, ending⟩ = some (.ok (some request), rest) →
      site.route request = some service →
      Handshake.ofRequest? request = .ok handshake →
      (∀ action ∈ actions, action.leaves slot) →
      actions.filterMap (Action.arrival? slot) = delivery pieces ending →
      let trace := .opened :: site.config.trace rest.bytes ending
      let server := (history.run site actions).server
      (server.callbacks slot).map (·.2) <+: trace ∧
        (SettledAt site server slot → (server.callbacks slot).map (·.2) = trace) ∧
        ∃ more : List Action, (∀ action ∈ more, action.isTask slot) ∧
          let settled := (history.run site (actions ++ more)).server
          SettledAt site settled slot ∧ (settled.callbacks slot).map (·.2) = trace) := by
  intro stream
  refine ⟨fun id path time actions hsteps hpeer => ?_, ?_⟩
  · exact Channel.events_of_stream site.config transport id path time pieces ending actions htakes
      hopen hsteps hpeer
  intro history reactions slot service request handshake rest actions hkeeps hidle hconnection
    hsilent hread hroute hvalid hleaves harrivals trace server
  have hstart : Tells site reactions slot service ending
      (actions.filterMap (Action.arrival? slot) ++ []) history.server trace := by
    rw [List.append_nil, harrivals]
    have hfollows : (Connection.awaitingHead transport).Follows site service ending
        (delivery pieces ending) trace :=
      .head transport pieces.flatten request handshake rest htakes (hopen ▸ .more pieces)
        (fun step => isInbound_of_mem_delivery) hread hroute hvalid
    exact ⟨hkeeps, hidle, _, hconnection, hfollows⟩
  obtain ⟨told, left, hcallbacks, htrace, hrun⟩ := hstart.run hleaves
  rw [hsilent, List.nil_append] at hcallbacks
  refine ⟨⟨left, ?_⟩, fun hsettled => ?_, ?_⟩
  · rw [hcallbacks, htrace]
  · rw [hcallbacks, htrace, hrun.eq_nil_of_settledAt hsettled, List.append_nil]
  · obtain ⟨connection, hlast, -⟩ := hrun.follows
    obtain ⟨more, htasks, hsettled⟩ := hrun.exists_settledAt _ connection left hlast
    have hnone : more.filterMap (Action.arrival? slot) = [] :=
      List.filterMap_eq_nil_iff.mpr fun action hmem => (action.of_isTask (htasks action hmem)).2.2
    have hmore : Tells site reactions slot service ending
        (more.filterMap (Action.arrival? slot) ++ []) (history.run site actions).server left := by
      rwa [hnone]
    obtain ⟨told', left', hcallbacks', hleft, hend⟩ :=
      hmore.run fun action hmem => (action.of_isTask (htasks action hmem)).2.1
    refine ⟨more, htasks, by rwa [History.run_append], ?_⟩
    rw [History.run_append, hcallbacks', hcallbacks, List.map_append, htrace, hleft,
      hend.eq_nil_of_settledAt hsettled, List.append_nil]

/-- A request with the first byte of a close frame behind it, and then the rest of that
frame. -/
def splitHead : List Bytes := [caller.source.bytes ++ [0x88], [0x82, 0, 0, 0, 0, 0x03, 0xE8]]

/-- The request is answered while the frame behind it is still to come. -/
def splitHeadRun : List Action :=
  [.peer 0 (.receive splitHead[0]), .head 0, .reply 0, .peer 0 (.receive splitHead[1]),
    .peer 0 .finish]

/-- The service is told of the session, and of the close frame. On a channel the same bytes
break a rule. -/
theorem callbacks_of_stream_splitHead :
    (∃ more : List Action, (∀ action ∈ more, action.isTask 0) ∧
      let settled := (((fresh ()).act quietSite (.connect {})).run quietSite
        (splitHeadRun ++ more)).server
      SettledAt quietSite settled 0 ∧
        (settled.callbacks 0).map (·.2) = [.opened, .closed ⟨.normal, ""⟩]) ∧
    ∃ more : List Channel.Action,
      let channel := (Channel.ofTransport {} ⟨0, 1⟩ "/" quietSite.config.limits 0).run
        [.announce, .start]
      (channel.events (splitHead.map (.peer <| .receive ·) ++ [.peer .finish] ++ more)).map (·.2) =
        Violation.reservedBits.events := by
  have hevaluated :
      ((Request.read ⟨splitHead.flatten, .ended⟩).map fun reading =>
        (reading.1.toOption.join.isSome, reading.2.bytes)) =
          some (true, [0x88, 0x82, 0, 0, 0, 0, 0x03, 0xE8]) ∧
      ((Request.read ⟨splitHead.flatten, .ended⟩).bind fun reading =>
        reading.1.toOption.join).all (fun request =>
          (Handshake.ofRequest? request).toOption.isSome) ∧
      quietSite.config.trace [0x88, 0x82, 0, 0, 0, 0, 0x03, 0xE8] .ended =
        [.closed ⟨.normal, ""⟩] ∧
      quietSite.config.trace splitHead.flatten .ended = Violation.reservedBits.events := by
    decide +kernel
  obtain ⟨hread, hvalid, htrace, hchannel⟩ := hevaluated
  obtain ⟨⟨outcome, rest⟩, hreading, houtcome⟩ := Option.map_eq_some_iff.mp hread
  obtain ⟨hrequest, hrest⟩ := Prod.mk.inj houtcome
  obtain ⟨request, rfl⟩ : ∃ request, outcome = .ok (some request) := by
    cases outcome with
    | error fault => cases hrequest
    | ok found =>
      cases found with
      | none => cases hrequest
      | some request => exact ⟨request, rfl⟩
  rw [hreading] at hvalid
  obtain ⟨handshake, hhandshake⟩ : ∃ handshake, Handshake.ofRequest? request = .ok handshake := by
    cases hchecked : Handshake.ofRequest? request with
    | error refusal => simp [Except.toOption, hchecked] at hvalid
    | ok handshake => exact ⟨handshake, rfl⟩
  obtain ⟨hstream, hserver⟩ := callbacks_of_stream quietSite {} splitHead .ended ⟨rfl, rfl, rfl⟩ rfl
  constructor
  · obtain ⟨-, -, more, htasks, hsettled, hcallbacks⟩ := hserver
      ((fresh ()).act quietSite (.connect {})) (fun _ _ => []) 0 0 request handshake rest
      splitHeadRun (fun _ _ _ => rfl) (fun _ => rfl) rfl rfl hreading rfl hhandshake (by decide) rfl
    refine ⟨more, htasks, hsettled, hcallbacks.trans ?_⟩
    rw [hrest, htrace]
  · obtain ⟨-, -, hmore⟩ := hstream ⟨0, 1⟩ "/" 0
      (splitHead.map (.peer <| .receive ·) ++ [.peer .finish]) (by decide) rfl
    obtain ⟨more, -, -, hevents⟩ := hmore {}
    exact ⟨more, hevents.trans hchannel⟩

end Server

end SocketGate
