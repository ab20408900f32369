import SocketGate.Proofs.Server.Callbacks
import SocketGate.Proofs.Service.Echo

/-!
# `SocketGate.Proofs.Server.Echo`: the sessions of an echo on a server

On a server the application is told in the middle of a step, and what it does is carried out before
the next step. For a session of an echo this is a run of its channel with the answers of the echo
(`Channel.echoing`), whatever happens on the server meanwhile. Hence what is known of such runs
holds for these sessions.

* `Connection.Echoes.own`: an action of the connection.
* `Server.EchoesIn.act`: an action on the server.
* `Server.exists_echoing`: every session of an echo, after any actions.
-/

set_option autoImplicit false

namespace SocketGate

/-! ### Channels -/

namespace Channel

theorem echoing_append (channel : Channel) (before after : List Action) :
    channel.echoing (before ++ after) =
      channel.echoing before ++ (channel.run (channel.echoing before)).echoing after := by
  induction before generalizing channel with
  | nil => rfl
  | cons action before ih =>
    rw [List.cons_append, echoing, echoing, ih, List.cons_append, List.append_assoc]
    simp only [run, List.foldl_cons, List.foldl_append]

/-- Calls report nothing. -/
theorem events_calls (channel : Channel) (calls : List Call) :
    channel.events (calls.map .call) = [] := by
  induction calls generalizing channel with
  | nil => rfl
  | cons call calls ih => exact ih _

/-- The channel comes out of a new one by some actions and the answers of an echo to them, and this
was reported. None of the actions sends a message. -/
def Echoing (limits : Limits) (channel : Channel) (told : List (SessionState × Event)) : Prop :=
  ∃ transport id path now actions, (∀ message, .call (.send message) ∉ actions) ∧
    channel = (ofTransport transport id path limits now).run
      ((ofTransport transport id path limits now).echoing actions) ∧
    told = (.opened, .opened) :: (ofTransport transport id path limits now).events
      ((ofTransport transport id path limits now).echoing actions)

variable {limits : Limits} {channel : Channel} {told : List (SessionState × Event)}

/-- One more action, and the answer to it. -/
theorem Echoing.act (h : channel.Echoing limits told) (action : Action)
    (hsole : ∀ message, action ≠ .call (.send message)) :
    Echoing limits (channel.run (action :: channel.answers action))
      (told ++ (channel.told action).toList) := by
  obtain ⟨transport, id, path, now, actions, hactions, rfl, rfl⟩ := h
  generalize hstart : ofTransport transport id path limits now = start
  have hone (channel : Channel) : channel.echoing [action] = action :: channel.answers action := by
    simp [echoing]
  refine ⟨transport, id, path, now, actions ++ [action], ?_, ?_, ?_⟩
  · intro message hmem
    rcases List.mem_append.mp hmem with hold | hnew
    · exact hactions message hold
    · exact hsole message (List.mem_singleton.mp hnew).symm
  · rw [hstart, echoing_append, run_append, hone]
  · rw [hstart, echoing_append, events_append, hone, events, answers, events_calls, List.append_nil,
      List.cons_append]

/-- An action that reports nothing is not answered. -/
theorem Echoing.quiet (h : channel.Echoing limits told) (action : Action)
    (hsole : ∀ message, action ≠ .call (.send message)) (hquiet : channel.told action = none) :
    Echoing limits (channel.after action) told := by
  have hact := h.act action hsole
  rw [answers, hquiet, Option.toList_none, List.append_nil] at hact
  exact hact

end Channel

/-! ### Connections -/

namespace Connection

/-- If the connection carries a session of an echo, then its channel runs with the answers of the
echo. If it carries no session, then nothing was told about it. -/
def Echoes (limits : Limits) (hall : Hall) (told : List (SessionState × Event)) :
    Connection → Prop
  | .live service channel => hall[service]? = some .echo → channel.Echoing limits told
  | _ => told = []

variable {site : Site Hall} {hall : Hall} {told : List (SessionState × Event)}
  {connection : Connection} {slot : Nat} {action : Server.Action}

theorem echoes_of_channel? {limits : Limits} (h : connection.channel? = none) (htold : told = []) :
    connection.Echoes limits hall told := by
  cases connection with
  | live service channel => cases h
  | _ => exact htold

/-- The answer to a request goes on. If a session of an echo begins, its channel has been announced
and started, and the echo has said nothing. -/
theorem Echoes.replied {transport : Transport} {reply : Reply} {unsent : Bytes} (now : Moment)
    (id : SessionId) {calls : List Call}
    (h : (replying transport reply unsent).Echoes site.config.limits hall told)
    (hcalls : calls = (((replying transport reply unsent).told now (.reply slot)).map
      fun told => hall.reactions told.1 told.2.2).getD []) :
    (replied site now.time id calls transport reply unsent).Echoes site.config.limits hall
      (told ++ (((replying transport reply unsent).told now (.reply slot)).map (·.2)).toList) := by
  obtain rfl : told = [] := h
  unfold Connection.replied
  by_cases hempty : unsent.isEmpty
  · rw [if_pos hempty]
    cases reply with
    | upgrade request service =>
      cases hflush : transport.flushFault with
      | none =>
        have htold : (replying transport (.upgrade request service) unsent).told now
            (.reply slot) = some (service, .opened, .opened) := by
          simp [Connection.told, hempty, hflush]
        simp only [Transport.flush, hflush]
        intro hecho
        have hnone : calls = [] := by
          rw [hcalls, htold]
          simp [Hall.reactions, hecho, Service.reactions]
        rw [htold, hnone]
        exact ⟨transport, id, request.path, now.time, [.announce, .start], by simp, rfl, rfl⟩
      | some fault =>
        simp only [Transport.flush, hflush]
        exact echoes_of_channel? rfl (by simp [Connection.told, hflush])
    | refusal refusal => exact echoes_of_channel? rfl rfl
    | page => exact echoes_of_channel? rfl rfl
  · have htold : (replying transport reply unsent).told now (.reply slot) = none := by
      cases reply <;> simp [Connection.told, hempty]
    rw [if_neg hempty, htold]
    split
    · exact echoes_of_channel? rfl rfl
    · split
      · refine echoes_of_channel? ?_ rfl
        cases reply <;> rfl
      · exact echoes_of_channel? rfl rfl

/-- An action of its own, with the answer of the service. -/
theorem Echoes.own (now : Moment) (id : SessionId) {calls : List Call}
    (h : connection.Echoes site.config.limits hall told) (hslot : action.slot? = some slot)
    (hsole : ∀ message, action ≠ .call slot (.send message))
    (hcalls : calls = ((connection.told now action).map
      fun told => hall.reactions told.1 told.2.2).getD []) :
    (connection.own site now id calls action).Echoes site.config.limits hall
      (told ++ ((connection.told now action).map (·.2)).toList) := by
  -- What is told and what changes, where nothing is told or nothing changes.
  have hquiet (hnone : connection.told now action = none)
      (hown : (connection.own site now id calls action).Echoes site.config.limits hall told) :
      (connection.own site now id calls action).Echoes site.config.limits hall
        (told ++ ((connection.told now action).map (·.2)).toList) := by
    rw [hnone]
    simpa using hown
  cases action with
  | peer slot' step =>
    refine hquiet rfl ?_
    cases connection with
    | live service channel => exact fun hecho => (h hecho).quiet (.peer step) (by simp) rfl
    | _ => exact h
  | call slot' request =>
    cases hslot
    refine hquiet rfl ?_
    cases connection with
    | live service channel =>
      refine fun hecho => (h hecho).quiet (.call request) ?_ rfl
      rintro message ⟨⟩
      exact hsole message rfl
    | _ => exact h
  | head slot' =>
    refine hquiet rfl ?_
    cases connection with
    | awaitingHead transport =>
      refine echoes_of_channel? ?_ h
      show ((Server.readHead site transport).getD _).channel? = none
      cases hread : Server.readHead site transport with
      | none => rfl
      | some next => exact Server.channel?_readHead site transport next hread
    | _ => exact h
  | reply slot' =>
    cases connection with
    | replying transport reply unsent => exact h.replied now id hcalls
    | _ => exact hquiet rfl h
  | read slot' wakeup =>
    cases connection with
    | live service channel =>
      intro hecho
      have hact := (h hecho).act (.read now wakeup) (by simp)
      have hanswers : channel.answers (.read now wakeup) = calls.map .call := by
        rw [hcalls, Channel.answers, Connection.told]
        cases channel.told (.read now wakeup) with
        | none => rfl
        | some told => simp [Hall.reactions, hecho]
      have htold : ((Connection.live service channel).told now (.read slot' wakeup)).map (·.2) =
          channel.told (.read now wakeup) := by
        rw [Connection.told, Option.map_map]
        cases channel.told (.read now wakeup) <;> rfl
      rw [htold, ← hanswers]
      exact hact
    | _ => exact hquiet rfl h
  | write slot' =>
    refine hquiet rfl ?_
    cases connection with
    | live service channel => exact fun hecho => (h hecho).quiet (.write now) (by simp) rfl
    | _ => exact h
  | _ => cases hslot

end Connection

/-! ### Servers -/

namespace Server

/-- The services are those of the hall, and the connection in a slot is as an echo leaves it, if
there is one. -/
structure EchoesIn (limits : Limits) (hall : Hall) (slot : Nat) (server : Server Hall) : Prop where
  services : server.services = hall
  connection : ∀ connection, server.connections[slot]? = some connection →
    connection.Echoes limits hall (server.callbacks slot)
  nobody : server.connections[slot]? = none → server.callbacks slot = []

namespace EchoesIn

variable {site : Site Hall} {hall : Hall} {slot : Nat} {server next : Server Hall}
  {limits : Limits}

/-- Nothing happens to the connection and nothing is told about it. -/
theorem congr (h : EchoesIn limits hall slot server) (hservices : next.services = server.services)
    (hconnections : next.connections[slot]? = server.connections[slot]?)
    (hcallbacks : next.callbacks slot = server.callbacks slot) :
    EchoesIn limits hall slot next where
  services := hservices.trans h.services
  connection := by
    rw [hconnections, hcallbacks]
    exact h.connection
  nobody := by
    rw [hconnections, hcallbacks]
    exact h.nobody

/-- A peer connects, perhaps in this slot. -/
theorem connect (h : EchoesIn limits hall slot server) (transport : Transport) :
    EchoesIn limits hall slot (server.connect transport) where
  services := h.services
  connection connection hconnection := by
    change (server.connections ++ [.awaitingHead transport])[slot]? = some connection at hconnection
    show connection.Echoes limits hall (server.callbacks slot)
    by_cases hold : slot < server.connections.length
    · rw [List.getElem?_append_left hold] at hconnection
      exact h.connection connection hconnection
    · rw [List.getElem?_append_right (Nat.le_of_not_lt hold)] at hconnection
      obtain rfl := List.mem_singleton.mp (List.mem_of_getElem? hconnection)
      exact h.nobody (List.getElem?_eq_none (Nat.le_of_not_lt hold))
  nobody hnone := by
    have hlength : (server.connections ++ [Connection.awaitingHead transport]).length ≤ slot :=
      List.getElem?_eq_none_iff.mp hnone
    rw [List.length_append] at hlength
    exact h.nobody (List.getElem?_eq_none (by omega))

/-- The channel in some slot does an action that reports nothing. -/
theorem modifyChannel (h : EchoesIn limits hall slot server) (slot' : Nat)
    (action : Channel.Action) (hsole : ∀ message, action ≠ .call (.send message))
    (hquiet : ∀ channel : Channel, channel.told action = none) :
    EchoesIn limits hall slot (server.modifyChannel slot' (·.after action)) where
  services := h.services
  connection := by
    intro connection hconnection
    rw [modifyChannel_connections, Option.map_eq_some_iff] at hconnection
    obtain ⟨before, hbefore, rfl⟩ := hconnection
    have hechoes := h.connection before hbefore
    show (before.run _).Echoes limits hall (server.callbacks slot)
    split
    · cases before with
      | live service channel =>
        exact fun hecho => (hechoes hecho).quiet action hsole (hquiet channel)
      | _ => exact hechoes
    · rwa [before.run_nil]
  nobody hnone := by
    rw [modifyChannel_connections, Option.map_eq_none_iff] at hnone
    exact h.nobody hnone

/-- A sweep sends pings and expires sessions, and neither of these reports anything. -/
theorem sweepOver (h : EchoesIn limits hall slot server) (config : Config)
    (ids : List SessionId) : EchoesIn limits hall slot (sweepOver config server ids).1 := by
  have hvisits (pass : Server Hall × SweepReport) (number : UInt64)
      (hpass : EchoesIn limits hall slot pass.1) :
      EchoesIn limits hall slot
        (ids.foldl (visit config (Bytes.ofNatBE 8 number.toNat)) pass).1 := by
    induction ids generalizing pass with
    | nil => exact hpass
    | cons id ids ih =>
      refine ih _ ?_
      rcases visit_outcome config number pass.1 pass.2 id with
        hnone | ⟨slot', -, hping | hexpire⟩
      · rw [hnone]
        exact hpass
      · rw [hping]
        exact hpass.modifyChannel slot' (.keepalive number) nofun fun _ => rfl
      · rw [hexpire]
        have hleft : EchoesIn limits hall slot (pass.1.deregister id) := hpass.congr rfl rfl rfl
        exact hleft.modifyChannel slot' .expire nofun fun _ => rfl
  exact hvisits _ _ (h.congr rfl rfl rfl)

/-- An action on the server that is about some slot. -/
theorem act_slot {history : History Hall} {action : Action} {slot' : Nat}
    (h : EchoesIn site.config.limits hall slot history.server)
    (hkeeps : site.application.Keeps hall hall.reactions) (hslot : action.slot? = some slot')
    (hsole : ∀ message, action ≠ .call slot (.send message)) :
    EchoesIn site.config.limits hall slot (history.act site action).server := by
  cases hconnection : history.server.connections[slot']? with
  | none => rwa [history.act_of_nobody site hslot hconnection]
  | some connection =>
    obtain ⟨calls, hacts⟩ := history.act_acts site hslot hconnection
    obtain ⟨hservices, hothers, hcalls⟩ := hacts.kept hall.reactions (by rwa [h.services])
    by_cases hsame : slot = slot'
    · subst hsame
      refine ⟨hservices.trans h.services, fun next hnext => ?_, fun hnone => ?_⟩
      · rw [hacts.own] at hnext
        obtain rfl := Option.some.inj hnext
        rw [hacts.told]
        exact (h.connection connection hconnection).own _ _ hslot hsole hcalls
      · rw [hacts.own] at hnone
        cases hnone
    · refine h.congr hservices ?_ (hacts.untold slot hsame)
      rw [hacts.others slot hsame, hothers slot hsame]
      simp

/-- Whatever is done on the server, the session of an echo goes on as one. -/
theorem act {history : History Hall} (action : Action)
    (h : EchoesIn site.config.limits hall slot history.server)
    (hkeeps : site.application.Keeps hall hall.reactions)
    (hsole : ∀ message, action ≠ .call slot (.send message)) :
    EchoesIn site.config.limits hall slot (history.act site action).server := by
  cases haction : action.slot? with
  | some slot' => exact h.act_slot hkeeps haction hsole
  | none =>
    cases action with
    | connect transport => exact h.connect transport
    | sweep ids => exact h.sweepOver site.config ids
    | tick ids =>
      rcases history.tick_cases site ids with ⟨hidle, -⟩ | ⟨sweeper, -, -, hdue⟩
      · rwa [hidle]
      · rw [hdue]
        exact (h.sweepOver site.config ids).congr rfl rfl rfl
    | start =>
      show EchoesIn _ hall slot (history.server.start site)
      unfold start
      split
      · exact h
      · exact h.congr rfl rfl rfl
    | stop => exact h.congr rfl rfl rfl
    | wait milliseconds => exact h.congr rfl rfl rfl
    | _ => cases haction

theorem run {history : History Hall} (actions : List Action)
    (h : EchoesIn site.config.limits hall slot history.server)
    (hkeeps : site.application.Keeps hall hall.reactions)
    (hsole : ∀ message, .call slot (.send message) ∉ actions) :
    EchoesIn site.config.limits hall slot (history.run site actions).server := by
  induction actions generalizing history with
  | nil => exact h
  | cons action actions ih =>
    have hact := h.act action hkeeps fun message h => hsole message (h ▸ List.mem_cons_self)
    exact ih hact fun message h => hsole message (List.mem_cons_of_mem action h)

end EchoesIn

/-- Every session of an echo in a hall of recorders, echoes and closers has a channel that runs
with the answers of the echo, and this is what the echo was told about it. Any actions may have
been done on the server, but for sending messages on this session. -/
theorem exists_echoing (site : Site Hall) (hall : Hall) (actions : List Action) (slot : Nat)
    (happlication : site.application = Hall.application)
    (hquiet : ∀ room, Service.chat room ∉ hall)
    (hsole : ∀ message, .call slot (.send message) ∉ actions) {service : Nat} {channel : Channel}
    (hecho : hall[service]? = some .echo)
    (hlive : ((fresh hall).run site actions).server.connections[slot]? =
      some (.live service channel)) :
    channel.Echoing site.config.limits
      (((fresh hall).run site actions).server.callbacks slot) := by
  have hkeeps : site.application.Keeps hall hall.reactions := by
    rw [happlication]
    exact Hall.keeps hquiet
  have hfresh : EchoesIn site.config.limits hall slot (fresh hall).server :=
    ⟨rfl, fun connection h => (nomatch h), fun _ => rfl⟩
  exact (hfresh.run actions hkeeps hsole).connection _ hlive hecho

end Server

end SocketGate
