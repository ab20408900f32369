import SocketGate.Proofs.Channel.Stepless
import SocketGate.Proofs.Server.Keepalive

/-!
# `SocketGate.Proofs.Server.Mirror`: a connection on two servers

A connection can run on a server with many others, or on one that it has to itself. In
`Server.Mirrors` the two servers show the same connection: they agree in all that it can see of
them, which is the time, the count of the sweeps and the periodic sweep, and in what has been
reported about it. If the application keeps to itself, they agree after an action of this
connection that is done on both, and after an action of another one that is done on the first
alone. A sweep is made on both, over all sessions and over this one.

* `Connection.own_mirror`: an action of its own does the same to a connection on both.
* `Server.Mirrors.act`: and so do the servers.
* `Server.Matched.visits`: a sweep finds the same about a session on both.
-/

set_option autoImplicit false

namespace SocketGate

/-! ### The connection -/

namespace Server

/-- The same action, done by the connection in another slot. -/
def Action.inSlot (slot : Nat) : Action → Action
  | .peer _ step => .peer slot step
  | .call _ request => .call slot request
  | .head _ => .head slot
  | .reply _ => .reply slot
  | .read _ wakeup => .read slot wakeup
  | .write _ => .write slot
  | action => action

theorem Action.slot?_inSlot {action : Action} {slot : Nat} (h : action.slot? = some slot)
    (slot' : Nat) : (action.inSlot slot').slot? = some slot' := by
  cases action <;> first | rfl | cases h

end Server

/-- The site, but the sessions that begin get this id, if there is one. -/
def Site.giving {σ : Type} (site : Site σ) (own? : Option SessionId) : Site σ :=
  { site with newId := fun number => own?.getD (site.newId number) }

/-- What a report says about one session, if there is one. -/
def SweepReport.about (own? : Option SessionId) (report : SweepReport) : SweepReport where
  pinged := report.pinged.filter (own? = some ·)
  expired := report.expired.filter (own? = some ·)

namespace Connection

/-- The connection as if its timers had been set before any step was made. -/
def stepless : Connection → Connection
  | live service channel => live service channel.stepless
  | connection => connection

theorem channel?_stepless (connection : Connection) :
    connection.stepless.channel? = connection.channel?.map Channel.stepless := by
  cases connection <;> rfl

@[simp]
theorem transport_stepless (connection : Connection) :
    connection.stepless.transport = connection.transport := by
  cases connection <;> rfl

@[simp]
theorem result?_stepless (connection : Connection) :
    connection.stepless.result? = connection.result? := by
  cases connection <;> rfl

/-- Without a channel there is no timer. -/
theorem stepless_of_channel? {connection : Connection} (h : connection.channel? = none) :
    connection.stepless = connection := by
  cases connection with
  | live service channel => cases h
  | _ => rfl

theorem run_stepless (connection : Connection) (actions : List Channel.Action) :
    connection.stepless.run (actions.map Channel.Action.stepless) =
      (connection.run actions).stepless := by
  cases connection with
  | live service channel => exact congrArg (live service) (channel.run_stepless actions)
  | _ => rfl

theorem map_call_stepless (requests : List Call) :
    (requests.map Channel.Action.call).map Channel.Action.stepless = requests.map .call := by
  rw [List.map_map]
  rfl

variable {σ : Type}

theorem begun_stepless (site : Site σ) (time : Nat) (id : SessionId) (transport : Transport)
    (request : Http.Request) (requests : List Call) :
    (begun site time id transport request requests).stepless =
      begun site time id transport request requests := by
  unfold begun
  rw [← Channel.run_stepless, List.map_cons, List.map_append, map_call_stepless]
  rfl

theorem replied_stepless (site : Site σ) (time : Nat) (id : SessionId) (requests : List Call)
    (transport : Transport) (reply : Reply) (unsent : Bytes) :
    (replied site time id requests transport reply unsent).stepless =
      replied site time id requests transport reply unsent := by
  have hfailed (reply : Reply) (fault : IoFault) :
      (failReply transport reply fault).stepless = failReply transport reply fault := by
    cases reply <;> rfl
  unfold replied
  split
  · cases reply with
    | upgrade request service =>
      cases transport.flush with
      | error fault => exact hfailed _ fault
      | ok => exact congrArg (live service) (begun_stepless ..)
    | refusal | page => rfl
  · split
    · rfl
    · cases transport.write unsent with
      | error fault => exact hfailed _ fault
      | ok => rfl

theorem own_stepless (site : Site σ) (now : Moment) (id : SessionId) (requests : List Call)
    (action : Server.Action) (connection : Connection) :
    connection.stepless.own site now.stepless id requests action =
      (connection.own site now id requests action).stepless := by
  cases action with
  | peer => cases connection <;> rfl
  | call slot request => exact connection.run_stepless [.call request]
  | head slot =>
    cases connection with
    | awaitingHead transport =>
      show (Server.readHead site transport).getD _ =
        ((Server.readHead site transport).getD _).stepless
      cases hread : Server.readHead site transport with
      | none => rfl
      | some next =>
        exact (stepless_of_channel? (Server.channel?_readHead site transport next hread)).symm
    | _ => rfl
  | reply slot =>
    cases connection with
    | replying transport reply unsent => exact (replied_stepless ..).symm
    | _ => rfl
  | read slot wakeup =>
    cases connection with
    | live service channel =>
      have hrun := channel.run_stepless (.read now wakeup :: requests.map .call)
      rw [List.map_cons, map_call_stepless] at hrun
      exact congrArg (live service) hrun
    | _ => rfl
  | write slot =>
    cases connection with
    | live service channel => exact congrArg (live service) (channel.after_stepless (.write now))
    | _ => rfl
  | _ => cases connection <;> rfl

theorem told_stepless (now : Moment) (action : Server.Action) (connection : Connection) :
    connection.stepless.told now.stepless action = connection.told now action := by
  cases action with
  | read slot wakeup =>
    cases connection with
    | live service channel =>
      exact congrArg (Option.map _) (channel.told_stepless (.read now wakeup))
    | _ => rfl
  | reply slot =>
    cases connection with
    | replying transport reply unsent => cases reply <;> rfl
    | _ => rfl
  | _ => cases connection <;> rfl

/-- What an action does depends neither on the slot nor on what ids other sessions get. -/
theorem own_inSlot (site : Site σ) (own? : Option SessionId) (now : Moment) (id : SessionId)
    (requests : List Call) (action : Server.Action) (slot : Nat) (connection : Connection) :
    connection.own (site.giving own?) now id requests (action.inSlot slot) =
      connection.own site now id requests action := by
  cases action <;> cases connection <;> rfl

theorem told_inSlot (now : Moment) (action : Server.Action) (slot : Nat)
    (connection : Connection) :
    connection.told now (action.inSlot slot) = connection.told now action := by
  cases action with
  | reply =>
    cases connection with
    | replying transport reply unsent => cases reply <;> rfl
    | _ => rfl
  | _ => cases connection <;> rfl

/-- Whoever has an id after an action either had it before, or got it. -/
theorem own_congr_id (site : Site σ) (now : Moment) {id id' : SessionId} (requests : List Call)
    (action : Server.Action) (connection : Connection)
    (h : ∀ channel, (connection.own site now id requests action).channel? = some channel →
      channel.session.id = id → id' = id) :
    connection.own site now id' requests action = connection.own site now id requests action := by
  cases action with
  | reply slot =>
    cases connection with
    | replying transport reply unsent =>
      cases reply with
      | upgrade request service =>
        by_cases hempty : unsent.isEmpty
        · cases hflush : transport.flush with
          | ok =>
            have hbegun : (replying transport (.upgrade request service) unsent).own site now id
                requests (.reply slot) =
                live service (begun site now.time id transport request requests) := by
              simp [own, replied, hempty, hflush]
            have hid : (begun site now.time id transport request requests).session.id = id :=
              Channel.id_run _ _ fun header hpending => by cases hpending
            rw [h _ (by rw [hbegun]; rfl) hid]
          | error fault => simp [own, replied, hempty, hflush]
        · simp [own, replied, hempty]
      | refusal | page => rfl
    | _ => rfl
  | _ => cases connection <;> rfl

/-- The same connection on two servers, with the same time on the clock. An action of its own
does the same to it on both, if a session that begins gets the same id. -/
theorem own_mirror (site : Site σ) (own? : Option SessionId) {now now' : Moment}
    {id id' : SessionId} (requests : List Call) (action : Server.Action) (slot : Nat)
    {connection connection' : Connection} (hsame : connection'.stepless = connection.stepless)
    (htime : now'.time = now.time)
    (hid : ∀ channel, (connection.own site now id requests action).channel? = some channel →
      channel.session.id = id → id' = id) :
    (connection'.own (site.giving own?) now' id' requests (action.inSlot slot)).stepless =
      (connection.own site now id requests action).stepless := by
  rw [own_inSlot, ← own_stepless, hsame, Moment.stepless_congr htime, own_stepless,
    own_congr_id site now requests action connection hid]

theorem told_mirror {now now' : Moment} (action : Server.Action) (slot : Nat)
    {connection connection' : Connection} (hsame : connection'.stepless = connection.stepless)
    (htime : now'.time = now.time) :
    connection'.told now' (action.inSlot slot) = connection.told now action := by
  rw [told_inSlot, ← told_stepless, hsame, Moment.stepless_congr htime, told_stepless]

end Connection

namespace Server

variable {σ : Type} {site : Site σ} {services : σ} {own? : Option SessionId}
  {slot : Nat}

/-! ### Two servers -/

/-- The first slot of `alone` shows the connection that is in a slot of `server`. The application
is in this state on both. -/
structure Mirrors (services : σ) (slot : Nat) (server alone : Server σ) : Prop where
  connection : alone.connections[0]?.map Connection.stepless =
    server.connections[slot]?.map Connection.stepless
  callbacks : alone.callbacks 0 = server.callbacks slot
  services : server.services = services ∧ alone.services = services
  time : alone.now.time = server.now.time
  sweeps : alone.sweeps = server.sweeps
  deadline : alone.sweeper.map (·.deadline) = server.sweeper.map (·.deadline)

namespace Mirrors

variable {server next alone : Server σ}

theorem channel? (h : Mirrors services slot server alone) :
    (alone.channel? 0).map Channel.stepless = (server.channel? slot).map Channel.stepless := by
  have hview (server : Server σ) (slot : Nat) : (server.channel? slot).map Channel.stepless =
      (server.connections[slot]?.map Connection.stepless).bind Connection.channel? := by
    unfold Server.channel?
    cases server.connections[slot]? with
    | none => rfl
    | some connection => exact connection.channel?_stepless.symm
  rw [hview, hview, h.connection]

/-- The session is the same. -/
theorem session (h : Mirrors services slot server alone) :
    (alone.channel? 0).map (·.session) = (server.channel? slot).map (·.session) := by
  have hview (channel? : Option Channel) : channel?.map (·.session) =
      (channel?.map Channel.stepless).map (·.session) := by
    cases channel? <;> rfl
  rw [hview, h.channel?, ← hview]

theorem idAt? (h : Mirrors services slot server alone) : alone.idAt? 0 = server.idAt? slot := by
  have hview (server : Server σ) (slot : Nat) :
      server.idAt? slot = ((server.channel? slot).map (·.session)).map (·.id) := by
    rw [Option.map_map]
    rfl
  rw [hview, hview, h.session]

theorem closed (h : Mirrors services slot server alone) :
    alone.Closed 0 ↔ server.Closed slot := by
  unfold Closed
  rw [h.callbacks]

/-- One of them changes, but not as far as the connection can see it. -/
theorem congr (h : Mirrors services slot server alone)
    (hconnection : next.connections[slot]? = server.connections[slot]?)
    (hcallbacks : next.callbacks slot = server.callbacks slot)
    (hservices : next.services = server.services) (hsame : SameTime server next) :
    Mirrors services slot next alone where
  connection := by rw [hconnection, h.connection]
  callbacks := h.callbacks.trans hcallbacks.symm
  services := ⟨hservices.trans h.services.1, h.services.2⟩
  time := h.time.trans hsame.time.symm
  sweeps := h.sweeps.trans hsame.sweeps.symm
  deadline := by rw [hsame.sweeper, h.deadline]

/-- The channel does an action on both. -/
theorem modifyChannel (h : Mirrors services slot server alone) {action : Channel.Action}
    (haction : action.stepless = action) :
    Mirrors services slot (server.modifyChannel slot (·.after action))
      (alone.modifyChannel 0 (·.after action)) where
  connection := by
    have hview (connection? : Option Connection) :
        (connection?.map (·.run [action])).map Connection.stepless =
          (connection?.map Connection.stepless).map (·.run [action]) := by
      rw [Option.map_map, Option.map_map]
      congr 1
      funext connection
      have hrun := connection.run_stepless [action]
      rw [List.map_singleton, haction] at hrun
      exact hrun.symm
    rw [modifyChannel_connections, modifyChannel_connections, if_pos rfl, if_pos rfl, hview, hview,
      h.connection]
  callbacks := h.callbacks
  services := h.services
  time := h.time
  sweeps := h.sweeps
  deadline := h.deadline

end Mirrors

/-! ### Actions of slots -/

namespace Mirrors

variable {history alone : History σ} {reactions : Nat → Event → List Call}

/-- The connection does an action of its own on both servers. -/
theorem act_own (h : Mirrors services slot history.server alone.server) {action : Action}
    (hslot : action.slot? = some slot)
    (hkeeps : site.application.Keeps services reactions)
    (hid : ∀ id, (history.act site action).server.idAt? slot = some id → own? = some id) :
    Mirrors services slot (history.act site action).server
      (alone.act (site.giving own?) (action.inSlot 0)).server := by
  have hslot' := Action.slot?_inSlot hslot 0
  cases hconnection : history.server.connections[slot]? with
  | none =>
    have hnobody : alone.server.connections[0]? = none := by
      have hview := h.connection
      rw [hconnection] at hview
      exact Option.map_eq_none_iff.mp hview
    rwa [history.act_of_nobody site hslot hconnection, alone.act_of_nobody _ hslot' hnobody]
  | some connection =>
    have hview := h.connection
    rw [hconnection] at hview
    obtain ⟨connection', hconnection', hsame⟩ := Option.map_eq_some_iff.mp hview
    obtain ⟨calls, hacts⟩ := history.act_acts site hslot hconnection
    obtain ⟨calls', hacts'⟩ := alone.act_acts (site.giving own?) hslot' hconnection'
    obtain ⟨hservices, -, hcalls⟩ := hacts.kept reactions (by rwa [h.services.1])
    obtain ⟨hservices', -, hcalls'⟩ := hacts'.kept reactions (by rwa [h.services.2])
    have htold := Connection.told_mirror action 0 hsame h.time
    -- The application is told the same, so it makes the same calls.
    rw [htold, ← hcalls] at hcalls'
    refine {
      connection := ?_
      callbacks := by rw [hacts'.told, hacts.told, htold, h.callbacks]
      services := ⟨hservices.trans h.services.1, hservices'.trans h.services.2⟩
      time := by rw [hacts'.sameTime.time, hacts.sameTime.time, h.time]
      sweeps := by rw [hacts'.sameTime.sweeps, hacts.sameTime.sweeps, h.sweeps]
      deadline := by rw [hacts'.sameTime.sweeper, hacts.sameTime.sweeper, h.deadline] }
    rw [hacts'.own, hacts.own, hcalls']
    refine congrArg some (Connection.own_mirror site own? _ action 0 hsame h.time ?_)
    -- The session that is there in the end has the id that is given on the other server.
    intro channel hchannel hbegun
    have hown := hid channel.session.id (by
      rw [idAt?_of_connection _ slot _ hacts.own, hchannel]
      rfl)
    show own?.getD _ = _
    rw [hown, ← hbegun]
    rfl

/-- Another connection does an action. -/
theorem act_other (h : Mirrors services slot history.server alone.server) {action : Action}
    {slot' : Nat} (hslot : action.slot? = some slot') (hne : slot' ≠ slot)
    (hkeeps : site.application.Keeps services reactions) :
    Mirrors services slot (history.act site action).server alone.server := by
  cases hconnection : history.server.connections[slot']? with
  | none => rwa [history.act_of_nobody site hslot hconnection]
  | some connection =>
    obtain ⟨calls, hacts⟩ := history.act_acts site hslot hconnection
    obtain ⟨hservices, hothers, -⟩ := hacts.kept reactions (by rwa [h.services.1])
    refine h.congr ?_ (hacts.untold slot hne.symm) hservices hacts.sameTime
    rw [hacts.others slot hne.symm, hothers slot hne.symm]
    simp

end Mirrors

/-! ### Peers that connect -/

namespace Mirrors

variable {server alone : Server σ}

/-- Before its peer connects to the first server, nobody is on the second one. -/
theorem eq_nil (h : Mirrors services slot server alone)
    (hlength : server.connections.length = slot) : alone.connections = [] := by
  have hview := h.connection
  rw [← hlength, List.getElem?_length] at hview
  simpa using hview

/-- The peer of the connection connects to both servers. -/
theorem connect (h : Mirrors services slot server alone) (transport : Transport)
    (hlength : server.connections.length = slot) :
    Mirrors services slot (server.connect transport) (alone.connect transport) where
  connection := by
    show (alone.connections ++ [_])[0]?.map _ = (server.connections ++ [_])[slot]?.map _
    rw [h.eq_nil hlength, ← hlength, List.getElem?_concat_length]
    rfl
  callbacks := h.callbacks
  services := h.services
  time := h.time
  sweeps := h.sweeps
  deadline := h.deadline

/-- The peer of another connection connects. -/
theorem connect_other (h : Mirrors services slot server alone) (transport : Transport)
    (hlength : server.connections.length ≠ slot) :
    Mirrors services slot (server.connect transport) alone := by
  refine h.congr ?_ rfl rfl ⟨rfl, rfl, rfl⟩
  show (server.connections ++ [_])[slot]? = _
  rcases Nat.lt_or_gt_of_ne hlength with hlater | hearlier
  · rw [List.getElem?_eq_none (by simp; omega), List.getElem?_eq_none (by omega)]
  · exact List.getElem?_append_left hearlier

end Mirrors

/-! ### Sweeps -/

/-- The session with this id is registered in its slot on both servers, or on neither. No
other session is registered in the slot. -/
structure Enrolled (own? : Option SessionId) (slot : Nat) (server alone : Server σ) : Prop where
  own : ∀ id, own? = some id →
    server.slotOf? id = some slot ∧ alone.slotOf? id = some 0 ∨
      server.slotOf? id = none ∧ alone.slotOf? id = none
  others : ∀ id, server.slotOf? id = some slot → own? = some id

/-- Two sweeps under way have done the same to a session. -/
structure Matched (services : σ) (own? : Option SessionId) (slot : Nat)
    (pass alone : Server σ × SweepReport) : Prop where
  mirrors : Mirrors services slot pass.1 alone.1
  enrolled : Enrolled own? slot pass.1 alone.1
  report : alone.2 = pass.2.about own?

namespace Matched

variable {pass alone : Server σ × SweepReport} {id : SessionId}

/-- The visit to another session is left out. -/
theorem visit_other (h : Matched services own? slot pass alone) (config : Config)
    (number : UInt64) (hid : own? ≠ some id) :
    Matched services own? slot (visit config (Bytes.ofNatBE 8 number.toNat) pass id) alone := by
  obtain ⟨server, report⟩ := pass
  have helsewhere (server' : Server σ) (action : Channel.Action) {slot' : Nat}
      (hslot : server.slotOf? id = some slot') :
      (server'.modifyChannel slot' (·.after action)).connections[slot]? =
        server'.connections[slot]? := by
    have hne : slot' ≠ slot := by
      rintro rfl
      exact hid (h.enrolled.others id hslot)
    rw [modifyChannel_connections, if_neg hne]
    simp
  rcases visit_outcome config number server report id with
    hnone | ⟨slot', hslot, hping | hexpire⟩
  · rwa [hnone]
  · rw [hping]
    refine ⟨h.mirrors.congr (helsewhere server _ hslot) rfl rfl ⟨rfl, rfl, rfl⟩,
      ⟨h.enrolled.own, h.enrolled.others⟩, ?_⟩
    rw [h.report]
    simp [SweepReport.about, hid]
  · rw [hexpire]
    refine ⟨h.mirrors.congr (helsewhere (server.deregister id) _ hslot) rfl rfl ⟨rfl, rfl, rfl⟩,
      ⟨fun id' hown => ?_, fun id' hslot' => ?_⟩, ?_⟩
    · have hne : id' ≠ id := by
        rintro rfl
        exact hid hown
      have hkept := server.slotOf?_deregister id' id
      rw [if_neg hne] at hkept
      have hboth := h.enrolled.own id' hown
      rwa [← hkept] at hboth
    · exact h.enrolled.others id' (slotOf?_of_deregister hslot')
    · rw [h.report]
      simp [SweepReport.about, hid]

/-- The session is visited on both servers. -/
theorem visit_own (h : Matched services own? slot pass alone) (config : Config)
    (number : UInt64) (hid : own? = some id) :
    Matched services own? slot (visit config (Bytes.ofNatBE 8 number.toNat) pass id)
      (visit config (Bytes.ofNatBE 8 number.toNat) alone id) := by
  obtain ⟨server, report⟩ := pass
  obtain ⟨server', report'⟩ := alone
  obtain rfl : report' = report.about own? := h.report
  rcases h.enrolled.own id hid with ⟨hslot, hslot'⟩ | ⟨hnone, hnone'⟩
  · have hview := h.mirrors.session
    cases hchannel : server.channel? slot with
    | none =>
      rw [hchannel, Option.map_none, Option.map_eq_none_iff] at hview
      rwa [visit_of_nobody config _ server report id (by simp [hslot, hchannel]),
        visit_of_nobody config _ server' _ id (by simp [hslot', hview])]
    | some channel =>
      rw [hchannel] at hview
      obtain ⟨channel', hchannel', hsession⟩ := Option.map_eq_some_iff.mp hview
      have htime : server'.now.time = server.now.time := h.mirrors.time
      rw [visit_eq config number server report id hslot hchannel,
        visit_eq config number server' _ id hslot' hchannel', hsession, htime]
      cases verdict config server.now.time channel.session with
      | passed => exact h
      | pinged =>
        refine ⟨h.mirrors.modifyChannel rfl, ⟨h.enrolled.own, h.enrolled.others⟩, ?_⟩
        simp [SweepReport.about, hid]
      | expired =>
        have hmirrors : Mirrors services slot (server.deregister id) (server'.deregister id) :=
          ⟨h.mirrors.connection, h.mirrors.callbacks, h.mirrors.services, h.mirrors.time,
            h.mirrors.sweeps, h.mirrors.deadline⟩
        refine ⟨hmirrors.modifyChannel rfl, ⟨fun id' hown => .inr ?_, fun id' hslot' => ?_⟩, ?_⟩
        · obtain rfl := Option.some.inj (hid.symm.trans hown)
          exact ⟨(server.slotOf?_deregister id id).trans (if_pos rfl),
            (server'.slotOf?_deregister id id).trans (if_pos rfl)⟩
        · exact h.enrolled.others id' (slotOf?_of_deregister hslot')
        · simp [SweepReport.about, hid]
  · rwa [visit_of_nobody config _ server report id (by simp [hnone]),
      visit_of_nobody config _ server' _ id (by simp [hnone'])]

/-- Visits to many sessions, and the same visits to one of them. -/
theorem visits (h : Matched services own? slot pass alone) (config : Config) (number : UInt64)
    (ids : List SessionId) :
    Matched services own? slot (ids.foldl (visit config (Bytes.ofNatBE 8 number.toNat)) pass)
      ((ids.filter (own? = some ·)).foldl (visit config (Bytes.ofNatBE 8 number.toNat))
        alone) := by
  induction ids generalizing pass alone with
  | nil => exact h
  | cons id ids ih =>
    by_cases hid : own? = some id
    · rw [List.filter_cons_of_pos (by simpa using hid)]
      exact ih (h.visit_own config number hid)
    · rw [List.filter_cons_of_neg (by simpa using hid)]
      exact ih (h.visit_other config number hid)

end Matched

/-- A sweep over many sessions, and one over one of them. -/
theorem Mirrors.sweepOver {server alone : Server σ} (h : Mirrors services slot server alone)
    (henrolled : Enrolled own? slot server alone) (config : Config) (ids : List SessionId) :
    Matched services own? slot (server.sweepOver config ids)
      (alone.sweepOver config (ids.filter (own? = some ·))) := by
  have hstart : Matched services own? slot ({ server with sweeps := server.sweeps + 1 }, {})
      ({ alone with sweeps := server.sweeps + 1 }, {}) :=
    ⟨⟨h.connection, h.callbacks, h.services, h.time, rfl, h.deadline⟩,
      ⟨henrolled.own, henrolled.others⟩, rfl⟩
  unfold Server.sweepOver
  rw [h.sweeps]
  exact hstart.visits config _ ids

/-- A periodic sweep that is made at the same time on both servers is due again at the same
time. -/
theorem deadline_advance (config : Config) {now now' : Moment} {sweeper sweeper' : Sweeper}
    (hdeadline : sweeper'.deadline = sweeper.deadline) (htime : now'.time = now.time) :
    (sweeper'.advance config now').deadline = (sweeper.advance config now).deadline := by
  unfold Sweeper.advance
  rw [hdeadline, htime]
  split
  · show now'.time + _ = now.time + _
    rw [htime]
  · rfl

/-- The same action, but a sweep is made over one session only, if there is one. -/
def Action.about (own? : Option SessionId) : Action → Action
  | .sweep ids => .sweep (ids.filter (own? = some ·))
  | .tick ids => .tick (ids.filter (own? = some ·))
  | action => action

/-- The first slot of `alone` shows a connection, and the reports are what all reports say about
its session. -/
structure Shows (services : σ) (own? : Option SessionId) (slot : Nat)
    (history alone : History σ) : Prop where
  mirrors : Mirrors services slot history.server alone.server
  reports : alone.reports = history.reports.map (·.about own?)

namespace Shows

variable {history alone : History σ}

/-- Both servers make a sweep. -/
theorem sweeps (h : Shows services own? slot history alone)
    {swept sweptAlone : Server σ × SweepReport} {next nextAlone : Server σ}
    (hmatched : Matched services own? slot swept sweptAlone)
    (hnext : Mirrors services slot next nextAlone) :
    Shows services own? slot ⟨next, history.reports ++ [swept.2]⟩
      ⟨nextAlone, alone.reports ++ [sweptAlone.2]⟩ where
  mirrors := hnext
  reports := by
    rw [h.reports, hmatched.report, List.map_append]
    rfl

/-- A tick is due on both servers or on neither. -/
theorem tick (h : Shows services own? slot history alone)
    (henrolled : Enrolled own? slot history.server alone.server) (ids : List SessionId) :
    Shows services own? slot (history.act site (.tick ids))
      (alone.act (site.giving own?) (.tick (ids.filter (own? = some ·)))) := by
  have hmatched := h.mirrors.sweepOver henrolled site.config ids
  have htime := h.mirrors.time
  have hdeadline := h.mirrors.deadline
  rcases history.tick_cases site ids with ⟨hearly, hwait⟩ | ⟨sweeper, hsweeper, hdue, hact⟩
  · rcases alone.tick_cases (site.giving own?) (ids.filter (own? = some ·)) with
      ⟨hearly', -⟩ | ⟨sweeper', hsweeper', hdue', -⟩
    · rwa [hearly, hearly']
    · -- The deadline is the same on both servers, and so is the time.
      rw [hsweeper'] at hdeadline
      obtain ⟨sweeper, hsweeper, hsame⟩ := Option.map_eq_some_iff.mp hdeadline.symm
      have hlater := hwait sweeper hsweeper
      dsimp only at hsame
      omega
  · rw [hsweeper] at hdeadline
    obtain ⟨sweeper', hsweeper', hsame⟩ := Option.map_eq_some_iff.mp hdeadline
    rcases alone.tick_cases (site.giving own?) (ids.filter (own? = some ·)) with
      ⟨-, hwait'⟩ | ⟨other, hother, -, hact'⟩
    · have hlater := hwait' sweeper' hsweeper'
      dsimp only at hsame
      omega
    · obtain rfl := Option.some.inj (hsweeper'.symm.trans hother)
      rw [hact, hact']
      exact h.sweeps hmatched {
        connection := hmatched.mirrors.connection
        callbacks := hmatched.mirrors.callbacks
        services := hmatched.mirrors.services
        time := hmatched.mirrors.time
        sweeps := hmatched.mirrors.sweeps
        deadline := congrArg some (deadline_advance site.config hsame hmatched.mirrors.time) }

/-- An action of no connection is done on both servers. -/
theorem act_shared (h : Shows services own? slot history alone)
    (henrolled : Enrolled own? slot history.server alone.server) {action : Action}
    (hslot : action.slot? = none) (hpeer : ∀ transport, action ≠ .connect transport) :
    Shows services own? slot (history.act site action)
      (alone.act (site.giving own?) (action.about own?)) := by
  have hmirrors := h.mirrors
  cases action with
  | connect transport => exact absurd rfl (hpeer transport)
  | sweep ids =>
    have hmatched := hmirrors.sweepOver henrolled site.config ids
    exact h.sweeps hmatched hmatched.mirrors
  | tick ids => exact h.tick henrolled ids
  | start =>
    refine ⟨?_, h.reports⟩
    show Mirrors services slot (history.server.start site)
      (alone.server.start (site.giving own?))
    have hdeadline := hmirrors.deadline
    unfold start
    cases hsweeper : history.server.sweeper with
    | none =>
      rw [hsweeper, Option.map_none, Option.map_eq_none_iff] at hdeadline
      rw [hdeadline]
      refine ⟨hmirrors.connection, hmirrors.callbacks, hmirrors.services, hmirrors.time,
        hmirrors.sweeps, congrArg some ?_⟩
      show alone.server.now.time + _ = history.server.now.time + _
      rw [hmirrors.time]
      rfl
    | some sweeper =>
      rw [hsweeper] at hdeadline
      obtain ⟨sweeper', hsweeper', -⟩ := Option.map_eq_some_iff.mp hdeadline
      rwa [hsweeper']
  | stop =>
    exact ⟨⟨hmirrors.connection, hmirrors.callbacks, hmirrors.services, hmirrors.time,
      hmirrors.sweeps, rfl⟩, h.reports⟩
  | wait milliseconds =>
    exact ⟨⟨hmirrors.connection, hmirrors.callbacks, hmirrors.services,
      congrArg (· + milliseconds) hmirrors.time, hmirrors.sweeps, hmirrors.deadline⟩, h.reports⟩
  | _ => cases hslot

end Shows

end Server

end SocketGate
