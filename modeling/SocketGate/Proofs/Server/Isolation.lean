import SocketGate.Proofs.Server.Mirror
import SocketGate.Service.Builtin

/-!
# `SocketGate.Proofs.Server.Isolation`: sessions do not interfere

What is left of a run for one connection is its own actions, with its first slot for itself, and
the actions that are about no connection: the passing of time, the sweeps, and turning the
periodic sweep on and off. If the application keeps to itself and no id is given twice, the
connection cannot tell that the others are gone.

* `Server.narrow`: what is left of a run.
* `Server.Alongside.run`: the whole run and what is left of it go side by side.
* `Server.isolated_of_actions`: a connection to a hall without a chat is told, sends and is
  found by the sweeps the same in both.
-/

set_option autoImplicit false

namespace SocketGate

namespace Server

variable {σ : Type} {site : Site σ} {services : σ} {own? : Option SessionId} {slot : Nat}

/-! ### What is left of a run -/

/-- How many peers connect in an action. -/
def Action.comers : Action → Nat
  | .connect _ => 1
  | _ => 0

/-- What is left of an action for the connection in a slot, whose session has this id, if one
begins, when so many peers have connected before. -/
def Action.narrow (slot : Nat) (own? : Option SessionId) (count : Nat) : Action → List Action
  | .connect transport => if count = slot then [.connect transport] else []
  | action =>
    match action.slot? with
    | some slot' => if slot' = slot then [action.inSlot 0] else []
    | none => [action.about own?]

/-- What is left of some actions. -/
def narrow (slot : Nat) (own? : Option SessionId) : (count : Nat) → List Action → List Action
  | _, [] => []
  | count, action :: actions =>
    action.narrow slot own? count ++ narrow slot own? (count + action.comers) actions

namespace Action

variable {action : Action} {count : Nat}

theorem narrow_of_slot? {slot' : Nat} (h : action.slot? = some slot') :
    action.narrow slot own? count = if slot' = slot then [action.inSlot 0] else [] := by
  cases action <;> cases h <;> rfl

theorem narrow_of_shared (h : action.slot? = none)
    (hpeer : ∀ transport, action ≠ .connect transport) :
    action.narrow slot own? count = [action.about own?] := by
  cases action with
  | connect transport => exact absurd rfl (hpeer transport)
  | sweep | tick | start | stop | wait => rfl
  | _ => cases h

/-- What is left of an action is at most one action, which is a sweep if it was one. -/
theorem narrow_cases (slot : Nat) (own? : Option SessionId) (count : Nat) (action : Action) :
    action.narrow slot own? count = [] ∧ action.sweptIds? = none ∨
      ∃ left, action.narrow slot own? count = [left] ∧
        left.sweptIds? = action.sweptIds?.map (·.filter (own? = some ·)) ∧
        left.comers = action.comers := by
  cases action with
  | connect transport =>
    by_cases hcount : count = slot
    · exact .inr ⟨.connect transport, if_pos hcount, rfl, rfl⟩
    · exact .inl ⟨if_neg hcount, rfl⟩
  | sweep | tick | start | stop | wait => exact .inr ⟨_, rfl, rfl, rfl⟩
  | peer slot' | call slot' | head slot' | reply slot' | read slot' | write slot' =>
    by_cases hslot : slot' = slot
    · exact .inr ⟨_, if_pos hslot, rfl, rfl⟩
    · exact .inl ⟨if_neg hslot, rfl⟩

theorem sweptIds?_of_slot? {slot' : Nat} (h : action.slot? = some slot') :
    action.sweptIds? = none := by
  cases action <;> first | rfl | cases h

theorem comers_of_slot? {slot' : Nat} (h : action.slot? = some slot') : action.comers = 0 := by
  cases action <;> first | rfl | cases h

end Action

/-! ### How many connections there are -/

theorem length_of_getElem? {α : Type} {list next : List α}
    (h : ∀ index : Nat, next[index]? = none ↔ list[index]? = none) :
    next.length = list.length := by
  have hlist := (h list.length).mpr (List.getElem?_eq_none (Nat.le_refl _))
  have hnext := (h next.length).mp (List.getElem?_eq_none (Nat.le_refl _))
  exact Nat.le_antisymm (List.getElem?_eq_none_iff.mp hlist) (List.getElem?_eq_none_iff.mp hnext)

theorem length_sweepOver (config : Config) (server : Server σ) (ids : List SessionId) :
    (sweepOver config server ids).1.connections.length = server.connections.length := by
  refine length_of_getElem? fun slot => ?_
  obtain ⟨actions, hactions⟩ := sweepOver_connections config server ids slot
  rw [hactions, Option.map_eq_none_iff]

/-- There are more connections only when a peer connects. -/
theorem History.length_act (site : Site σ) (history : History σ) (action : Action) :
    (history.act site action).server.connections.length =
      history.server.connections.length + action.comers := by
  cases hslot : action.slot? with
  | some slot =>
    rw [Action.comers_of_slot? hslot, Nat.add_zero]
    cases hconnection : history.server.connections[slot]? with
    | none => rw [history.act_of_nobody site hslot hconnection]
    | some connection =>
      obtain ⟨calls, hacts⟩ := history.act_acts site hslot hconnection
      refine length_of_getElem? fun slot' => ?_
      by_cases hslot' : slot' = slot
      · subst hslot'
        simp [hacts.own, hconnection]
      · rw [hacts.others slot' hslot', Option.map_eq_none_iff]
  | none =>
    cases action with
    | connect transport => exact List.length_append
    | sweep ids => exact length_sweepOver site.config history.server ids
    | tick ids =>
      rcases history.tick_cases site ids with ⟨hearly, -⟩ | ⟨sweeper, -, -, hdue⟩
      · rw [hearly]
        rfl
      · rw [hdue]
        exact length_sweepOver site.config history.server ids
    | start =>
      show (history.server.start site).connections.length = _
      unfold start
      split <;> rfl
    | stop | wait => rfl
    | _ => cases hslot

/-- Where there is one connection, its session is in the first slot. -/
theorem eq_zero_of_idAt? {server : Server σ} {id : SessionId}
    (h : server.connections.length ≤ 1) (hid : server.idAt? slot = some id) : slot = 0 := by
  obtain ⟨channel, hchannel, -⟩ := Option.map_eq_some_iff.mp hid
  obtain ⟨service, hlive⟩ := (server.channel?_eq_some_iff slot channel).mp hchannel
  have hlength := (List.getElem?_eq_some_iff.mp hlive).1
  omega

theorem distinctIds_of_length {server : Server σ} (h : server.connections.length ≤ 1) :
    server.DistinctIds :=
  fun _ _ _ hid hid' => (eq_zero_of_idAt? h hid).trans (eq_zero_of_idAt? h hid').symm

/-! ### Sweeps over the whole registry -/

/-- Every sweep is over the whole registry if the first action is, and every sweep after it. -/
theorem History.thorough_cons {history : History σ} {action : Action} {actions : List Action} :
    history.Thorough site (action :: actions) ↔
      (∀ ids, action.sweptIds? = some ids → ids.Perm (history.server.registry.map (·.1))) ∧
        (history.act site action).Thorough site actions := by
  constructor
  · intro h
    refine ⟨fun ids hids => h [] action actions ids rfl hids, ?_⟩
    intro before later after ids hactions hids
    exact h (action :: before) later after ids (by rw [hactions]; rfl) hids
  · rintro ⟨hfirst, hrest⟩ before later after ids hactions hids
    cases before with
    | nil =>
      obtain ⟨rfl, rfl⟩ := List.cons.inj hactions
      exact hfirst ids hids
    | cons first before =>
      obtain ⟨rfl, htail⟩ := List.cons.inj hactions
      exact hrest before later after ids htail hids

/-! ### Two runs side by side -/

/-- An action, and what is left of it. -/
theorem Shows.narrow {history alone : History σ} {reactions : Nat → Event → List Call}
    (h : Shows services own? slot history alone)
    (henrolled : Enrolled own? slot history.server alone.server)
    (hkeeps : site.application.Keeps services reactions) (action : Action)
    (hid : ∀ id, (history.act site action).server.idAt? slot = some id → own? = some id) :
    Shows services own? slot (history.act site action) (alone.run (site.giving own?)
      (action.narrow slot own? history.server.connections.length)) := by
  cases hslot : action.slot? with
  | some slot' =>
    have hquiet := history.reports_act site (Action.sweptIds?_of_slot? hslot)
    rw [Action.narrow_of_slot? hslot]
    by_cases hown : slot' = slot
    · subst hown
      have hslotAlone := Action.slot?_inSlot hslot 0
      have hquietAlone :=
        alone.reports_act (site.giving own?) (Action.sweptIds?_of_slot? hslotAlone)
      rw [if_pos rfl]
      exact ⟨h.mirrors.act_own hslot hkeeps hid, hquietAlone.trans (hquiet ▸ h.reports)⟩
    · rw [if_neg hown]
      exact ⟨h.mirrors.act_other hslot hown hkeeps, hquiet ▸ h.reports⟩
  | none =>
    by_cases hpeer : ∃ transport, action = .connect transport
    · obtain ⟨transport, rfl⟩ := hpeer
      show Shows services own? slot _ (alone.run _ (if _ then _ else _))
      split
      · rename_i hlength
        exact ⟨h.mirrors.connect transport hlength, h.reports⟩
      · rename_i hlength
        exact ⟨h.mirrors.connect_other transport hlength, h.reports⟩
    · have hothers (transport : Transport) : action ≠ .connect transport :=
        fun heq => hpeer ⟨transport, heq⟩
      rw [Action.narrow_of_shared hslot hothers]
      exact h.act_shared henrolled hslot hothers

theorem Exact.seated {server : Server σ} {expired : List SessionId} (h : Exact server expired) :
    Seated server :=
  ⟨fun id slot hmem => (h.sound id slot hmem).1, h.nodup⟩

/-- The session with this id is the one in the slot. -/
def Owns (own? : Option SessionId) (slot : Nat) (server : Server σ) : Prop :=
  ∀ slot' id, server.idAt? slot' = some id → (own? = some id ↔ slot' = slot)

/-- A run, and what is left of it. No id has been given twice. -/
structure Alongside (site : Site σ) (services : σ) (own? : Option SessionId) (slot : Nat)
    (history alone : History σ) : Prop where
  view : Shows services own? slot history alone
  orderly : Orderly site history
  owns : Owns own? slot history.server
  orderlyAlone : Orderly (site.giving own?) alone
  single : alone.server.connections.length ≤ 1

namespace Alongside

variable {history alone : History σ} {reactions : Nat → Event → List Call}

/-- Both runs have expired the session, or neither has. -/
theorem mem_expired (h : Alongside site services own? slot history alone) {id : SessionId}
    (hid : own? = some id) : id ∈ alone.expired ↔ id ∈ history.expired := by
  have habout (report : SweepReport) : id ∈ (report.about own?).expired ↔ id ∈ report.expired := by
    simp [SweepReport.about, hid]
  unfold History.expired
  rw [h.view.reports]
  simp only [List.mem_flatMap, List.mem_map, exists_exists_and_eq_and, habout]

/-- The session is registered in both runs, or in neither. -/
theorem mem_registry (h : Alongside site services own? slot history alone) {id : SessionId}
    (hid : own? = some id) :
    (id, 0) ∈ alone.server.registry ↔ (id, slot) ∈ history.server.registry := by
  have hbegun := h.view.mirrors.idAt?
  have hclosed := h.view.mirrors.closed
  have hexpired := h.mem_expired hid
  constructor
  · intro hmem
    obtain ⟨hown, hopen, hkept⟩ := h.orderlyAlone.exact.sound id 0 hmem
    exact h.orderly.exact.complete id slot (hbegun.symm.trans hown)
      (fun hreported => hopen (hclosed.mpr hreported)) fun hmem => hkept (hexpired.mpr hmem)
  · intro hmem
    obtain ⟨hown, hopen, hkept⟩ := h.orderly.exact.sound id slot hmem
    exact h.orderlyAlone.exact.complete id 0 (hbegun.trans hown)
      (fun hreported => hopen (hclosed.mp hreported)) fun hmem => hkept (hexpired.mp hmem)

/-- Whoever is registered in the second run is in its first slot. -/
theorem eq_zero (h : Alongside site services own? slot history alone) {id : SessionId}
    {slot' : Nat} (hmem : (id, slot') ∈ alone.server.registry) :
    slot' = 0 ∧ own? = some id := by
  have hown := (h.orderlyAlone.exact.sound id slot' hmem).1
  obtain rfl := eq_zero_of_idAt? h.single hown
  exact ⟨rfl, (h.owns slot id (h.view.mirrors.idAt?.symm.trans hown)).mpr rfl⟩

theorem enrolled (h : Alongside site services own? slot history alone) :
    Enrolled own? slot history.server alone.server where
  own id hid := by
    by_cases hmem : (id, slot) ∈ history.server.registry
    · exact .inl ⟨h.orderly.exact.seated.slotOf?_eq_some_iff.mpr hmem,
        h.orderlyAlone.exact.seated.slotOf?_eq_some_iff.mpr ((h.mem_registry hid).mpr hmem)⟩
    · refine .inr ⟨Option.eq_none_iff_forall_not_mem.mpr fun slot' hslot' => ?_,
        Option.eq_none_iff_forall_not_mem.mpr fun slot' hslot' => ?_⟩
      · have hother := mem_of_slotOf? hslot'
        have hown := (h.orderly.exact.sound id slot' hother).1
        obtain rfl := (h.owns slot' id hown).mp hid
        exact hmem hother
      · have hother := mem_of_slotOf? hslot'
        obtain ⟨rfl, -⟩ := h.eq_zero hother
        exact hmem ((h.mem_registry hid).mp hother)
  others id hslot :=
    (h.owns slot id (h.orderly.exact.sound id slot (mem_of_slotOf? hslot)).1).mpr rfl

/-- The second run has the session in its registry, if the first one has, and nobody else. -/
theorem perm_registry (h : Alongside site services own? slot history alone)
    {ids : List SessionId} (hids : ids.Perm (history.server.registry.map (·.1))) :
    (ids.filter (own? = some ·)).Perm (alone.server.registry.map (·.1)) := by
  have hnodup := (hids.nodup_iff.mpr h.orderly.exact.nodup).filter (own? = some ·)
  rw [List.perm_ext_iff_of_nodup hnodup h.orderlyAlone.exact.nodup]
  intro id
  rw [List.mem_filter, decide_eq_true_eq, hids.mem_iff]
  constructor
  · rintro ⟨hmem, hid⟩
    obtain ⟨⟨other, slot'⟩, hentry, rfl⟩ := List.mem_map.mp hmem
    have hown := (h.orderly.exact.sound other slot' hentry).1
    obtain rfl := (h.owns slot' other hown).mp hid
    exact List.mem_map_of_mem (f := (·.1)) ((h.mem_registry hid).mpr hentry)
  · intro hmem
    obtain ⟨⟨other, slot'⟩, hentry, rfl⟩ := List.mem_map.mp hmem
    obtain ⟨rfl, hid⟩ := h.eq_zero hentry
    exact ⟨List.mem_map_of_mem (f := (·.1)) ((h.mem_registry hid).mp hentry), hid⟩

/-- An action, and what is left of it. -/
theorem act (h : Alongside site services own? slot history alone)
    (hkeeps : site.application.Keeps services reactions) (action : Action)
    (howns : Owns own? slot (history.act site action).server)
    (hdistinct : (history.act site action).server.DistinctIds) :
    Alongside site services own? slot (history.act site action) (alone.run (site.giving own?)
      (action.narrow slot own? history.server.connections.length)) := by
  have hid (id : SessionId) (hbegun : (history.act site action).server.idAt? slot = some id) :
      own? = some id := (howns slot id hbegun).mpr rfl
  have hview := h.view.narrow h.enrolled hkeeps action hid
  have hsingle : (alone.run (site.giving own?) (action.narrow slot own?
      history.server.connections.length)).server.connections.length ≤ 1 := by
    cases action with
    | connect transport =>
      show (alone.run _ (if _ then _ else _)).server.connections.length ≤ 1
      split
      · rename_i hlength
        show (alone.server.connections ++ [_]).length ≤ 1
        rw [h.view.mirrors.eq_nil hlength]
        exact Nat.le_refl 1
      · exact h.single
    | _ =>
      -- Nobody connects in any other action.
      rcases Action.narrow_cases slot own? history.server.connections.length _ with
        ⟨hnone, -⟩ | ⟨left, hleft, -, hcomers⟩
      · rw [hnone]
        exact h.single
      · rw [hleft]
        show (alone.act _ left).server.connections.length ≤ 1
        rw [History.length_act, hcomers]
        exact h.single
  exact {
    view := hview
    orderly := h.orderly.act action hdistinct
    owns := howns
    orderlyAlone := h.orderlyAlone.run _ (distinctIds_of_length hsingle)
    single := hsingle }

/-- Any actions, and what is left of them. If every sweep of the first run is over its whole
registry, then every sweep of the second run is over its own. -/
theorem run (h : Alongside site services own? slot history alone)
    (hkeeps : site.application.Keeps services reactions) (actions : List Action)
    (howns : Owns own? slot (history.run site actions).server)
    (hdistinct : (history.run site actions).server.DistinctIds) :
    let left := narrow slot own? history.server.connections.length actions
    Alongside site services own? slot (history.run site actions)
        (alone.run (site.giving own?) left) ∧
      (history.Thorough site actions → alone.Thorough (site.giving own?) left) := by
  induction actions generalizing history alone with
  | nil =>
    refine ⟨h, fun _ before action after ids hactions => ?_⟩
    simp [Server.narrow] at hactions
  | cons action actions ih =>
    obtain ⟨reports, -, hmoves, -⟩ := history.act_moves site action
    obtain ⟨ids, -, hlater⟩ := (history.act site action).run_moves site actions
    have htraced := h.orderly.traced.moves hmoves
    -- Whoever has begun keeps the slot and the id.
    have hmiddle := h.act hkeeps action
      (fun slot' id hid => howns slot' id (idAt?_moves htraced hlater hid))
      (distinct_moves htraced hlater hdistinct)
    obtain ⟨hrun, hthorough⟩ := ih hmiddle howns hdistinct
    rw [history.length_act] at hrun hthorough
    refine ⟨?_, fun hwhole => ?_⟩
    · show Alongside site services own? slot _ (alone.run _ (_ ++ _))
      rw [History.run_append]
      exact hrun
    · obtain ⟨hfirst, hrest⟩ := History.thorough_cons.mp hwhole
      show alone.Thorough _ (_ ++ _)
      rcases action.narrow_cases slot own? history.server.connections.length with
        ⟨hnone, -⟩ | ⟨left, hleft, hswept, -⟩
      · rw [hnone] at hthorough ⊢
        exact hthorough hrest
      · rw [hleft] at hthorough ⊢
        refine History.thorough_cons.mpr ⟨fun ids hids => ?_, hthorough hrest⟩
        rw [hids] at hswept
        obtain ⟨ids, haction, rfl⟩ := Option.map_eq_some_iff.mp hswept.symm
        exact h.perm_registry (hfirst ids haction)

end Alongside

/-! ### Halls -/

end Server

/-- The calls that a service makes of a session when it is told about it, if it is no chat. -/
def Service.reactions : Service → Event → List Call
  | .echo, .received message => [.send message]
  | .closer, .received message => [.close (closerCode message) "closer"]
  | _, _ => []

/-- A service that is no chat makes its calls and stays as it is. -/
theorem Service.react_eq {service : Service} (hquiet : ∀ room, service ≠ .chat room)
    (handle : Handle) (event : Event) :
    service.react handle event =
      Script.requests handle.slot service (service.reactions event) := by
  cases service with
  | chat room => exact absurd rfl (hquiet room)
  | _ => cases event <;> rfl

theorem Script.map_requests {α β : Type} (f : α → β) (slot : Nat) (value : α)
    (calls : List Call) : (requests slot value calls).map f = requests slot (f value) calls := by
  induction calls with
  | nil => rfl
  | cons request rest ih =>
    show Script.call slot request (fun _ => (requests slot value rest).map f) = _
    rw [ih]
    rfl

/-- The calls that the services of a hall make. -/
def Hall.reactions (hall : Hall) (number : Nat) (event : Event) : List Call :=
  (hall[number]?.map (·.reactions event)).getD []

/-- A hall without a chat keeps to itself. -/
theorem Hall.keeps {hall : Hall} (hquiet : ∀ room, Service.chat room ∉ hall) :
    Hall.application.Keeps hall hall.reactions := by
  intro number handle event
  unfold Hall.application Hall.reactions
  dsimp only
  cases hservice : hall[number]? with
  | none => rfl
  | some service =>
    have hmem := List.mem_of_getElem? hservice
    have hother (room : Chat.Room) : service ≠ .chat room := by
      rintro rfl
      exact hquiet room hmem
    show (service.react handle event).map _ = Script.requests handle.slot hall _
    rw [Service.react_eq hother, Script.map_requests, Server.set_of_getElem? hservice]
    rfl

namespace Server

/-- A connection to a hall of recorders, echoes and closers, among any others and after any
actions, if no two sessions have the same id. It has the first slot for itself in what is left
of the actions, where its session gets the id that it has. In order:

- the application is told the same about it;
- the bytes written to it, and all else about its stream, are the same;
- so is its session: its state, its missed pings, when it was last active, and its queue;
- so is the outcome of its request;
- the time is the same, hence the session has been idle for as long;
- the reports of the sweeps are what all reports say about its session;
- if every sweep was over the whole registry, then so is every sweep that is left. -/
theorem isolated_of_actions (site : Site Hall) (hall : Hall) (actions : List Action) (slot : Nat)
    (happlication : site.application = Hall.application)
    (hquiet : ∀ room, Service.chat room ∉ hall)
    (hdistinct : ((fresh hall).run site actions).server.DistinctIds) :
    let history := (fresh hall).run site actions
    let own? := history.server.idAt? slot
    let left := narrow slot own? 0 actions
    let alone := (fresh hall).run (site.giving own?) left
    alone.server.callbacks 0 = history.server.callbacks slot ∧
    alone.server.connections[0]?.map (·.transport) =
      history.server.connections[slot]?.map (·.transport) ∧
    (alone.server.channel? 0).map (·.session) =
      (history.server.channel? slot).map (·.session) ∧
    alone.server.connections[0]?.map (·.result?) =
      history.server.connections[slot]?.map (·.result?) ∧
    alone.server.now.time = history.server.now.time ∧
    alone.reports = history.reports.map (·.about own?) ∧
    ((fresh hall).Thorough site actions → (fresh hall).Thorough (site.giving own?) left) := by
  intro history own? left alone
  have hkeeps : site.application.Keeps hall hall.reactions := by
    rw [happlication]
    exact Hall.keeps hquiet
  have howns : Owns own? slot history.server := by
    intro slot' id hid
    constructor
    · exact fun hown => hdistinct slot' slot id hid hown
    · rintro rfl
      exact hid
  have hstart : Alongside site hall own? slot (fresh hall) (fresh hall) := {
    view := ⟨⟨rfl, rfl, ⟨rfl, rfl⟩, rfl, rfl, rfl⟩, rfl⟩
    orderly := .fresh site hall
    owns := fun slot' id hid => by cases hid
    orderlyAlone := .fresh (site.giving own?) hall
    single := Nat.zero_le 1 }
  obtain ⟨hrun, hthorough⟩ := hstart.run hkeeps actions howns hdistinct
  have hmirrors : Mirrors hall slot history.server alone.server := hrun.view.mirrors
  -- Neither the stream nor the outcome shows when a timer was set.
  have htransport (connection? : Option Connection) : connection?.map (·.transport) =
      (connection?.map Connection.stepless).map (·.transport) := by
    cases connection? <;> simp
  have hresult (connection? : Option Connection) : connection?.map (·.result?) =
      (connection?.map Connection.stepless).map (·.result?) := by
    cases connection? <;> simp
  refine ⟨hmirrors.callbacks, ?_, hmirrors.session, ?_, hmirrors.time, hrun.view.reports,
    hthorough⟩
  · rw [htransport, hmirrors.connection, ← htransport]
  · rw [hresult, hmirrors.connection, ← hresult]

/-! ### A session with a faulty neighbour -/

/-- Ids that differ wherever they are, read off the connections. -/
theorem distinctIds_of_pairwise {σ : Type} {server : Server σ}
    (h : (server.connections.map fun connection =>
      connection.channel?.map (·.session.id)).Pairwise fun first later =>
        first = none ∨ first ≠ later) : server.DistinctIds := by
  have hearlier {slot slot' : Nat} {id : SessionId} (hslots : slot < slot')
      (hid : server.idAt? slot = some id) (hid' : server.idAt? slot' = some id) : False := by
    rw [idAt?_eq_join, Option.join_eq_some_iff] at hid hid'
    obtain ⟨hrange, hfirst⟩ := List.getElem?_eq_some_iff.mp hid
    obtain ⟨hrange', hlater⟩ := List.getElem?_eq_some_iff.mp hid'
    have hdiffer := List.pairwise_iff_getElem.mp h slot slot' hrange hrange' hslots
    rw [hfirst, hlater] at hdiffer
    simp at hdiffer
  intro slot slot' id hid hid'
  rcases Nat.lt_trichotomy slot slot' with hslots | hslots | hslots
  · exact (hearlier hslots hid hid').elim
  · exact hslots
  · exact (hearlier hslots hid' hid).elim

/-- A site with the services of a hall, and which numbers its sessions. -/
def hallSite : Site Hall where
  config := {}
  route _ := some 0
  page _ := []
  application := Hall.application
  newId number := ⟨0, UInt64.ofNat number⟩

/-- Two sessions begin. The peer of the first one breaks the rules, and that of the second one
sends a message. -/
def faultyNeighbour : List Action :=
  [.connect caller, .connect caller, .head 0, .reply 0, .reply 0, .head 1, .reply 1, .reply 1,
    .peer 0 (.receive [0xFF, 0xFF]), .peer 1 (.receive [0x81, 0x82, 0, 0, 0, 0, 0x68, 0x69]),
    .read 0 .inbound, .read 1 .inbound, .wait 10000, .sweep [⟨0, 1⟩, ⟨0, 2⟩]]

/-- The second session gets its message as if the first one had not been there. -/
theorem isolated_of_actions_faultyNeighbour :
    let hall : Hall := [.echo]
    let left := narrow 1 (some ⟨0, 2⟩) 0 faultyNeighbour
    (∀ room, Service.chat room ∉ hall) ∧
    ((fresh hall).run hallSite faultyNeighbour).server.DistinctIds ∧
    left = [.connect caller, .head 0, .reply 0, .reply 0,
      .peer 0 (.receive [0x81, 0x82, 0, 0, 0, 0, 0x68, 0x69]), .read 0 .inbound, .wait 10000,
      .sweep [⟨0, 2⟩]] ∧
    ((fresh hall).run (hallSite.giving (some ⟨0, 2⟩)) left).server.callbacks 0 =
      [(.opened, .opened), (.opened, .received (.text "hi"))] := by
  intro hall left
  have hevaluated :
      let server := ((fresh hall).run hallSite faultyNeighbour).server
      (server.connections.map fun connection => connection.channel?.map (·.session.id)) =
        [some ⟨0, 1⟩, some ⟨0, 2⟩] ∧
      server.callbacks 1 = [(.opened, .opened), (.opened, .received (.text "hi"))] := by
    decide +kernel
  obtain ⟨hids, hcallbacks⟩ := hevaluated
  have hown : ((fresh hall).run hallSite faultyNeighbour).server.idAt? 1 = some ⟨0, 2⟩ := by
    rw [idAt?_eq_join, hids]
    rfl
  have hdistinct : ((fresh hall).run hallSite faultyNeighbour).server.DistinctIds :=
    distinctIds_of_pairwise (by rw [hids]; decide)
  have hquiet : ∀ room, Service.chat room ∉ hall := by simp [hall]
  have htold := (isolated_of_actions hallSite hall faultyNeighbour 1 rfl hquiet hdistinct).1
  rw [hown] at htold
  exact ⟨hquiet, hdistinct, rfl, htold.trans hcallbacks⟩

end Server

end SocketGate
