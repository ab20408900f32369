import SocketGate.Proofs.Server.Callbacks

/-!
# `SocketGate.Proofs.Server.Registry`: who is in the registry

A session enters the registry when it begins, and two things take it out: the report of its
close, and a sweep that expires it. Either can come first, and the other one finds nothing
then. `Server.Exact` says what the registry holds at any time: the sessions that have begun,
less those whose close has been reported, less those that a sweep has expired. It needs that
no two sessions have the same id.

`Server.Passage` lists what a change can mean to the registry. The invariant is proved for
these four cases.

* `Server.Move.passage`: every change is one of the four.
* `Server.Exact.passage`: each of them keeps the registry exact.
* `Server.registryExact_of_actions`: the registry after any actions, and that a session
  leaves it once, is expired once and is told of its close once.
-/

set_option autoImplicit false

namespace SocketGate.Server

open Channel (Protocol Reported)

variable {σ : Type}

/-! ### Sessions by slot -/

/-- The id of the session in a slot, if one has begun there. -/
def idAt? (server : Server σ) (slot : Nat) : Option SessionId :=
  (server.channel? slot).map (·.session.id)

/-- The close of the session in a slot has been reported. -/
def Closed (server : Server σ) (slot : Nat) : Prop :=
  ∃ state reason, (state, .closed reason) ∈ server.callbacks slot

/-- No two sessions have the same id. -/
def DistinctIds (server : Server σ) : Prop :=
  ∀ slot slot' id, server.idAt? slot = some id → server.idAt? slot' = some id → slot = slot'

theorem idAt?_of_connection (server : Server σ) (slot : Nat) (connection : Connection)
    (h : server.connections[slot]? = some connection) :
    server.idAt? slot = connection.channel?.map (·.session.id) := by
  rw [idAt?, server.channel?_of_connection slot connection h]

theorem idAt?_congr {server next : Server σ} {slot : Nat}
    (h : next.channel? slot = server.channel? slot) : next.idAt? slot = server.idAt? slot := by
  rw [idAt?, h, idAt?]

/-- A channel is replaced by one of the same session. -/
theorem idAt?_set {server next : Server σ} {slot service service' : Nat}
    {channel channel' : Channel}
    (hlive : server.connections[slot]? = some (.live service channel))
    (hconnections : next.connections = server.connections.set slot (.live service' channel'))
    (hid : channel'.session.id = channel.session.id) (slot' : Nat) :
    next.idAt? slot' = server.idAt? slot' := by
  have hlength : slot < server.connections.length := (List.getElem?_eq_some_iff.mp hlive).1
  by_cases hslot : slot = slot'
  · subst hslot
    have hnext : next.connections[slot]? = some (.live service' channel') := by
      rw [hconnections, List.getElem?_set_self hlength]
    rw [next.idAt?_of_connection slot _ hnext, server.idAt?_of_connection slot _ hlive]
    exact congrArg some hid
  · exact idAt?_congr (channel?_congr (by rw [hconnections, List.getElem?_set_ne hslot]))

theorem closed_congr {server next : Server σ} (h : next.log = server.log) (slot : Nat) :
    next.Closed slot ↔ server.Closed slot := by
  unfold Closed
  rw [callbacks_congr h]

/-- One more line in the log reports the close of its own slot, if it reports one. -/
theorem closed_line {server next : Server σ} {line : Occurrence}
    (h : next.log = server.log ++ [line]) (slot : Nat) :
    next.Closed slot ↔ server.Closed slot ∨ line.slot = slot ∧ line.event.isClosed := by
  unfold Closed
  rw [callbacks_of_log [line] h slot]
  constructor
  · rintro ⟨state, reason, hmem⟩
    rcases List.mem_append.mp hmem with hold | hnew
    · exact .inl ⟨state, reason, hold⟩
    · -- The new callback comes from the line, which is then about this slot.
      obtain ⟨line', hline', heq⟩ := List.mem_map.mp hnew
      obtain ⟨hsame, hslot⟩ := List.mem_filter.mp hline'
      obtain rfl := List.mem_singleton.mp hsame
      refine .inr ⟨by simpa using hslot, ?_⟩
      rw [(Prod.mk.inj heq).2]
      rfl
  · rintro (⟨state, reason, hold⟩ | ⟨rfl, hclosed⟩)
    · exact ⟨state, reason, List.mem_append_left _ hold⟩
    · cases hevent : line.event with
      | closed reason =>
        refine ⟨line.state, reason, List.mem_append_right _ (List.mem_map.mpr ⟨line, ?_, ?_⟩)⟩
        · simp
        · rw [hevent]
      | _ => simp [hevent, Event.isClosed] at hclosed

/-! ### What a change means to the registry -/

/-- What a change from `server` to `next` means to the registry. -/
inductive Passage (server next : Server σ) : Option SessionId → Prop where
  /-- Nobody comes or goes. -/
  | keep (ids : ∀ slot, next.idAt? slot = server.idAt? slot)
      (closed : ∀ slot, next.Closed slot ↔ server.Closed slot)
      (registry : next.registry = server.registry) : Passage server next none
  /-- A session begins. -/
  | enter (slot : Nat) (id : SessionId) (before : server.idAt? slot = none)
      (after : next.idAt? slot = some id)
      (others : ∀ slot', slot' ≠ slot → next.idAt? slot' = server.idAt? slot')
      (open_ : ¬ next.Closed slot) (closed : ∀ slot, next.Closed slot ↔ server.Closed slot)
      (registry : next.registry = server.registry.filter (·.1 ≠ id) ++ [(id, slot)]) :
      Passage server next none
  /-- The close of a session is reported. -/
  | leave (slot : Nat) (id : SessionId) (own : server.idAt? slot = some id)
      (ids : ∀ slot, next.idAt? slot = server.idAt? slot)
      (closed : ∀ slot', next.Closed slot' ↔ server.Closed slot' ∨ slot = slot')
      (registry : next.registry = server.registry.filter (·.1 ≠ id)) : Passage server next none
  /-- A sweep expires a session. -/
  | expire (slot : Nat) (id : SessionId) (registered : (id, slot) ∈ server.registry)
      (ids : ∀ slot, next.idAt? slot = server.idAt? slot)
      (closed : ∀ slot, next.Closed slot ↔ server.Closed slot)
      (registry : next.registry = server.registry.filter (·.1 ≠ id)) :
      Passage server next (some id)

/-- Every change of a server means one of these four things to the registry. -/
theorem Move.passage {site : Site σ} {server next : Server σ} {expired : Option SessionId}
    (h : Move site server next expired) (htraced : Traced site server) :
    Passage server next expired := by
  have hid : ∀ {slot service : Nat} {channel : Channel} (action : Channel.Action),
      server.connections[slot]? = some (.live service channel) →
      (channel.after action).session.id = channel.session.id :=
    fun action hlive => Channel.id_run _ [action] (htraced.protocol hlive).1
  cases h with
  | rest connections registry log =>
    exact .keep (fun slot => idAt?_congr (channel?_congr (by rw [connections])))
      (closed_congr log) registry
  | connect transport connections registry log =>
    exact .keep (fun slot => idAt?_congr (channel?_connect connections slot)) (closed_congr log)
      registry
  | answer slot connection before after connections registry log =>
    exact .keep (fun slot' => idAt?_congr (channel?_answer before after connections slot'))
      (closed_congr log) registry
  | upgrade slot service transport id path now before inRange connections registry log =>
    have hclosed : ∀ slot', next.Closed slot' ↔ server.Closed slot' := by
      intro slot'
      rw [closed_line log]
      simp [Event.isClosed]
    refine .enter slot id ?_ ?_ ?_ ?_ hclosed registry
    · rw [idAt?, before]
      rfl
    · rw [next.idAt?_of_connection slot _ (by rw [connections, List.getElem?_set_self inRange])]
      rfl
    · intro slot' hne
      exact idAt?_congr (channel?_congr (by rw [connections, List.getElem?_set_ne hne.symm]))
    · -- Nothing was reported about the slot before.
      rw [hclosed, Closed, htraced.silent slot before]
      simp
  | act slot service channel action before told connections registry log =>
    exact .keep (idAt?_set before connections (hid action before)) (closed_congr log) registry
  | report slot service channel action state registered event before told connections registry
      log unregistered =>
    have hids := idAt?_set before connections (hid action before)
    -- Only the report of a close takes the session out.
    cases hclosed : event.isClosed with
    | true =>
      rw [hclosed, if_pos rfl, hid action before] at registry
      refine .leave slot channel.session.id ?_ hids (fun slot' => ?_) registry
      · exact server.idAt?_of_connection slot _ before
      · rw [closed_line log]
        simp [hclosed]
    | false =>
      rw [hclosed, if_neg (by decide)] at registry
      refine .keep hids (fun slot' => ?_) registry
      rw [closed_line log]
      simp [hclosed]
  | expire slot service channel id registered before connections registry log =>
    exact .expire slot id (mem_of_slotOf? registered)
      (idAt?_set before connections (hid .expire before)) (closed_congr log) registry

/-- A session keeps its slot and its id. -/
theorem Passage.idAt? {server next : Server σ} {expired : Option SessionId}
    (h : Passage server next expired) {slot : Nat} {id : SessionId}
    (hid : server.idAt? slot = some id) : next.idAt? slot = some id := by
  cases h with
  | keep ids => rw [ids, hid]
  | enter slot' id' before after others =>
    have hne : slot ≠ slot' := by
      rintro rfl
      rw [before] at hid
      cases hid
    rw [others slot hne, hid]
  | leave _ _ _ ids => rw [ids, hid]
  | expire _ _ _ ids => rw [ids, hid]

theorem Passage.distinct {server next : Server σ} {expired : Option SessionId}
    (h : Passage server next expired) (hnext : next.DistinctIds) : server.DistinctIds :=
  fun slot slot' id hid hid' => hnext slot slot' id (h.idAt? hid) (h.idAt? hid')

/-! ### The invariant -/

/-- The registry holds the sessions that have begun, less those whose close has been
reported, less those in `expired`, which are the ones that sweeps have expired. -/
structure Exact (server : Server σ) (expired : List SessionId) : Prop where
  sound : ∀ id slot, (id, slot) ∈ server.registry →
    server.idAt? slot = some id ∧ ¬ server.Closed slot ∧ id ∉ expired
  complete : ∀ id slot, server.idAt? slot = some id → ¬ server.Closed slot → id ∉ expired →
    (id, slot) ∈ server.registry
  nodup : (server.registry.map (·.1)).Nodup
  begun : ∀ id ∈ expired, ∃ slot, server.idAt? slot = some id
  /-- No session is expired twice. -/
  once : expired.Nodup

/-- Taking a session out leaves the others. -/
theorem mem_filter_ne {registry : List (SessionId × Nat)} {id other : SessionId} {slot : Nat} :
    (other, slot) ∈ registry.filter (·.1 ≠ id) ↔ (other, slot) ∈ registry ∧ other ≠ id := by
  rw [List.mem_filter]
  simp

theorem nodup_filter {registry : List (SessionId × Nat)} (id : SessionId)
    (h : (registry.map (·.1)).Nodup) : ((registry.filter (·.1 ≠ id)).map (·.1)).Nodup :=
  h.sublist (List.filter_sublist.map _)

/-- A session that enters replaces an earlier one with its id, so no id is in twice. -/
theorem nodup_enter {registry : List (SessionId × Nat)} (id : SessionId) (slot : Nat)
    (h : (registry.map (·.1)).Nodup) :
    ((registry.filter (·.1 ≠ id) ++ [(id, slot)]).map (·.1)).Nodup := by
  rw [List.map_append, List.nodup_append]
  refine ⟨nodup_filter id h, by simp, ?_⟩
  intro id' hid' last hlast heq
  obtain ⟨⟨other, slot'⟩, hmem, rfl⟩ := List.mem_map.mp hid'
  obtain rfl : last = id := by simpa using hlast
  exact (mem_filter_ne.mp hmem).2 heq

namespace Exact

variable {server next : Server σ} {expired : List SessionId}

/-- A session begins. Its id is new, so it replaces nobody. -/
theorem enter (h : Exact server expired) (hdistinct : next.DistinctIds) (slot : Nat)
    (id : SessionId) (before : server.idAt? slot = none) (after : next.idAt? slot = some id)
    (others : ∀ slot', slot' ≠ slot → next.idAt? slot' = server.idAt? slot')
    (hopen : ¬ next.Closed slot) (closed : ∀ slot, next.Closed slot ↔ server.Closed slot)
    (registry : next.registry = server.registry.filter (·.1 ≠ id) ++ [(id, slot)]) :
    Exact next expired := by
  have hne : ∀ {slot' id'}, server.idAt? slot' = some id' → slot' ≠ slot := by
    rintro slot' id' hid rfl
    rw [before] at hid
    cases hid
  have hkeep : ∀ {slot' id'}, server.idAt? slot' = some id' → next.idAt? slot' = some id' :=
    fun hid => (others _ (hne hid)).trans hid
  -- This is where the ids have to be distinct: the filter takes nobody out.
  have hnew : ∀ {slot' id'}, server.idAt? slot' = some id' → id' ≠ id := by
    rintro slot' id' hid rfl
    exact hne hid (hdistinct slot' slot id' (hkeep hid) after)
  exact {
    sound := by
      intro id' slot' hmem
      rw [registry] at hmem
      rcases List.mem_append.mp hmem with hold | hlast
      · obtain ⟨hid, hclosed, hexpired⟩ := h.sound id' slot' (mem_filter_ne.mp hold).1
        exact ⟨hkeep hid, by rwa [closed], hexpired⟩
      · obtain ⟨rfl, rfl⟩ := Prod.mk.inj (List.mem_singleton.mp hlast)
        refine ⟨after, hopen, fun hexpired => ?_⟩
        obtain ⟨slot'', hid⟩ := h.begun id' hexpired
        exact hnew hid rfl
    complete := by
      intro id' slot' hid hclosed hexpired
      rw [registry]
      by_cases hslot : slot' = slot
      · subst hslot
        obtain rfl : id = id' := Option.some.inj (after.symm.trans hid)
        exact List.mem_append_right _ List.mem_cons_self
      · rw [others slot' hslot] at hid
        rw [closed] at hclosed
        exact List.mem_append_left _
          (mem_filter_ne.mpr ⟨h.complete id' slot' hid hclosed hexpired, hnew hid⟩)
    nodup := registry ▸ nodup_enter id slot h.nodup
    begun := fun id' hexpired => by
      obtain ⟨slot', hid⟩ := h.begun id' hexpired
      exact ⟨slot', hkeep hid⟩
    once := h.once }

/-- The close of a session is reported. -/
theorem leave (h : Exact server expired) (hdistinct : server.DistinctIds) (slot : Nat)
    (id : SessionId) (own : server.idAt? slot = some id)
    (ids : ∀ slot, next.idAt? slot = server.idAt? slot)
    (closed : ∀ slot', next.Closed slot' ↔ server.Closed slot' ∨ slot = slot')
    (registry : next.registry = server.registry.filter (·.1 ≠ id)) : Exact next expired where
  sound := by
    intro id' slot' hmem
    rw [registry, mem_filter_ne] at hmem
    obtain ⟨hid, hclosed, hexpired⟩ := h.sound id' slot' hmem.1
    refine ⟨by rw [ids, hid], ?_, hexpired⟩
    -- A session that is still registered has not reported its close, neither before nor now.
    rw [closed]
    rintro (hold | rfl)
    · exact hclosed hold
    · exact hmem.2 (Option.some.inj (hid.symm.trans own))
  complete := by
    intro id' slot' hid hclosed hexpired
    rw [ids] at hid
    rw [closed, not_or] at hclosed
    rw [registry, mem_filter_ne]
    refine ⟨h.complete id' slot' hid hclosed.1 hexpired, ?_⟩
    rintro rfl
    exact hclosed.2 (hdistinct slot slot' id' own hid)
  nodup := by
    rw [registry]
    exact nodup_filter id h.nodup
  begun := fun id' hexpired => by
    obtain ⟨slot', hid⟩ := h.begun id' hexpired
    exact ⟨slot', by rw [ids, hid]⟩
  once := h.once

/-- A sweep expires a session, which no sweep has done before. -/
theorem expire (h : Exact server expired) (slot : Nat) (id : SessionId)
    (registered : (id, slot) ∈ server.registry)
    (ids : ∀ slot, next.idAt? slot = server.idAt? slot)
    (closed : ∀ slot, next.Closed slot ↔ server.Closed slot)
    (registry : next.registry = server.registry.filter (·.1 ≠ id)) :
    Exact next (expired ++ [id]) := by
  -- It is registered, so no sweep has expired it before.
  obtain ⟨hown, -, hnew⟩ := h.sound id slot registered
  exact {
    sound := by
      intro id' slot' hmem
      rw [registry, mem_filter_ne] at hmem
      obtain ⟨hid, hclosed, hexpired⟩ := h.sound id' slot' hmem.1
      refine ⟨by rw [ids, hid], by rwa [closed], ?_⟩
      simp [hexpired, hmem.2]
    complete := by
      intro id' slot' hid hclosed hexpired
      rw [ids] at hid
      rw [closed] at hclosed
      rw [List.mem_append, not_or, List.mem_singleton] at hexpired
      rw [registry, mem_filter_ne]
      exact ⟨h.complete id' slot' hid hclosed hexpired.1, hexpired.2⟩
    nodup := by
      rw [registry]
      exact nodup_filter id h.nodup
    begun := fun id' hexpired => by
      rcases List.mem_append.mp hexpired with hold | hlast
      · obtain ⟨slot', hid⟩ := h.begun id' hold
        exact ⟨slot', by rw [ids, hid]⟩
      · rw [List.mem_singleton.mp hlast]
        exact ⟨slot, by rw [ids, hown]⟩
    once := by
      rw [List.nodup_append]
      refine ⟨h.once, by simp, ?_⟩
      rintro id' hid' last hlast rfl
      exact hnew (List.mem_singleton.mp hlast ▸ hid') }

/-- Whatever a change means to the registry, it stays exact. -/
theorem passage {first : Option SessionId} (h : Exact server expired)
    (hdistinct : next.DistinctIds) (hpassage : Passage server next first) :
    Exact next (expired ++ first.toList) := by
  have hbefore : server.DistinctIds := hpassage.distinct hdistinct
  cases hpassage with
  | keep ids closed registry =>
    -- The ids, the closes and the registry are the same.
    rw [Option.toList_none, List.append_nil]
    exact {
      sound := fun id slot hmem => by
        rw [registry] at hmem
        rw [ids, closed]
        exact h.sound id slot hmem
      complete := fun id slot hid hclosed hexpired => by
        rw [ids] at hid
        rw [closed] at hclosed
        rw [registry]
        exact h.complete id slot hid hclosed hexpired
      nodup := registry ▸ h.nodup
      begun := fun id hexpired => by
        obtain ⟨slot, hid⟩ := h.begun id hexpired
        exact ⟨slot, by rw [ids, hid]⟩
      once := h.once }
  | enter slot id before after others open_ closed registry =>
    rw [Option.toList_none, List.append_nil]
    exact h.enter hdistinct slot id before after others open_ closed registry
  | leave slot id own ids closed registry =>
    rw [Option.toList_none, List.append_nil]
    exact h.leave hbefore slot id own ids closed registry
  | expire slot id registered ids closed registry =>
    exact h.expire slot id registered ids closed registry

end Exact

/-! ### Runs -/

variable {site : Site σ}

/-- A session keeps its slot and its id in any changes. -/
theorem idAt?_moves {server next : Server σ} {ids : List SessionId} (htraced : Traced site server)
    (hmoves : Moves site server next ids) {slot : Nat} {id : SessionId}
    (hid : server.idAt? slot = some id) : next.idAt? slot = some id := by
  induction hmoves with
  | nil => exact hid
  | cons move moves ih => exact ih (htraced.move move) ((move.passage htraced).idAt? hid)

/-- Ids that are distinct in the end were so before. -/
theorem distinct_moves {server next : Server σ} {ids : List SessionId}
    (htraced : Traced site server) (hmoves : Moves site server next ids)
    (hdistinct : next.DistinctIds) : server.DistinctIds :=
  fun slot slot' id hid hid' =>
    hdistinct slot slot' id (idAt?_moves htraced hmoves hid) (idAt?_moves htraced hmoves hid')

/-- The registry stays exact in any changes. -/
theorem Exact.moves {server next : Server σ} {expired ids : List SessionId}
    (h : Exact server expired) (htraced : Traced site server)
    (hmoves : Moves site server next ids) (hdistinct : next.DistinctIds) :
    Exact next (expired ++ ids) := by
  induction hmoves generalizing expired with
  | nil =>
    rw [List.append_nil]
    exact h
  | cons move moves ih =>
    -- The ids are distinct in the end, so they are after the first change.
    have hmiddle := distinct_moves (htraced.move move) moves hdistinct
    rw [← List.append_assoc]
    exact ih (h.passage hmiddle (move.passage htraced)) (htraced.move move) hdistinct

/-- The application is told that a session is open while it is registered, and of its close
while it is not. -/
def Announced (server : Server σ) : Prop :=
  ∀ line ∈ server.log, (line.event = .opened → line.registered = true) ∧
    (line.event.isClosed → line.registered = false)

/-- What a channel reports is never that its session is open. -/
theorem told_ne_opened {server : Server σ} (htraced : Traced site server) {slot service : Nat}
    {channel : Channel} (hlive : server.connections[slot]? = some (.live service channel))
    {action : Channel.Action} {state : SessionState} {event : Event}
    (htold : channel.told action = some (state, event)) : event ≠ .opened := by
  obtain ⟨hsound, events, -, hprotocol⟩ := htraced.protocol hlive
  have hreported := (hprotocol.after action hsound).reported
  rw [htold, Option.toList_some, List.map_append, List.map_singleton] at hreported
  rintro rfl
  exact hreported.opened_not_mem (List.mem_append_right _ List.mem_cons_self)

theorem Announced.move {server next : Server σ} {expired : Option SessionId}
    (h : Announced server) (htraced : Traced site server)
    (hmove : Move site server next expired) : Announced next := by
  have hline : ∀ line : Occurrence, next.log = server.log ++ [line] →
      (line.event = .opened → line.registered = true) →
      (line.event.isClosed → line.registered = false) → Announced next := by
    intro line hlog hopened hclosed other hother
    rw [hlog] at hother
    rcases List.mem_append.mp hother with hold | hnew
    · exact h other hold
    · rw [List.mem_singleton.mp hnew]
      exact ⟨hopened, hclosed⟩
  have hsame : next.log = server.log → Announced next := fun hlog line hmem =>
    h line (hlog ▸ hmem)
  cases hmove with
  | rest connections registry log => exact hsame log
  | connect transport connections registry log => exact hsame log
  | answer slot connection before after connections registry log => exact hsame log
  | upgrade slot service transport id path now before inRange connections registry log =>
    exact hline _ log (fun _ => rfl) nofun
  | act slot service channel action before told connections registry log => exact hsame log
  | report slot service channel action state registered event before told connections registry
      log unregistered =>
    exact hline _ log (fun hopened => absurd hopened (told_ne_opened htraced before told))
      unregistered
  | expire slot service channel id registered before connections registry log => exact hsame log

theorem Announced.moves {server next : Server σ} {ids : List SessionId}
    (h : Announced server) (htraced : Traced site server)
    (hmoves : Moves site server next ids) : Announced next := by
  induction hmoves with
  | nil => exact h
  | cons move moves ih => exact ih (h.move htraced move) (htraced.move move)

/-- What is known of a history: the registry is exact, and a session that one sweep has
expired is neither expired nor sent a ping by a later one. -/
structure Orderly (site : Site σ) (history : History σ) : Prop where
  traced : Traced site history.server
  exact : Exact history.server history.expired
  reports : history.reports.Pairwise fun earlier later =>
    ∀ id ∈ earlier.expired, id ∉ later.expired ∧ id ∉ later.pinged
  announced : Announced history.server

namespace Orderly

/-- Nothing has happened to a server that is just there. -/
theorem fresh (site : Site σ) (services : σ) : Orderly site (fresh services) where
  traced := .fresh site services
  exact := {
    sound := fun id slot hmem => by cases hmem
    complete := fun id slot hid => by cases hid
    nodup := .nil
    begun := fun id hexpired => by cases hexpired
    once := .nil }
  reports := .nil
  announced := fun line hmem => by cases hmem

/-- An action keeps the order, if no id has been given twice by then. -/
theorem act {history : History σ} (h : Orderly site history) (action : Action)
    (hdistinct : (history.act site action).server.DistinctIds) :
    Orderly site (history.act site action) := by
  obtain ⟨reports, hreports, hmoves, hone, hpinged⟩ := history.act_moves site action
  have hexpired : (history.act site action).expired =
      history.expired ++ reports.flatMap (·.expired) := by
    rw [History.expired, hreports, List.flatMap_append]
    rfl
  have hexact : Exact (history.act site action).server (history.act site action).expired :=
    hexpired ▸ h.exact.moves h.traced hmoves hdistinct
  refine ⟨h.traced.moves hmoves, hexact, ?_, h.announced.moves h.traced hmoves⟩
  rw [hreports, List.pairwise_append]
  refine ⟨h.reports, ?_, fun earlier hearlier later hlater id hid => ⟨?_, ?_⟩⟩
  · cases reports with
    | nil => exact .nil
    | cons report others =>
      have hothers : others = [] := List.length_eq_zero_iff.mp (by simpa using hone)
      rw [hothers]
      exact List.pairwise_singleton _ report
  · -- No session is expired twice.
    have honce := hexact.once
    rw [hexpired, List.nodup_append] at honce
    intro hagain
    exact honce.2.2 id (List.mem_flatMap.mpr ⟨earlier, hearlier, hid⟩) id
      (List.mem_flatMap.mpr ⟨later, hlater, hagain⟩) rfl
  · -- Who is sent a ping was registered, so no sweep had expired it.
    intro hping
    obtain ⟨⟨other, slot⟩, hmem, rfl⟩ := List.mem_map.mp (hpinged later hlater id hping)
    exact (h.exact.sound other slot hmem).2.2 (List.mem_flatMap.mpr ⟨earlier, hearlier, hid⟩)

/-- Any actions keep the order, if no id has been given twice in the end. -/
theorem run {history : History σ} (h : Orderly site history) (actions : List Action)
    (hdistinct : (history.run site actions).server.DistinctIds) :
    Orderly site (history.run site actions) := by
  induction actions generalizing history with
  | nil => exact h
  | cons action actions ih =>
    obtain ⟨reports, -, hmoves, -, -⟩ := history.act_moves site action
    obtain ⟨ids, -, hmoves'⟩ := (history.act site action).run_moves site actions
    have hmiddle := distinct_moves (h.traced.moves hmoves) hmoves' hdistinct
    exact ih (h.act action hmiddle) hdistinct

end Orderly

/-! ### The registry after any actions -/

/-- The application is told of the close of a session at most once. -/
theorem countP_isClosed_le {server : Server σ} (htraced : Traced site server)
    (hdistinct : server.DistinctIds) (id : SessionId) :
    (server.log.filter fun line => server.idAt? line.slot = some id).countP (·.event.isClosed)
      ≤ 1 := by
  by_cases hid : ∃ slot, server.idAt? slot = some id
  · obtain ⟨slot, hslot⟩ := hid
    -- The lines about this session are those of its slot.
    have hlines : (server.log.filter fun line => server.idAt? line.slot = some id) =
        server.log.filter fun line => line.slot = slot := by
      refine List.filter_congr fun line _ => ?_
      rw [decide_eq_decide]
      constructor
      · exact fun hline => hdistinct line.slot slot id hline hslot
      · rintro rfl
        exact hslot
    have hcount : (server.log.filter fun line => line.slot = slot).countP (·.event.isClosed) =
        ((server.callbacks slot).map (·.2)).countP Event.isClosed := by
      rw [callbacks, List.map_map, List.countP_map]
      rfl
    rw [hlines, hcount]
    obtain ⟨channel, hchannel, -⟩ := Option.map_eq_some_iff.mp hslot
    obtain ⟨service, hlive⟩ := (server.channel?_eq_some_iff slot channel).mp hchannel
    obtain ⟨-, events, hcallbacks, hprotocol⟩ := htraced.protocol hlive
    rw [hcallbacks, List.map_cons, List.countP_cons_of_neg (by decide)]
    exact hprotocol.reported.countP_isClosed_le
  · have hnone : (server.log.filter fun line => server.idAt? line.slot = some id) = [] := by
      rw [List.filter_eq_nil_iff]
      intro line _
      simpa using fun hline => hid ⟨line.slot, hline⟩
    rw [hnone]
    exact Nat.zero_le 1

/-- The registry of a server, after any actions and then some more, if no two sessions have
the same id in the end. In order:

- no id is in it twice;
- it holds the sessions that have begun, less those whose close has been reported, less
  those that a sweep has reported as expired;
- a session that has begun and is not in it never is again;
- a session that one sweep has expired is neither expired nor sent a ping by a later one;
- no sweep expires a session twice;
- the application is told of the close of a session at most once;
- when it is told that a session is open, the session is registered, and when it is told of
  its close, it is not;
- what the application does when it is told something leaves the registry alone. -/
theorem registryExact_of_actions (site : Site σ) (services : σ) (actions more : List Action)
    (hdistinct : ((fresh services).run site (actions ++ more)).server.DistinctIds) :
    let history := (fresh services).run site actions
    let server := history.server
    let later := (history.run site more).server
    (server.registry.map (·.1)).Nodup ∧
    (∀ id, id ∈ server.registry.map (·.1) ↔
      (∃ slot, server.idAt? slot = some id ∧ ¬ server.Closed slot) ∧
        ∀ report ∈ history.reports, id ∉ report.expired) ∧
    (∀ id, (∃ slot, server.idAt? slot = some id) → id ∉ server.registry.map (·.1) →
      id ∉ later.registry.map (·.1)) ∧
    (history.reports.Pairwise fun earlier later =>
      ∀ id ∈ earlier.expired, id ∉ later.expired ∧ id ∉ later.pinged) ∧
    (∀ report ∈ history.reports, report.expired.Nodup) ∧
    (∀ id, (server.log.filter fun line => server.idAt? line.slot = some id).countP
      (·.event.isClosed) ≤ 1) ∧
    (∀ line ∈ server.log, (line.event = .opened → line.registered = true) ∧
      (line.event.isClosed → line.registered = false)) ∧
    ∀ (script : Script σ) (server : Server σ),
      (execute script server).2.registry = server.registry := by
  intro history server later
  rw [History.run_append] at hdistinct
  obtain ⟨ids, hids, hmoves⟩ := history.run_moves site more
  have hfresh := Orderly.fresh site services
  have htraced : Traced site server := .run site services actions
  have hbefore : server.DistinctIds := distinct_moves htraced hmoves hdistinct
  have horderly : Orderly site history := hfresh.run actions hbefore
  have hlater : Exact later (history.expired ++ ids) :=
    horderly.exact.moves htraced hmoves hdistinct
  have hexpired : ∀ id, id ∈ history.expired ↔ ∃ report ∈ history.reports, id ∈ report.expired :=
    fun id => List.mem_flatMap
  have hkeys : ∀ id, id ∈ server.registry.map (·.1) ↔
      (∃ slot, server.idAt? slot = some id ∧ ¬ server.Closed slot) ∧
        ∀ report ∈ history.reports, id ∉ report.expired := by
    intro id
    constructor
    · intro hmem
      obtain ⟨⟨other, slot⟩, hentry, rfl⟩ := List.mem_map.mp hmem
      obtain ⟨hid, hclosed, hnot⟩ := horderly.exact.sound other slot hentry
      exact ⟨⟨slot, hid, hclosed⟩, fun report hreport hagain =>
        hnot ((hexpired other).mpr ⟨report, hreport, hagain⟩)⟩
    · rintro ⟨⟨slot, hid, hclosed⟩, hreports⟩
      have hnot : id ∉ history.expired := fun hmem => by
        obtain ⟨report, hreport, hagain⟩ := (hexpired id).mp hmem
        exact hreports report hreport hagain
      exact List.mem_map_of_mem (f := (·.1)) (horderly.exact.complete id slot hid hclosed hnot)
  refine ⟨horderly.exact.nodup, hkeys, ?_, horderly.reports, ?_,
    countP_isClosed_le htraced hbefore, horderly.announced,
    fun script server => (execute_registry script server).1⟩
  · rintro id ⟨slot, hid⟩ hgone hback
    obtain ⟨⟨other, slot'⟩, hentry, rfl⟩ := List.mem_map.mp hback
    obtain ⟨hid', hclosed', hnot'⟩ := hlater.sound other slot' hentry
    -- The session has kept its slot, and what took it out of the registry still holds.
    obtain rfl : slot' = slot :=
      hdistinct slot' slot other hid' (idAt?_moves htraced hmoves hid)
    refine hgone ((hkeys other).mpr ⟨⟨slot', hid, fun hclosed => ?_⟩, ?_⟩)
    · have hover := over_of_moves htraced hmoves hclosed
      obtain ⟨state, reason, hmem⟩ := hclosed
      exact hclosed' ⟨state, reason, hover.callbacks ▸ hmem⟩
    · intro report hreport hagain
      exact hnot' (List.mem_append_left _ ((hexpired other).mpr ⟨report, hreport, hagain⟩))
  · intro report hreport
    have hsub : report.expired.Sublist history.expired := by
      rw [History.expired, List.flatMap_def]
      exact List.sublist_flatten_of_mem (List.mem_map_of_mem hreport)
    exact horderly.exact.once.sublist hsub

/-! ### A run with two sessions -/

/-- A site whose application does nothing, and which numbers its sessions. -/
def quietSite : Site Unit where
  config := {}
  route _ := some 0
  page _ := []
  application := { react := fun _ _ _ _ => .done () }
  newId number := ⟨0, UInt64.ofNat number⟩

/-- A peer that has sent an opening handshake. -/
def caller : Transport where
  source := { bytes := Bytes.ofText <|
    "GET / HTTP/1.1\r\nUpgrade: websocket\r\nConnection: Upgrade\r\n" ++
    "Sec-WebSocket-Key: dGhlIHNhbXBsZSBub25jZQ==\r\nSec-WebSocket-Version: 13\r\n\r\n" }

/-- Two sessions begin, and a sweep expires the first of them. -/
def twoCallers : List Action :=
  [.connect caller, .connect caller, .head 0, .reply 0, .reply 0, .head 1, .reply 1, .reply 1,
    .wait 30000, .sweep [⟨0, 1⟩]]

/-- The ids in the slots, read off the connections. -/
theorem idAt?_eq_join (server : Server σ) (slot : Nat) :
    server.idAt? slot = (server.connections.map fun connection =>
      connection.channel?.map (·.session.id))[slot]?.join := by
  unfold idAt? channel?
  rw [List.getElem?_map]
  cases server.connections[slot]? <;> rfl

/-- The two sessions have different ids, so the registry is exact; it has lost the first of
them, which the sweep has expired. -/
theorem registryExact_twoCallers :
    ((fresh ()).run quietSite (twoCallers ++ [])).server.DistinctIds ∧
    (((fresh ()).run quietSite twoCallers).server.registry.map (·.1)).Nodup ∧
    ((fresh ()).run quietSite twoCallers).reports.map (·.expired) = [[⟨0, 1⟩]] := by
  have hevaluated : (((fresh ()).run quietSite twoCallers).server.connections.map
        fun connection => connection.channel?.map (·.session.id)) = [some ⟨0, 1⟩, some ⟨0, 2⟩] ∧
      ((fresh ()).run quietSite twoCallers).reports.map (·.expired) = [[⟨0, 1⟩]] := by
    decide +kernel
  have hdistinct : ((fresh ()).run quietSite (twoCallers ++ [])).server.DistinctIds := by
    rw [List.append_nil]
    intro slot slot' id hid hid'
    rw [idAt?_eq_join, hevaluated.1] at hid hid'
    match slot, slot' with
    | 0, 0 | 1, 1 => rfl
    | 0, 1 | 1, 0 =>
      have hsame := hid.trans hid'.symm
      simp at hsame
    | n + 2, _ => simp at hid
    | _, n + 2 => simp at hid'
  have hexact := registryExact_of_actions quietSite () twoCallers [] hdistinct
  exact ⟨hdistinct, hexact.1, hevaluated.2⟩

end SocketGate.Server
