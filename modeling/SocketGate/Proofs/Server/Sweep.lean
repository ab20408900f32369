import SocketGate.Proofs.Bytes
import SocketGate.Proofs.Server.Keepalive

/-!
# `SocketGate.Proofs.Server.Sweep`: what one sweep does

A sweep goes through the registry while it takes sessions out of it. What it finds about a
session depends on that session and on the time alone, and no visit changes what is found at
another one. So the report lists the sessions of the registry by what was found, in the order
of the sweep, and the server in the end is the same in every order.

* `Session.forceClose_of_opened`: what an open session is like when it is expired.
* `Server.visits_found`: the report and the registry after some visits.
* `Server.sweepOver_perm`: the order of a sweep makes no difference.
* `Server.sweepOver_of_actions`: what a sweep does to a server after any actions.
-/

set_option autoImplicit false

namespace SocketGate

/-! ### Sessions that are expired or sent a ping -/

/-- Two items enter one after the other while no more wait than the limit says: this is what
the headroom is for. -/
theorem Outbox.put_put (outbox : Outbox) (first second : Outbound)
    (h : outbox.waiting.length ≤ outbox.limit) :
    (outbox.put first).put second =
      if outbox.attached then outbox.append [first, second] else outbox := by
  rw [Outbox.put_eq, Outbox.put_eq, Outbox.append_append]
  cases hattached : outbox.attached with
  | true =>
    have hsecond : (outbox.append [first]).waiting.length < outbox.limit + Outbox.headroom := by
      rw [Outbox.waiting_append, List.length_append, List.length_singleton]
      exact Nat.add_lt_add_of_le_of_lt h (by decide)
    have hfirst : outbox.waiting.length < outbox.limit + Outbox.headroom :=
      Nat.lt_of_le_of_lt h (Nat.lt_add_of_pos_right (by decide))
    rw [outbox.admitted_eq first hattached hfirst,
      (outbox.append [first]).admitted_eq second hattached hsecond]
    rfl
  | false =>
    rw [outbox.admitted_of_detached first hattached, Outbox.append_nil,
      outbox.admitted_of_detached second hattached, List.append_nil, Outbox.append_nil]
    rfl

namespace Session

/-- An open session that has been expired. If its writer still takes from the queue, a close
frame and the request to shut down are the last items there. -/
def whenExpired (session : Session) : Session :=
  let reason : CloseReason := ⟨.goingAway, "session expired"⟩
  { session with
    state := .closing
    outbox :=
      if session.outbox.attached then
        session.outbox.append [.frame (Frame.close reason), .shutdown]
      else session.outbox
    shutdownQueued := true
    forcedReason := some reason
    cancelled := true }

/-- A session that has been sent the ping of the sweep with this number. -/
def whenPinged (number : Nat) (session : Session) : Session :=
  { session with
    outbox := session.outbox.append [.frame (Frame.ping (Bytes.ofNatBE 8 number))]
    missedPings := session.missedPings + 1 }

/-- An open session can be expired in one way only. -/
theorem forceClose_of_writable (session : Session) (reason : CloseReason)
    (h : session.state.isWritable) : session.forceClose reason =
      { ({ session with state := .closing }.putClose reason).queueShutdown with
        forcedReason := some (session.forcedReason.getD reason)
        cancelled := true } := by
  have halive : session.state ≠ .closed := by
    rintro hclosed
    simp [hclosed, SessionState.isWritable] at h
  unfold forceClose
  rw [if_neg halive, session.breakOff_of_writable reason h]

/-- An operation keeps to it that a writable session has not been closed by force. -/
theorem forcedReason_after (session : Session) (operation : Operation)
    (h : session.state.isWritable → session.forcedReason = none)
    (hwritable : (session.after operation).state.isWritable) :
    (session.after operation).forcedReason = none := by
  -- A session that is writable now was so before.
  have hrank := (session.after_turn operation).rank_le
  have hbefore : session.state.isWritable := by
    revert hrank hwritable
    cases session.state <;> cases (session.after operation).state <;> decide
  have hother (hforce : ∀ reason, operation ≠ .forceClose reason)
      (hmark : operation ≠ .markClosed) : (session.after operation).forcedReason = none :=
    (session.steady_after operation hforce hmark).forcedReason.trans (h hbefore)
  cases operation with
  | forceClose reason =>
    have hclosing : (session.forceClose reason).state = .closing := by
      rw [session.forceClose_of_writable reason hbefore]
      exact state_queueShutdown _
    rw [show (session.after (.forceClose reason)).state = .closing from hclosing] at hwritable
    cases hwritable
  | markClosed =>
    have hclosed : session.markClosed.state = .closed := state_queueShutdown _
    rw [show (session.after .markClosed).state = .closed from hclosed] at hwritable
    cases hwritable
  | _ => exact hother nofun nofun

/-- A session that is still writable has never been closed by force. -/
theorem forcedReason_run (session : Session) (operations : List Operation)
    (h : session.state.isWritable → session.forcedReason = none) :
    (session.run operations).state.isWritable →
      (session.run operations).forcedReason = none := by
  induction operations generalizing session with
  | nil => exact h
  | cons operation operations ih => exact ih _ (session.forcedReason_after operation h)

/-- An open session that is expired, if it keeps the discipline of its queue and has not been
closed by force. -/
theorem forceClose_of_opened {limit : Nat} {session : Session} {ledger : Ledger}
    (h : Disciplined limit session ledger) (hopened : session.state = .opened)
    (hforced : session.forcedReason = none) :
    session.forceClose CloseReason.expired = session.whenExpired := by
  have hwritable : session.state.isWritable := by simp [hopened, SessionState.isWritable]
  have hflag := (h.writable hwritable).2
  have hputs := session.outbox.put_put (.frame (Frame.close CloseReason.expired)) .shutdown
    (h.length_of_writable hwritable)
  have hreason : CloseReason.expired = ⟨.goingAway, "session expired"⟩ := by decide +kernel
  rw [session.forceClose_of_writable _ hwritable]
  unfold queueShutdown putClose whenExpired
  simp only [hflag, hforced, hputs, ← hreason, Bool.false_eq_true, if_false, Option.getD_none]

end Session

namespace Server

variable {σ : Type}

/-! ### Visits one after the other -/

/-- What a sweep finds about the session that is registered under an id. -/
def found (config : Config) (server : Server σ) (id : SessionId) : Verdict :=
  match (server.slotOf? id).bind server.channel? with
  | none => .passed
  | some channel => verdict config server.now.time channel.session

theorem found_of_channel (config : Config) {server : Server σ} {id : SessionId} {slot : Nat}
    {channel : Channel} (hslot : server.slotOf? id = some slot)
    (hchannel : server.channel? slot = some channel) :
    server.found config id = verdict config server.now.time channel.session := by
  rw [found, hslot, Option.bind_some, hchannel]

/-- One visit puts the session into the report as it was found, and takes it out of the
registry if it is expired. -/
theorem visit_found (config : Config) (number : UInt64) (pass : Server σ × SweepReport)
    (id : SessionId) :
    let next := visit config (Bytes.ofNatBE 8 number.toNat) pass id
    next.2.pinged = pass.2.pinged ++ [id].filter (pass.1.found config · = .pinged) ∧
    next.2.expired = pass.2.expired ++ [id].filter (pass.1.found config · = .expired) ∧
    next.1.registry =
      pass.1.registry.filter (·.1 ∉ [id].filter (pass.1.found config · = .expired)) := by
  intro next
  obtain ⟨server, report⟩ := pass
  cases hchannel : (server.slotOf? id).bind server.channel? with
  | none =>
    have hvisit : next = (server, report) := by
      refine visit_of_nobody config _ server report id fun slot hslot => ?_
      rwa [hslot, Option.bind_some] at hchannel
    simp [hvisit, found, hchannel]
  | some channel =>
    obtain ⟨slot, hslot, hchannel⟩ := Option.bind_eq_some_iff.mp hchannel
    have hvisit : next = _ := visit_eq config number server report id hslot hchannel
    rw [hvisit, ← found_of_channel config hslot hchannel]
    cases hfound : server.found config id with
    | passed | pinged => simp [hfound, modifyChannel, modifyConnection]
    | expired => simp [hfound, modifyChannel, modifyConnection, deregister]

/-- No two sessions are registered in one slot. -/
def Apart (server : Server σ) : Prop :=
  ∀ id id' slot, server.slotOf? id = some slot → server.slotOf? id' = some slot → id' = id

theorem Seated.apart {server : Server σ} (h : Seated server) : server.Apart :=
  fun _ _ _ hslot hslot' => h.alone hslot hslot'

theorem Apart.visit {config : Config} {number : UInt64} {pass : Server σ × SweepReport}
    (h : pass.1.Apart) (id : SessionId) :
    (visit config (Bytes.ofNatBE 8 number.toNat) pass id).1.Apart :=
  fun first second slot hfirst hsecond =>
    h first second slot (slotOf?_of_visit hfirst) (slotOf?_of_visit hsecond)

/-- A visit does not change what is found at another session. -/
theorem found_visit (config : Config) (number : UInt64) {pass : Server σ × SweepReport}
    {id id' : SessionId} (hapart : pass.1.Apart) (hne : id' ≠ id) :
    (visit config (Bytes.ofNatBE 8 number.toNat) pass id').1.found config id =
      pass.1.found config id := by
  cases hslot : pass.1.slotOf? id with
  | none =>
    cases hnext : (visit config (Bytes.ofNatBE 8 number.toNat) pass id').1.slotOf? id with
    | none => simp [found, hslot, hnext]
    | some slot =>
      have hbefore := slotOf?_of_visit hnext
      simp [hslot] at hbefore
  | some slot =>
    have hbeside := visit_beside config number pass hne fun hslot' =>
      hne (hapart id id' slot hslot hslot')
    unfold found
    rw [hbeside.registered, hbeside.now, hslot, Option.bind_some, Option.bind_some,
      channel?_congr hbeside.connection]

/-- After some visits the report lists the sessions as they were found, in this order, and the
registry has lost those that are expired. Each of them was found as it was before the first
visit. -/
theorem visits_found (config : Config) (number : UInt64) (ids : List SessionId)
    (pass : Server σ × SweepReport) (hnodup : ids.Nodup) (hapart : pass.1.Apart) :
    let next := ids.foldl (visit config (Bytes.ofNatBE 8 number.toNat)) pass
    next.2.pinged = pass.2.pinged ++ ids.filter (pass.1.found config · = .pinged) ∧
    next.2.expired = pass.2.expired ++ ids.filter (pass.1.found config · = .expired) ∧
    next.1.registry =
      pass.1.registry.filter (·.1 ∉ ids.filter (pass.1.found config · = .expired)) := by
  induction ids generalizing pass with
  | nil => simp
  | cons id ids ih =>
    obtain ⟨hid, hids⟩ := List.nodup_cons.mp hnodup
    obtain ⟨hpinged, hexpired, hregistry⟩ := visit_found config number pass id
    obtain ⟨hpinged', hexpired', hregistry'⟩ := ih _ hids (hapart.visit id)
    -- The visit to the first session changes nothing about the others.
    have hsame (found : Verdict) :
        ids.filter (fun other => (visit config (Bytes.ofNatBE 8 number.toNat) pass id).1.found
          config other = found) = ids.filter (pass.1.found config · = found) := by
      refine List.filter_congr fun other hother => ?_
      rw [found_visit config number hapart (by rintro rfl; exact hid hother)]
    rw [hsame] at hpinged' hexpired' hregistry'
    have hcons (found : Verdict) :
        (id :: ids).filter (pass.1.found config · = found) =
          [id].filter (pass.1.found config · = found) ++
            ids.filter (pass.1.found config · = found) := by
      rw [← List.filter_append, List.singleton_append]
    intro next
    rw [hcons, hcons, ← List.append_assoc, ← List.append_assoc, ← hpinged, ← hexpired]
    refine ⟨hpinged', hexpired', hregistry'.trans ?_⟩
    rw [hregistry, List.filter_filter]
    refine List.filter_congr fun entry _ => ?_
    simp [Bool.and_comm]

/-- Visits change nothing but connections and the registry. -/
theorem visits_rest (config : Config) (number : UInt64) (ids : List SessionId)
    (pass : Server σ × SweepReport) :
    let next := (ids.foldl (visit config (Bytes.ofNatBE 8 number.toNat)) pass).1
    next = { pass.1 with connections := next.connections, registry := next.registry } := by
  induction ids generalizing pass with
  | nil => rfl
  | cons id ids ih =>
    intro next
    have hfirst : (visit config (Bytes.ofNatBE 8 number.toNat) pass id).1 =
        { pass.1 with
          connections := (visit config (Bytes.ofNatBE 8 number.toNat) pass id).1.connections
          registry := (visit config (Bytes.ofNatBE 8 number.toNat) pass id).1.registry } := by
      rcases visit_outcome config number pass.1 pass.2 id with hnone | ⟨slot, -, hping | hexpire⟩
      · rw [hnone]
      · rw [hping]
        rfl
      · rw [hexpire]
        rfl
    refine (ih _).trans ?_
    rw [hfirst]
    rfl

/-- Visits leave the connections alone that no session is registered with. -/
theorem visits_unregistered (config : Config) (number : UInt64) (ids : List SessionId)
    (pass : Server σ × SweepReport) {slot : Nat} (h : ∀ id, pass.1.slotOf? id ≠ some slot) :
    (ids.foldl (visit config (Bytes.ofNatBE 8 number.toNat)) pass).1.connections[slot]? =
      pass.1.connections[slot]? := by
  induction ids generalizing pass with
  | nil => rfl
  | cons id ids ih =>
    have hfirst := visit_connections_of_ne config number pass (h id)
    exact (ih _ fun id' hslot => h id' (slotOf?_of_visit hslot)).trans hfirst

/-! ### Sweeps -/

/-- Whoever is registered is live in that slot. -/
theorem Seated.live {server : Server σ} (h : Seated server) {id : SessionId} {slot : Nat}
    (hslot : server.slotOf? id = some slot) :
    ∃ service channel, server.connections[slot]? = some (.live service channel) := by
  obtain ⟨channel, hchannel, -⟩ := Option.map_eq_some_iff.mp (h.own id slot (mem_of_slotOf? hslot))
  obtain ⟨service, hlive⟩ := (server.channel?_eq_some_iff slot channel).mp hchannel
  exact ⟨service, channel, hlive⟩

/-- A sweep over sessions that are all different lists them as they are found before it, and
takes out those that are expired. -/
theorem sweepOver_found (config : Config) {server : Server σ} {ids : List SessionId}
    (hseated : Seated server) (hnodup : ids.Nodup) :
    let swept := sweepOver config server ids
    swept.2.pinged = ids.filter (server.found config · = .pinged) ∧
    swept.2.expired = ids.filter (server.found config · = .expired) ∧
    swept.1.registry = server.registry.filter (·.1 ∉ swept.2.expired) := by
  intro swept
  obtain ⟨hpinged, hexpired, hregistry⟩ := visits_found config (server.sweeps + 1) ids
    ({ server with sweeps := server.sweeps + 1 }, {}) hnodup
    hseated.apart
  rw [List.nil_append] at hpinged hexpired
  have hswept : swept.2.expired = ids.filter (server.found config · = .expired) := hexpired
  exact ⟨hpinged, hswept, by rw [hswept]; exact hregistry⟩

/-- Beside the connections and the registry, a sweep changes the count of the sweeps. -/
theorem sweepOver_rest (config : Config) (server : Server σ) (ids : List SessionId) :
    let swept := (sweepOver config server ids).1
    swept = { server with
      connections := swept.connections
      registry := swept.registry
      sweeps := server.sweeps + 1 } :=
  visits_rest config (server.sweeps + 1) ids ({ server with sweeps := server.sweeps + 1 }, {})

/-- A sweep over the whole registry leaves the same server and the same reports in every
order. -/
theorem sweepOver_perm (config : Config) {server : Server σ} {ids ids' : List SessionId}
    (hseated : Seated server) (hids : ids.Perm (server.registry.map (·.1)))
    (hids' : ids'.Perm (server.registry.map (·.1))) :
    let swept := sweepOver config server ids
    let swept' := sweepOver config server ids'
    swept'.1 = swept.1 ∧ swept'.2.pinged.Perm swept.2.pinged ∧
      swept'.2.expired.Perm swept.2.expired := by
  intro swept swept'
  have hperm : ids'.Perm ids := hids'.trans hids.symm
  obtain ⟨hpinged, hexpired, hregistry⟩ :=
    sweepOver_found config hseated (hids.nodup_iff.mpr hseated.nodup)
  obtain ⟨hpinged', hexpired', hregistry'⟩ :=
    sweepOver_found config hseated (hids'.nodup_iff.mpr hseated.nodup)
  have hlists : swept'.2.expired.Perm swept.2.expired := by
    rw [hexpired', hexpired]
    exact hperm.filter _
  have hentries : swept'.1.registry = swept.1.registry := by
    rw [hregistry', hregistry]
    exact List.filter_congr fun entry _ => decide_eq_decide.mpr (not_congr hlists.mem_iff)
  -- A registered session goes the same way in both orders, and no other one is touched.
  have hconnections : swept'.1.connections = swept.1.connections := by
    refine List.ext_getElem? fun slot => ?_
    by_cases hregistered : ∃ id, server.slotOf? id = some slot
    · obtain ⟨id, hslot⟩ := hregistered
      obtain ⟨service, channel, hlive⟩ := hseated.live hslot
      rw [(sweepOver_of_registered config hseated hids hslot hlive).connection,
        (sweepOver_of_registered config hseated hids' hslot hlive).connection]
    · have hnone (order : List SessionId) :
          (sweepOver config server order).1.connections[slot]? = server.connections[slot]? :=
        visits_unregistered config _ order ({ server with sweeps := server.sweeps + 1 }, {})
          fun id hslot => hregistered ⟨id, hslot⟩
      exact (hnone ids').trans (hnone ids).symm
  have hserver : swept'.1 = swept.1 := by
    have hrest : swept.1 = _ := sweepOver_rest config server ids
    have hrest' : swept'.1 = { server with
        connections := swept'.1.connections
        registry := swept'.1.registry
        sweeps := server.sweeps + 1 } := sweepOver_rest config server ids'
    rw [hconnections, hentries] at hrest'
    exact hrest'.trans hrest.symm
  refine ⟨hserver, ?_, hlists⟩
  rw [hpinged', hpinged]
  exact hperm.filter _

/-- The sweeps that were made are counted. -/
theorem sweeps_act (site : Site σ) {history : History σ} (action : Action)
    (h : history.server.sweeps = UInt64.ofNat history.reports.length) :
    (history.act site action).server.sweeps =
      UInt64.ofNat (history.act site action).reports.length := by
  have hswept (ids : List SessionId) (report : SweepReport) :
      (sweepOver site.config history.server ids).1.sweeps =
        UInt64.ofNat (history.reports ++ [report]).length := by
    rw [sweepOver_rest, List.length_append, List.length_singleton, UInt64.ofNat_add, ← h]
    rfl
  cases haction : action.slot? with
  | some slot =>
    have hreports : (history.act site action).reports = history.reports :=
      history.reports_act site (by cases action <;> first | rfl | cases haction)
    rw [hreports, ← h]
    cases hconnection : history.server.connections[slot]? with
    | none => rw [history.act_of_nobody site haction hconnection]
    | some connection =>
      obtain ⟨calls, hacts⟩ := history.act_acts site haction hconnection
      exact hacts.sameTime.sweeps
  | none =>
    cases action with
    | sweep ids => exact hswept ids _
    | tick ids =>
      rcases history.tick_cases site ids with ⟨hearly, -⟩ | ⟨sweeper, -, -, hdue⟩
      · rwa [hearly]
      · rw [hdue]
        exact hswept ids _
    | start =>
      show (history.server.start site).sweeps = UInt64.ofNat history.reports.length
      unfold start
      split <;> exact h
    | connect | stop | wait => exact h
    | _ => cases haction

theorem sweeps_run (site : Site σ) {history : History σ} (actions : List Action)
    (h : history.server.sweeps = UInt64.ofNat history.reports.length) :
    (history.run site actions).server.sweeps =
      UInt64.ofNat (history.run site actions).reports.length := by
  induction actions generalizing history with
  | nil => exact h
  | cons action actions ih => exact ih (sweeps_act site action h)

/-! ### What a sweep does to a registered session -/

/-- After a sweep the channel of a session is this one, and the session is in the registry and
in the report as it was found. -/
structure Leaves (swept : Server σ × SweepReport) (id : SessionId) (slot service : Nat)
    (channel : Channel) (found : Verdict) : Prop where
  connection : swept.1.connections[slot]? = some (.live service channel)
  registered : (id, slot) ∈ swept.1.registry ↔ found ≠ .expired
  pinged : id ∈ swept.2.pinged ↔ found = .pinged
  expired : id ∈ swept.2.expired ↔ found = .expired

/-- What the sweep with this number has done at this time to a registered session: one of four
things. -/
inductive Treated (config : Config) (number time : Nat) (swept : Server σ × SweepReport)
    (id : SessionId) (slot service : Nat) (channel : Channel) : Prop where
  /-- It is not open, and is left alone. -/
  | past (state : channel.session.state ≠ .opened)
      (leaves : Leaves swept id slot service channel .passed)
  /-- It has missed too many pings or was idle for too long, and is expired. -/
  | expired (state : channel.session.state = .opened)
      (overdue : config.pingFailureThreshold ≤ channel.session.missedPings ∨
        config.expiry.toNat < channel.session.idle time)
      (leaves : Leaves swept id slot service
        (channel.withSession channel.session.whenExpired) .expired)
  /-- There is room for a ping, and it is sent one. -/
  | pinged (state : channel.session.state = .opened)
      (responsive : channel.session.missedPings < config.pingFailureThreshold ∧
        channel.session.idle time ≤ config.expiry.toNat)
      (room : channel.session.outbox.attached ∧
        channel.session.outbox.waiting.length < config.maxQueuedFrames.toNat)
      (counted : (channel.session.whenPinged number).missedPings.toNat =
        channel.session.missedPings.toNat + 1)
      (leaves : Leaves swept id slot service
        (channel.withSession (channel.session.whenPinged number)) .pinged)
  /-- There is no room for a ping, and it is left alone. -/
  | full (state : channel.session.state = .opened)
      (responsive : channel.session.missedPings < config.pingFailureThreshold ∧
        channel.session.idle time ≤ config.expiry.toNat)
      (noRoom : ¬ (channel.session.outbox.attached ∧
        channel.session.outbox.waiting.length < config.maxQueuedFrames.toNat))
      (leaves : Leaves swept id slot service channel .passed)

/-- What is known of a channel in a server: its session keeps the discipline of its queue, and
nobody has forced its close while it is writable. -/
theorem Traced.session {site : Site σ} {server : Server σ} (h : Traced site server)
    {slot service : Nat} {channel : Channel}
    (hlive : server.connections[slot]? = some (.live service channel)) :
    (∃ ledger, Session.Disciplined site.config.maxQueuedFrames.toNat channel.session ledger) ∧
      (channel.session.state.isWritable → channel.session.forcedReason = none) := by
  obtain ⟨transport, id, path, now, actions, rfl, -⟩ := h.live _ _ _ hlive
  obtain ⟨operations, -, hsession, -⟩ :=
    (Channel.ofTransport transport id path site.config.limits now).exists_operations actions nofun
  refine ⟨Channel.exists_disciplined transport id path site.config.limits now actions, ?_⟩
  rw [hsession]
  exact Session.forcedReason_run _ operations fun _ => rfl

/-- The two reasons for which a session is expired. -/
theorem isUnresponsive_iff (config : Config) (time : Nat) (session : Session) :
    isUnresponsive config time session ↔
      config.pingFailureThreshold ≤ session.missedPings ∨
        config.expiry.toNat < session.idle time := by
  simp [isUnresponsive]

/-- A sweep over the whole registry treats a registered session in one of the four ways. -/
theorem treated_of_registered {site : Site σ} {server : Server σ} {ids : List SessionId}
    {id : SessionId} {slot service number : Nat} {channel : Channel} (htraced : Traced site server)
    (hseated : Seated server) (hids : ids.Perm (server.registry.map (·.1)))
    (hnumber : server.sweeps + 1 = UInt64.ofNat number) (hslot : server.slotOf? id = some slot)
    (hlive : server.connections[slot]? = some (.live service channel)) :
    Treated site.config number server.now.time (sweepOver site.config server ids) id slot service
      channel := by
  have hswept := sweepOver_of_registered site.config hseated hids hslot hlive
  obtain ⟨-, -, hregistry⟩ :=
    sweepOver_found site.config hseated (hids.nodup_iff.mpr hseated.nodup)
  generalize sweepOver site.config server ids = swept at hswept hregistry ⊢
  have hregistered (found : Verdict) (h : id ∈ swept.2.expired ↔ found = .expired) :
      (id, slot) ∈ swept.1.registry ↔ found ≠ .expired := by
    rw [hregistry, List.mem_filter, decide_eq_true_eq, h]
    exact and_iff_right (mem_of_slotOf? hslot)
  obtain ⟨⟨ledger, hdisciplined⟩, hforced⟩ := htraced.session hlive
  have hleaves : Leaves swept id slot service _ _ :=
    ⟨hswept.connection, hregistered _ hswept.expired, hswept.pinged, hswept.expired⟩
  by_cases hopened : channel.session.state = .opened
  · have hwritable : channel.session.state.isWritable := by simp [hopened, SessionState.isWritable]
    by_cases hoverdue : isUnresponsive site.config server.now.time channel.session
    · rw [verdict, if_neg (not_not.mpr hopened), if_pos hoverdue] at hleaves
      refine .expired hopened ((isUnresponsive_iff _ _ _).mp hoverdue) ?_
      rw [← Session.forceClose_of_opened hdisciplined hopened (hforced hwritable)]
      exact hleaves
    · have hresponsive : channel.session.missedPings < site.config.pingFailureThreshold ∧
          channel.session.idle server.now.time ≤ site.config.expiry.toNat := by
        rw [isUnresponsive_iff, not_or] at hoverdue
        exact ⟨UInt32.not_le.mp hoverdue.1, Nat.not_lt.mp hoverdue.2⟩
      have hroom : channel.session.outbox.hasRoom ↔ channel.session.outbox.attached ∧
          channel.session.outbox.waiting.length < site.config.maxQueuedFrames.toNat := by
        rw [Outbox.hasRoom, Bool.and_eq_true, decide_eq_true_eq, hdisciplined.holds.limit_eq]
      by_cases hfits : channel.session.outbox.hasRoom
      · have hverdict : verdict site.config server.now.time channel.session = .pinged := by
          rw [verdict, if_neg (not_not.mpr hopened), if_neg hoverdue, if_pos hfits]
        have hcounted := missedPings_of_pinged (server.sweeps + 1) hverdict
        rw [hverdict] at hleaves
        have hping : channel.after (.keepalive (server.sweeps + 1)) =
            channel.withSession (channel.session.whenPinged number) := by
          have hpayload : Bytes.ofNatBE 8 (server.sweeps + 1).toNat = Bytes.ofNatBE 8 number := by
            rw [hnumber, UInt64.toNat_ofNat']
            exact Bytes.ofNatBE_mod 8 number
          simp only [Channel.after, Channel.outcome, hpayload,
            Session.keepalive_of_opened _ hopened, if_pos hfits]
          rfl
        dsimp only at hleaves
        rw [hping] at hleaves hcounted
        exact .pinged hopened hresponsive (hroom.mp hfits) hcounted hleaves
      · rw [verdict, if_neg (not_not.mpr hopened), if_neg hoverdue, if_neg hfits] at hleaves
        exact .full hopened hresponsive (fun h => hfits (hroom.mpr h)) hleaves
  · rw [verdict, if_pos hopened] at hleaves
    exact .past hopened hleaves

/-- A sweep over the whole registry of a server, after any actions, at any time and in any order
of the registry. In order:

- every registered session is live, and is treated in one of four ways;
- no session is reported twice, and whoever is reported was registered;
- the connections that are not registered stay as they are;
- the registry loses those who are expired;
- beside the connections and the registry, only the count of the sweeps changes;
- every other order leaves the same server and the same reports. -/
theorem sweepOver_of_actions (site : Site σ) (services : σ) (actions : List Action)
    (now : Moment) (ids : List SessionId) :
    let history := (fresh services).run site actions
    let server := { history.server with now }
    let number := history.reports.length + 1
    let swept := sweepOver site.config server ids
    ids.Perm (server.registry.map (·.1)) →
      (∀ id slot, (id, slot) ∈ server.registry → ∃ service channel,
        server.connections[slot]? = some (.live service channel) ∧ channel.session.id = id ∧
        Treated site.config number now.time swept id slot service channel) ∧
      (swept.2.pinged.Nodup ∧ swept.2.expired.Nodup ∧
        swept.2.pinged.Disjoint swept.2.expired) ∧
      (∀ id, id ∈ swept.2.pinged ∨ id ∈ swept.2.expired → id ∈ server.registry.map (·.1)) ∧
      (∀ slot, slot ∉ server.registry.map (·.2) →
        swept.1.connections[slot]? = server.connections[slot]?) ∧
      swept.1.registry = server.registry.filter (·.1 ∉ swept.2.expired) ∧
      swept.1 = { server with
        connections := swept.1.connections
        registry := swept.1.registry
        sweeps := UInt64.ofNat number } ∧
      ∀ ids' : List SessionId, ids'.Perm (server.registry.map (·.1)) →
        let swept' := sweepOver site.config server ids'
        swept'.1 = swept.1 ∧ swept'.2.pinged.Perm swept.2.pinged ∧
          swept'.2.expired.Perm swept.2.expired := by
  intro history server number swept hids
  have hrun : Traced site history.server := .run site services actions
  have htraced : Traced site server := ⟨hrun.silent, hrun.live⟩
  have hbefore : Seated history.server := .run site services actions
  have hseated : Seated server := ⟨hbefore.own, hbefore.nodup⟩
  have hnodup : ids.Nodup := hids.nodup_iff.mpr hseated.nodup
  have hnumber : server.sweeps + 1 = UInt64.ofNat number := by
    have hsweeps : history.server.sweeps = UInt64.ofNat history.reports.length :=
      sweeps_run site actions rfl
    rw [show server.sweeps = _ from hsweeps]
    exact (UInt64.ofNat_add _ 1).symm
  obtain ⟨hpinged, hexpired, hregistry⟩ := sweepOver_found site.config hseated hnodup
  refine ⟨fun id slot hentry => ?_, ⟨?_, ?_, ?_⟩, ?_, fun slot hslot => ?_, hregistry, ?_,
    fun ids' hids' => sweepOver_perm site.config hseated hids hids'⟩
  · have hslot := hseated.slotOf?_eq_some_iff.mpr hentry
    obtain ⟨service, channel, hlive⟩ := hseated.live hslot
    have hid := hseated.own id slot hentry
    rw [idAt?, channel?_live hlive] at hid
    exact ⟨service, channel, hlive, Option.some.inj hid,
      treated_of_registered htraced hseated hids hnumber hslot hlive⟩
  · exact hpinged ▸ hnodup.filter _
  · exact hexpired ▸ hnodup.filter _
  · -- A session is found in one way only.
    intro id hid hid'
    rw [hpinged, List.mem_filter, decide_eq_true_eq] at hid
    rw [hexpired, List.mem_filter, decide_eq_true_eq, hid.2] at hid'
    cases hid'.2
  · rintro id (hid | hid)
    · rw [hpinged] at hid
      exact hids.mem_iff.mp (List.mem_filter.mp hid).1
    · rw [hexpired] at hid
      exact hids.mem_iff.mp (List.mem_filter.mp hid).1
  · refine visits_unregistered site.config _ ids
      ({ server with sweeps := server.sweeps + 1 }, {}) fun id hid => hslot ?_
    exact List.mem_map_of_mem (f := (·.2)) (mem_of_slotOf? hid)
  · rw [← hnumber]
    exact sweepOver_rest site.config server ids

/-- A session begins, and another one when the first has been idle for as long as it may. -/
def lateCaller : List Action :=
  [.connect caller, .connect caller, .head 0, .reply 0, .reply 0, .wait 20000, .head 1, .reply 1,
    .reply 1]

/-- The server a millisecond after that. -/
def lateServer : Server Unit :=
  { ((fresh ()).run quietSite lateCaller).server with now := ⟨20001, 0⟩ }

/-- A sweep expires the first session and sends the other one a ping, in whichever order it comes
to them. -/
theorem sweepOver_of_actions_lateCaller :
    [⟨0, 2⟩, ⟨0, 1⟩].Perm (lateServer.registry.map (·.1)) ∧
      (sweepOver quietSite.config lateServer [⟨0, 2⟩, ⟨0, 1⟩]).2 =
        { pinged := [⟨0, 2⟩], expired := [⟨0, 1⟩] } ∧
      (∃ service channel, Treated quietSite.config 1 20001
        (sweepOver quietSite.config lateServer [⟨0, 2⟩, ⟨0, 1⟩]) ⟨0, 2⟩ 1 service channel) ∧
      (sweepOver quietSite.config lateServer [⟨0, 1⟩, ⟨0, 2⟩]).1 =
        (sweepOver quietSite.config lateServer [⟨0, 2⟩, ⟨0, 1⟩]).1 := by
  have hevaluated : lateServer.registry = [(⟨0, 1⟩, 0), (⟨0, 2⟩, 1)] ∧
      (sweepOver quietSite.config lateServer [⟨0, 2⟩, ⟨0, 1⟩]).2 =
        { pinged := [⟨0, 2⟩], expired := [⟨0, 1⟩] } ∧
      ((fresh ()).run quietSite lateCaller).reports = [] := by
    decide +kernel
  obtain ⟨hregistry, hreport, hreports⟩ := hevaluated
  have hids : [⟨0, 2⟩, ⟨0, 1⟩].Perm (lateServer.registry.map (·.1)) := by
    rw [hregistry]
    exact .swap _ _ _
  have hids' : [⟨0, 1⟩, ⟨0, 2⟩].Perm (lateServer.registry.map (·.1)) := by
    rw [hregistry]
    exact .refl _
  have hentry : (⟨0, 2⟩, 1) ∈ lateServer.registry := by
    rw [hregistry]
    exact .tail _ (.head _)
  obtain ⟨htreated, -, -, -, -, -, horder⟩ := sweepOver_of_actions quietSite () lateCaller
    ⟨20001, 0⟩ [⟨0, 2⟩, ⟨0, 1⟩] hids
  obtain ⟨service, channel, -, -, hsecond⟩ := htreated ⟨0, 2⟩ 1 hentry
  rw [hreports] at hsecond
  exact ⟨hids, hreport, ⟨service, channel, hsecond⟩, (horder _ hids').1⟩

end Server

end SocketGate
