import SocketGate.Proofs.Channel.Activity
import SocketGate.Proofs.Server.Course
import SocketGate.Proofs.Server.Slot

/-!
# `SocketGate.Proofs.Server.Keepalive`: how a silent session is expired

A sweep counts a missed ping when it has queued one, and every frame that comes in sets the
count back. A session that takes in no frame any more is therefore expired by the first sweep
after as many pings as the threshold says, whatever else is done to it. A ping that finds no
room in the queue of the session is not counted: while the queue stays full, a session is
kept until it has been idle for too long.

* `Server.Beside`: what the visits of a sweep to the other sessions leave alone.
* `Server.sweepOver_of_registered`: what a sweep over the whole registry does to a session.
* `Server.History.Tally.run`: the pings since the last frame are counted.
* `Server.expired_of_pings`: a session that is silent is expired by the pings that it misses.
* `Server.not_expired_of_full_queue`: one whose queue is full may not be.
-/

set_option autoImplicit false

namespace SocketGate

namespace Server

variable {σ : Type}

/-! ### What a sweep does to one session -/

/-- From `pass` to `next` a sweep does nothing to the session in a slot, which has this id. -/
structure Beside (id : SessionId) (slot : Nat) (pass next : Server σ × SweepReport) : Prop where
  connection : next.1.connections[slot]? = pass.1.connections[slot]?
  registered : next.1.slotOf? id = pass.1.slotOf? id
  others : ∀ id', next.1.slotOf? id' = some slot → pass.1.slotOf? id' = some slot
  now : next.1.now = pass.1.now
  pinged : id ∈ next.2.pinged ↔ id ∈ pass.2.pinged
  expired : id ∈ next.2.expired ↔ id ∈ pass.2.expired

namespace Beside

variable {id : SessionId} {slot : Nat} {pass middle next : Server σ × SweepReport}

theorem refl (pass : Server σ × SweepReport) : Beside id slot pass pass :=
  ⟨rfl, rfl, fun _ h => h, rfl, .rfl, .rfl⟩

theorem trans (h : Beside id slot pass middle) (h' : Beside id slot middle next) :
    Beside id slot pass next where
  connection := h'.connection.trans h.connection
  registered := h'.registered.trans h.registered
  others id' hid := h.others id' (h'.others id' hid)
  now := h'.now.trans h.now
  pinged := h'.pinged.trans h.pinged
  expired := h'.expired.trans h.expired

end Beside

/-- Who is found in the registry when a session is taken out. -/
theorem slotOf?_deregister (server : Server σ) (id id' : SessionId) :
    (server.deregister id').slotOf? id = if id = id' then none else server.slotOf? id := by
  unfold slotOf? deregister
  rw [List.find?_filter]
  by_cases hid : id = id'
  · subst hid
    rw [if_pos rfl, List.find?_eq_none.mpr (by simp)]
    rfl
  · rw [if_neg hid]
    congr 2
    funext entry
    by_cases hentry : entry.1 = id
    · simp [hentry, hid]
    · simp [hentry]

theorem slotOf?_of_deregister {server : Server σ} {id id' : SessionId} {slot : Nat}
    (h : (server.deregister id').slotOf? id = some slot) : server.slotOf? id = some slot := by
  have hfound := (server.slotOf?_deregister id id').symm.trans h
  split at hfound
  · cases hfound
  · exact hfound

/-- The visit to another session. -/
theorem visit_beside (config : Config) (number : UInt64) (pass : Server σ × SweepReport)
    {id id' : SessionId} {slot : Nat} (hne : id' ≠ id) (hother : pass.1.slotOf? id' ≠ some slot) :
    Beside id slot pass (visit config (Bytes.ofNatBE 8 number.toNat) pass id') := by
  obtain ⟨server, report⟩ := pass
  rcases visit_outcome config number server report id' with
    hnone | ⟨slot', hslot, hping | hexpire⟩
  · rw [hnone]
    exact .refl _
  · rw [hping]
    exact {
      connection := modifyChannel_connections_ne server _ fun heq => hother (heq ▸ hslot)
      registered := rfl
      others := fun _ h => h
      now := rfl
      pinged := by simp [Ne.symm hne]
      expired := .rfl }
  · rw [hexpire]
    exact {
      connection := modifyChannel_connections_ne (server.deregister id') _ fun heq =>
        hother (heq ▸ hslot)
      registered := (server.slotOf?_deregister id id').trans (if_neg (Ne.symm hne))
      others := fun id'' h => slotOf?_of_deregister h
      now := rfl
      pinged := .rfl
      expired := by simp [Ne.symm hne] }

/-- The visits to other sessions. -/
theorem visits_beside (config : Config) (number : UInt64) (ids : List SessionId)
    (pass : Server σ × SweepReport) {id : SessionId} {slot : Nat} (hids : id ∉ ids)
    (halone : ∀ id', pass.1.slotOf? id' = some slot → id' = id) :
    Beside id slot pass (ids.foldl (visit config (Bytes.ofNatBE 8 number.toNat)) pass) := by
  induction ids generalizing pass with
  | nil => exact .refl pass
  | cons id' ids ih =>
    rw [List.mem_cons, not_or] at hids
    have hfirst := visit_beside config number pass (Ne.symm hids.1)
      fun hslot => hids.1 (halone id' hslot).symm
    exact hfirst.trans (ih _ hids.2 fun id'' hslot => halone id'' (hfirst.others id'' hslot))

/-- What a sweep with this number has done to the session in a slot, which has this id, when it
has found this about it. -/
structure Swept (number : UInt64) (swept : Server σ × SweepReport) (slot service : Nat)
    (id : SessionId) (channel : Channel) (found : Verdict) : Prop where
  connection : swept.1.connections[slot]? = some (.live service
    (match found with
      | .passed => channel
      | .pinged => channel.after (.keepalive number)
      | .expired => channel.after .expire))
  registered : swept.1.slotOf? id = if found = .expired then none else some slot
  alone : ∀ id', swept.1.slotOf? id' = some slot → id' = id
  pinged : id ∈ swept.2.pinged ↔ found = .pinged
  expired : id ∈ swept.2.expired ↔ found = .expired

/-- The visit to a session. -/
theorem visit_swept (config : Config) (number : UInt64) {pass : Server σ × SweepReport}
    {id : SessionId} {slot service : Nat} {channel : Channel}
    (hslot : pass.1.slotOf? id = some slot)
    (halone : ∀ id', pass.1.slotOf? id' = some slot → id' = id)
    (hlive : pass.1.connections[slot]? = some (.live service channel))
    (hpinged : id ∉ pass.2.pinged) (hexpired : id ∉ pass.2.expired) :
    Swept number (visit config (Bytes.ofNatBE 8 number.toNat) pass id) slot service id channel
      (verdict config pass.1.now.time channel.session) := by
  obtain ⟨server, report⟩ := pass
  rw [visit_eq config number server report id hslot (channel?_live hlive)]
  cases verdict config server.now.time channel.session with
  | passed => exact ⟨hlive, hslot, halone, by simpa using hpinged, by simpa using hexpired⟩
  | pinged =>
    exact ⟨modifyChannel_live server _ hlive, hslot, halone, by simp, by simpa using hexpired⟩
  | expired =>
    refine ⟨modifyChannel_live (server.deregister id) _ hlive, ?_, fun id' hid' => ?_,
      by simpa using hpinged, by simp⟩
    · exact (server.slotOf?_deregister id id).trans (by simp)
    · exact halone id' (slotOf?_of_deregister hid')

/-- What happens beside a session does not change what has been done to it. -/
theorem Swept.beside {number : UInt64} {swept next : Server σ × SweepReport} {slot service : Nat}
    {id : SessionId} {channel : Channel} {found : Verdict}
    (h : Swept number swept slot service id channel found) (hbeside : Beside id slot swept next) :
    Swept number next slot service id channel found where
  connection := hbeside.connection.trans h.connection
  registered := hbeside.registered.trans h.registered
  alone id' hid' := h.alone id' (hbeside.others id' hid')
  pinged := hbeside.pinged.trans h.pinged
  expired := hbeside.expired.trans h.expired

/-- No two sessions are registered in one slot. -/
theorem Seated.alone {server : Server σ} (h : Seated server) {id id' : SessionId} {slot : Nat}
    (hslot : server.slotOf? id = some slot) (hslot' : server.slotOf? id' = some slot) :
    id' = id := by
  have hown := h.own id slot (mem_of_slotOf? hslot)
  have hown' := h.own id' slot (mem_of_slotOf? hslot')
  exact Option.some.inj (hown'.symm.trans hown)

/-- What a sweep over the whole registry does to a session. -/
theorem sweepOver_of_registered (config : Config) {server : Server σ} {ids : List SessionId}
    {slot service : Nat} {id : SessionId} {channel : Channel} (hseated : Seated server)
    (hids : ids.Perm (server.registry.map (·.1))) (hslot : server.slotOf? id = some slot)
    (hlive : server.connections[slot]? = some (.live service channel)) :
    Swept (server.sweeps + 1) (sweepOver config server ids) slot service id channel
      (verdict config server.now.time channel.session) := by
  have hnodup : ids.Nodup := hids.nodup_iff.mpr hseated.nodup
  have hmem : id ∈ ids :=
    hids.mem_iff.mpr (List.mem_map_of_mem (f := (·.1)) (mem_of_slotOf? hslot))
  obtain ⟨before, after, rfl⟩ := List.append_of_mem hmem
  have hbefore : id ∉ before := by
    intro hearlier
    exact (List.nodup_append.mp hnodup).2.2 id hearlier id List.mem_cons_self rfl
  have hafter : id ∉ after := (List.nodup_cons.mp (List.nodup_append.mp hnodup).2.1).1
  have halone : ∀ id', server.slotOf? id' = some slot → id' = id := fun id' => hseated.alone hslot
  unfold sweepOver
  dsimp only
  rw [List.foldl_append, List.foldl_cons]
  -- The visits before the one to this session, that one, and those after it.
  have hfirst := visits_beside config (server.sweeps + 1) before
    ({ server with sweeps := server.sweeps + 1 }, {}) hbefore halone
  generalize before.foldl _ _ = first at hfirst ⊢
  have hvisit := visit_swept config (server.sweeps + 1) (hfirst.registered.trans hslot)
    (fun id' hid' => halone id' (hfirst.others id' hid')) (hfirst.connection.trans hlive)
    (fun hpinged => nomatch hfirst.pinged.mp hpinged)
    (fun hexpired => nomatch hfirst.expired.mp hexpired)
  rw [hfirst.now] at hvisit
  exact hvisit.beside (visits_beside config (server.sweeps + 1) after _ hafter hvisit.alone)

/-! ### The pings since the last frame -/

/-- A ping is one more that was missed. The count does not overflow, since only a session with
fewer missed pings than the threshold is sent one. -/
theorem missedPings_of_pinged {config : Config} {time : Nat} {channel : Channel}
    (number : UInt64) (h : verdict config time channel.session = .pinged) :
    (channel.after (.keepalive number)).session.missedPings.toNat =
      channel.session.missedPings.toNat + 1 := by
  obtain ⟨hroom, hfew⟩ := verdict_pinged h
  have hkeepalive := Session.keepalive_of_opened (Bytes.ofNatBE 8 number.toNat)
    (opened_of_verdict (by rw [h]; nofun))
  rw [if_pos hroom] at hkeepalive
  show (channel.session.keepalive _).2.missedPings.toNat = _
  rw [hkeepalive]
  show (channel.session.missedPings + 1).toNat = _
  have hless := UInt32.lt_iff_toNat_lt.mp hfew
  have hbound := config.pingFailureThreshold.toNat_lt
  rw [UInt32.toNat_add]
  exact Nat.mod_eq_of_lt (by show _ + 1 < _; omega)

/-- A visit registers nobody. -/
theorem slotOf?_of_visit {config : Config} {number : UInt64} {pass : Server σ × SweepReport}
    {id id' : SessionId} {slot : Nat}
    (h : (visit config (Bytes.ofNatBE 8 number.toNat) pass id').1.slotOf? id = some slot) :
    pass.1.slotOf? id = some slot := by
  obtain ⟨server, report⟩ := pass
  rcases visit_outcome config number server report id' with hnone | ⟨slot', -, hping | hexpire⟩
  · rwa [hnone] at h
  · rw [hping] at h
    exact h
  · rw [hexpire] at h
    exact slotOf?_of_deregister h

theorem slotOf?_of_visits {config : Config} {number : UInt64} (ids : List SessionId)
    {pass : Server σ × SweepReport} {id : SessionId} {slot : Nat}
    (h : (ids.foldl (visit config (Bytes.ofNatBE 8 number.toNat)) pass).1.slotOf? id = some slot) :
    pass.1.slotOf? id = some slot := by
  induction ids generalizing pass with
  | nil => exact h
  | cons id' ids ih => exact slotOf?_of_visit (ih h)

/-- As many of these sweeps have sent pings, one more perhaps, as are counted since some time. -/
def Counted (id : SessionId) (pings base : Nat) (pass : SweepReport) (channel : Channel) : Prop :=
  pings + (if id ∈ pass.pinged then 1 else 0) ≤ base + channel.session.missedPings.toNat

/-- Visits that leave a session in the registry count the ping that they send it. -/
theorem visits_counted (config : Config) (number : UInt64) (ids : List SessionId)
    (pass : Server σ × SweepReport) (channel : Channel) {id : SessionId}
    {slot service pings base : Nat} (halone : ∀ id', pass.1.slotOf? id' = some slot → id' = id)
    (hlive : pass.1.connections[slot]? = some (.live service channel))
    (hcounted : Counted id pings base pass.2 channel) :
    let next := ids.foldl (visit config (Bytes.ofNatBE 8 number.toNat)) pass
    next.1.slotOf? id = some slot →
      ∃ channel, next.1.connections[slot]? = some (.live service channel) ∧
        Counted id pings base next.2 channel := by
  intro next hregistered
  induction ids generalizing pass channel with
  | nil => exact ⟨channel, hlive, hcounted⟩
  | cons id' ids ih =>
    have hmiddle := slotOf?_of_visits ids hregistered
    have hslot := slotOf?_of_visit hmiddle
    by_cases hid : id' = id
    · subst hid
      obtain ⟨server, report⟩ := pass
      have hvisit := visit_eq config number server report id' hslot (channel?_live hlive)
      cases hverdict : verdict config server.now.time channel.session with
      | passed =>
        rw [hverdict] at hvisit
        exact ih _ channel (by rwa [hvisit]) (by rwa [hvisit]) (by rwa [hvisit]) hregistered
      | pinged =>
        rw [hverdict] at hvisit
        refine ih _ (channel.after (.keepalive number)) (by rwa [hvisit]) ?_ ?_ hregistered
        · rw [hvisit]
          exact modifyChannel_live server _ hlive
        · rw [hvisit]
          have hmore := missedPings_of_pinged number hverdict
          have hreported : id' ∈ report.pinged ++ [id'] := List.mem_append_right _ (by simp)
          unfold Counted at hcounted ⊢
          rw [hmore, if_pos hreported]
          split at hcounted <;> omega
      | expired =>
        -- A session that is expired is not left in the registry.
        rw [hvisit, hverdict] at hmiddle
        have hgone := (server.slotOf?_deregister id' id').symm.trans hmiddle
        simp at hgone
    · have hbeside := visit_beside config number pass hid
        fun hslot' => hid (halone id' hslot')
      refine ih _ channel (fun id'' hslot'' => halone id'' (hbeside.others id'' hslot''))
        (hbeside.connection.trans hlive) ?_ hregistered
      unfold Counted at hcounted ⊢
      rwa [if_congr hbeside.pinged rfl rfl]

/-! ### Runs -/

namespace History

/-- How many sweeps report that they have sent a session a ping. -/
def pings (history : History σ) (id : SessionId) : Nat :=
  history.reports.countP (id ∈ ·.pinged)

/-- In none of these actions the reader in a slot takes in a frame. -/
def TakesNoFrame (site : Site σ) (history : History σ) (slot : Nat) (actions : List Action) :
    Prop :=
  ∀ before after channel, actions = before ++ .read slot .inbound :: after →
    (history.run site before).server.channel? slot = some channel →
      ∀ frame, channel.incoming ≠ .ok (some frame)

/-- The actions after the first one. -/
theorem TakesNoFrame.tail {site : Site σ} {history : History σ} {slot : Nat} {action : Action}
    {actions : List Action} (h : history.TakesNoFrame site slot (action :: actions)) :
    (history.act site action).TakesNoFrame site slot actions :=
  fun before after channel hactions => h (action :: before) after channel (by rw [hactions]; rfl)

/-- Since some time, when `base` pings had been sent to the session that has begun in a slot,
it has missed all pings that were sent to it. This is said while it is registered. -/
def Tally (base slot : Nat) (id : SessionId) (history : History σ) : Prop :=
  history.server.idAt? slot = some id ∧
    ∀ channel, history.server.channel? slot = some channel → history.server.slotOf? id = some slot →
      history.pings id ≤ base + channel.session.missedPings.toNat

end History

/-- The frame that the channel in a slot takes in and records with an action. -/
def Action.intake? (slot : Nat) (channel : Channel) : Action → Option Frame
  | .read slot' wakeup => if slot' = slot then channel.intake? wakeup else none
  | _ => none

/-- What an action of its own makes of the marks of a session. -/
theorem marks_of_own (site : Site σ) (now : Moment) (id : SessionId) (requests : List Call)
    (service : Nat) {action : Action} {slot : Nat} (channel : Channel)
    (hslot : action.slot? = some slot) :
    ∃ next, (Connection.live service channel).own site now id requests action =
        .live service next ∧
      next.session.marks = channel.session.marksWith now.time (action.intake? slot channel) := by
  cases action with
  | peer => exact ⟨_, rfl, rfl⟩
  | call slot' request => exact ⟨_, rfl, channel.marks_run_calls [request]⟩
  | head | reply => exact ⟨channel, rfl, rfl⟩
  | read slot' wakeup =>
    cases hslot
    refine ⟨_, rfl, ?_⟩
    rw [Action.intake?, if_pos rfl]
    exact (Channel.marks_run_calls _ requests).trans (channel.marks_read now wakeup)
  | write => exact ⟨_, rfl, channel.marks_after_of_silent _ trivial⟩
  | _ => cases hslot

/-- The sessions that an action sweeps over, if it is a sweep or a tick. -/
def Action.sweptIds? : Action → Option (List SessionId)
  | .sweep ids | .tick ids => some ids
  | _ => none

namespace History

/-- From `history` to `next` a sweep is made over these sessions. -/
structure Sweeps (site : Site σ) (history next : History σ) (ids : List SessionId) : Prop where
  connections : next.server.connections =
    (sweepOver site.config history.server ids).1.connections
  registry : next.server.registry = (sweepOver site.config history.server ids).1.registry
  reports : next.reports = history.reports ++ [(sweepOver site.config history.server ids).2]

/-- A sweep is made, or a tick comes too early. -/
theorem act_sweeps (site : Site σ) (history : History σ) {action : Action} {ids : List SessionId}
    (h : action.sweptIds? = some ids) :
    history.act site action = history ∨ Sweeps site history (history.act site action) ids := by
  cases action with
  | sweep ids' =>
    cases h
    exact .inr ⟨rfl, rfl, rfl⟩
  | tick ids' =>
    cases h
    rcases history.tick_cases site ids with ⟨hearly, -⟩ | ⟨sweeper, -, -, hdue⟩
    · exact .inl hearly
    · rw [hdue]
      exact .inr ⟨rfl, rfl, rfl⟩
  | _ => cases h

/-- Only a sweep adds a report. -/
theorem reports_act (site : Site σ) (history : History σ) {action : Action}
    (h : action.sweptIds? = none) : (history.act site action).reports = history.reports := by
  cases action <;> first | rfl | cases h

variable {site : Site σ} {history : History σ} {base slot : Nat} {id : SessionId}

/-- A sweep counts the ping that it sends to a session, if that stays registered. -/
theorem Tally.sweeps {next : History σ} {ids : List SessionId} {channel last : Channel}
    (h : Tally base slot id history) (hseated : Seated history.server)
    (hsweeps : Sweeps site history next ids) (hslot : history.server.slotOf? id = some slot)
    (hchannel : history.server.channel? slot = some channel)
    (hlast : next.server.channel? slot = some last)
    (hregistered : next.server.slotOf? id = some slot) :
    next.pings id ≤ base + last.session.missedPings.toNat := by
  obtain ⟨service, hlive⟩ := (history.server.channel?_eq_some_iff slot channel).mp hchannel
  have hstart : Counted id (history.pings id) base {} channel := h.2 channel hchannel hslot
  have hswept : (sweepOver site.config history.server ids).1.slotOf? id = some slot := by
    unfold slotOf? at hregistered ⊢
    rwa [hsweeps.registry] at hregistered
  obtain ⟨channel', hlive', hcounted⟩ := visits_counted site.config (history.server.sweeps + 1) ids
    ({ history.server with sweeps := history.server.sweeps + 1 }, {}) channel
    (fun id' hslot' => hseated.alone hslot hslot') hlive hstart hswept
  have hlast' : next.server.channel? slot = some channel' :=
    channel?_live (by rw [hsweeps.connections]; exact hlive')
  obtain rfl := Option.some.inj (hlast'.symm.trans hlast)
  unfold pings
  rw [hsweeps.reports, List.countP_append, List.countP_singleton]
  simp only [decide_eq_true_eq]
  exact hcounted

/-- What an action that is no sweep makes of the marks of a session. -/
theorem marks_act (site : Site σ) (history : History σ) {action : Action} {slot service : Nat}
    {channel : Channel} (hquiet : action.sweptIds? = none)
    (hlive : history.server.connections[slot]? = some (.live service channel)) :
    ∃ last, (history.act site action).server.connections[slot]? = some (.live service last) ∧
      last.session.marks =
        channel.session.marksWith history.server.now.time (action.intake? slot channel) := by
  have hsame (next : Server σ) (hnone : action.intake? slot channel = none)
      (hnext : next.connections[slot]? = history.server.connections[slot]?) :
      ∃ last, next.connections[slot]? = some (.live service last) ∧
        last.session.marks =
          channel.session.marksWith history.server.now.time (action.intake? slot channel) :=
    ⟨channel, hnext.trans hlive, by rw [hnone]; rfl⟩
  cases haction : action.slot? with
  | some slot' =>
    by_cases hslot : slot' = slot
    · subst hslot
      obtain ⟨calls, hacts⟩ := history.act_acts site haction hlive
      obtain ⟨last, hown, hmarks⟩ := marks_of_own site history.server.now
        (site.newId (history.server.issued + 1)) (calls slot') service channel haction
      exact ⟨last, hacts.own.trans (congrArg some hown), hmarks⟩
    · have hnone : action.intake? slot channel = none := by
        cases action with
        | read slot'' wakeup =>
          cases haction
          exact if_neg hslot
        | _ => rfl
      cases hconnection : history.server.connections[slot']? with
      | none =>
        rw [history.act_of_nobody site haction hconnection]
        exact hsame _ hnone rfl
      | some connection =>
        obtain ⟨calls, hacts⟩ := history.act_acts site haction hconnection
        have hothers := hacts.others slot (Ne.symm hslot)
        rw [hlive] at hothers
        refine ⟨_, hothers, ?_⟩
        rw [hnone]
        exact channel.marks_run_calls (calls slot)
  | none =>
    cases action with
    | connect transport =>
      exact hsame _ rfl
        (List.getElem?_append_left (List.getElem?_eq_some_iff.mp hlive).1)
    | start =>
      refine hsame _ rfl ?_
      show (history.server.start site).connections[slot]? = _
      unfold start
      split <;> rfl
    | stop => exact hsame _ rfl rfl
    | wait milliseconds => exact hsame _ rfl rfl
    | sweep ids => cases hquiet
    | tick ids => cases hquiet
    | _ => cases haction

/-- The pings are counted in every action that takes in no frame. -/
theorem Tally.act {action : Action} (h : Tally base slot id history)
    (htraced : Traced site history.server) (hseated : Seated history.server)
    (hquiet : history.TakesNoFrame site slot [action]) :
    Tally base slot id (history.act site action) := by
  obtain ⟨reports, -, hmoves, -⟩ := history.act_moves site action
  obtain ⟨channel, hchannel, -⟩ := Option.map_eq_some_iff.mp h.1
  refine ⟨idAt?_moves htraced hmoves h.1, fun last hlast hregistered => ?_⟩
  -- Who is registered now was so before.
  have hslot : history.server.slotOf? id = some slot := by
    refine hseated.slotOf?_eq_some_iff.mpr ?_
    exact not_mem_registry_of_moves htraced hmoves (by rw [h.1]; nofun) (mem_of_slotOf? hregistered)
  cases hswept : action.sweptIds? with
  | none =>
    obtain ⟨service, hlive⟩ := (history.server.channel?_eq_some_iff slot channel).mp hchannel
    obtain ⟨last', hlive', hmarks⟩ := history.marks_act site hswept hlive
    obtain rfl := Option.some.inj ((channel?_live hlive').symm.trans hlast)
    -- No frame comes in, so the marks are the same.
    have hnone : action.intake? slot channel = none := by
      cases action with
      | read slot' wakeup =>
        rw [Action.intake?]
        split
        · rename_i hsame
          subst hsame
          refine Channel.intake?_eq_none fun hinbound => ?_
          subst hinbound
          exact hquiet [] [] channel rfl hchannel
        · rfl
      | _ => rfl
    rw [hnone] at hmarks
    rw [show last'.session.missedPings = channel.session.missedPings from congrArg (·.1) hmarks,
      pings, history.reports_act site hswept]
    exact h.2 channel hchannel hslot
  | some ids =>
    rcases history.act_sweeps site hswept with hearly | hsweeps
    · rw [hearly] at hlast ⊢
      exact h.2 last hlast hslot
    · exact h.sweeps hseated hsweeps hslot hchannel hlast hregistered

/-- The pings are counted in every run that takes in no frame. -/
theorem Tally.run (h : Tally base slot id history) (htraced : Traced site history.server)
    (hseated : Seated history.server) {actions : List Action}
    (hquiet : history.TakesNoFrame site slot actions) :
    Tally base slot id (history.run site actions) := by
  induction actions generalizing history with
  | nil => exact h
  | cons action actions ih =>
    obtain ⟨reports, -, hmoves, -⟩ := history.act_moves site action
    have hfirst : history.TakesNoFrame site slot [action] := by
      intro before after channel hactions
      exact hquiet before (after ++ actions) channel
        (by rw [← List.singleton_append, hactions]; simp)
    exact ih (h.act htraced hseated hfirst) (htraced.moves hmoves) (hseated.moves htraced hmoves)
      hquiet.tail

end History

/-! ### What a sweep means to a silent session -/

/-- What a sweep over the whole registry with this report means to an open session. -/
structure Judged (site : Site σ) (history next : History σ) (slot : Nat) (id : SessionId)
    (channel : Channel) (report : SweepReport) : Prop where
  expired : id ∈ report.expired ↔
    isUnresponsive site.config history.server.now.time channel.session
  pinged : id ∈ report.pinged ↔ id ∉ report.expired ∧ channel.session.outbox.hasRoom
  unregistered : id ∈ report.expired → id ∉ next.server.registry.map (·.1)
  forced : id ∈ report.expired → ∃ last, next.server.channel? slot = some last ∧
    last = channel.after .expire ∧ last.session.state = .closing ∧ last.session.cancelled

/-- An open session that is expired is closing, and its reader has to stop. -/
theorem expire_of_opened {channel : Channel} (h : channel.session.state = .opened) :
    (channel.after .expire).session.state = .closing ∧
      (channel.after .expire).session.cancelled := by
  show (channel.session.forceClose _).state = _ ∧ (channel.session.forceClose _).cancelled
  cases hqueued : channel.session.shutdownQueued <;>
    simp [Session.forceClose, Session.breakOff, Session.queueShutdown, Session.putClose,
      SessionState.isWritable, h, hqueued]

/-- A sweep over the whole registry expires an open session exactly if it is unresponsive, and
sends it a ping if it is not and there is room. -/
theorem judged_of_sweeps {site : Site σ} {history next : History σ} {ids : List SessionId}
    {slot : Nat} {id : SessionId} {channel : Channel} (hseated : Seated history.server)
    (hsweeps : History.Sweeps site history next ids)
    (hids : ids.Perm (history.server.registry.map (·.1)))
    (hslot : history.server.slotOf? id = some slot)
    (hchannel : history.server.channel? slot = some channel)
    (hopened : channel.session.state = .opened) :
    Judged site history next slot id channel (sweepOver site.config history.server ids).2 := by
  obtain ⟨service, hlive⟩ := (history.server.channel?_eq_some_iff slot channel).mp hchannel
  have hswept := sweepOver_of_registered site.config hseated hids hslot hlive
  have hverdict : verdict site.config history.server.now.time channel.session =
      if isUnresponsive site.config history.server.now.time channel.session then .expired
      else if channel.session.outbox.hasRoom then .pinged else .passed := by
    rw [verdict, if_neg (not_not.mpr hopened)]
  have hexpired := hswept.expired
  have hpinged := hswept.pinged
  rw [hverdict] at hexpired hpinged
  refine ⟨?_, ?_, fun hmem => ?_, fun hmem => ?_⟩
  · rw [hexpired]
    split
    · simp_all
    · split <;> simp_all
  · rw [hpinged, hexpired]
    split
    · simp_all
    · split <;> simp_all
  · have hnone : (sweepOver site.config history.server ids).1.slotOf? id = none := by
      rw [hswept.registered, if_pos (hswept.expired.mp hmem)]
    rw [hsweeps.registry]
    intro hin
    obtain ⟨entry, hentry, hid⟩ := List.mem_map.mp hin
    have hother := List.find?_eq_none.mp (Option.map_eq_none_iff.mp hnone) entry hentry
    exact hother (by simpa using hid)
  · have hlast := hswept.connection
    rw [hswept.expired.mp hmem, ← hsweeps.connections] at hlast
    exact ⟨_, channel?_live hlast, rfl, expire_of_opened hopened⟩

/-- From a session that has begun no frame comes in any more, and it is still registered and
open, whatever else was done. Then every ping that a sweep has reported since is counted as
missed, and a sweep that has room for a ping and does not expire the session sends one. So after
as many pings as the threshold says the next sweep expires the session, takes it out of the
registry and closes it by force, however short it was idle. -/
theorem expired_of_pings (site : Site σ) (services : σ) (before more : List Action) (slot : Nat)
    (id : SessionId) (channel : Channel) :
    let start := (fresh services).run site before
    let history := start.run site more
    start.server.idAt? slot = some id → start.TakesNoFrame site slot more →
    history.server.slotOf? id = some slot → history.server.channel? slot = some channel →
    channel.session.state = .opened →
      history.pings id ≤ start.pings id + channel.session.missedPings.toNat ∧
      ∀ action ids report, action.sweptIds? = some ids →
        ids.Perm (history.server.registry.map (·.1)) →
        (history.act site action).reports = history.reports ++ [report] →
          Judged site history (history.act site action) slot id channel report ∧
          (start.pings id + site.config.pingFailureThreshold.toNat ≤ history.pings id →
            id ∈ report.expired) := by
  intro start history hbegun hquiet hslot hchannel hopened
  have htraced : Traced site start.server := .run site services before
  have hseated : Seated start.server := .run site services before
  have hlater : Seated history.server := by
    have hrun : history = (fresh services).run site (before ++ more) :=
      ((fresh services).run_append site before more).symm
    rw [hrun]
    exact .run site services _
  have htally : History.Tally (start.pings id) slot id start :=
    ⟨hbegun, fun _ _ _ => Nat.le_add_right _ _⟩
  have hcounted : history.pings id ≤ start.pings id + channel.session.missedPings.toNat :=
    (htally.run htraced hseated hquiet).2 channel hchannel hslot
  refine ⟨hcounted, fun action ids report haction hids hreport => ?_⟩
  rcases history.act_sweeps site haction with hearly | hsweeps
  · rw [hearly] at hreport
    simp at hreport
  · have hsame := hreport.symm.trans hsweeps.reports
    obtain rfl : report = _ := by simpa using hsame
    have hjudged := judged_of_sweeps hlater hsweeps hids hslot hchannel hopened
    refine ⟨hjudged, fun hpings => hjudged.expired.mpr ?_⟩
    have hmissed : site.config.pingFailureThreshold.toNat ≤ channel.session.missedPings.toNat := by
      omega
    simp [isUnresponsive, UInt32.le_iff_toNat_le, hmissed]

/-- A session begins. -/
def oneCaller : List Action := [.connect caller, .head 0, .reply 0, .reply 0]

/-- Three sweeps send pings that are not answered, and the fourth expires the session. -/
theorem expired_of_pings_threeSweeps :
    let history := ((fresh ()).run quietSite oneCaller).run quietSite
      (List.replicate 3 (.sweep [⟨0, 1⟩]))
    history.server.slotOf? ⟨0, 1⟩ = some 0 ∧ history.pings ⟨0, 1⟩ = 3 ∧
      (⟨0, 1⟩ : SessionId) ∈ (sweepOver quietSite.config history.server [⟨0, 1⟩]).2.expired := by
  intro history
  have hevaluated : ((fresh ()).run quietSite oneCaller).server.idAt? 0 = some ⟨0, 1⟩ ∧
      ((fresh ()).run quietSite oneCaller).pings ⟨0, 1⟩ = 0 ∧
      history.server.registry.map (·.1) = [⟨0, 1⟩] ∧
      history.server.slotOf? ⟨0, 1⟩ = some 0 ∧ history.pings ⟨0, 1⟩ = 3 ∧
      (history.server.channel? 0).map (·.session.state) = some .opened := by
    decide +kernel
  obtain ⟨hbegun, hnone, hregistry, hslot, hpings, hstate⟩ := hevaluated
  obtain ⟨channel, hchannel, hopened⟩ := Option.map_eq_some_iff.mp hstate
  have hquiet : ((fresh ()).run quietSite oneCaller).TakesNoFrame quietSite 0
      (List.replicate 3 (.sweep [⟨0, 1⟩])) := by
    intro before after channel' hactions
    have hmem : Action.read 0 .inbound ∈
        List.replicate 3 (Action.sweep [⟨0, 1⟩]) := by simp [hactions]
    simp at hmem
  obtain ⟨-, hnext⟩ := expired_of_pings quietSite () oneCaller
    (List.replicate 3 (.sweep [⟨0, 1⟩])) 0 ⟨0, 1⟩ channel hbegun hquiet hslot hchannel hopened
  have hreport (start : History Unit) : (start.act quietSite (.sweep [⟨0, 1⟩])).reports =
      start.reports ++ [(sweepOver quietSite.config start.server [⟨0, 1⟩]).2] := rfl
  have hexpired := (hnext (.sweep [⟨0, 1⟩]) [⟨0, 1⟩] _ rfl (by rw [hregistry]) (hreport _)).2
    (by rw [hnone, hpings]; decide)
  refine ⟨hslot, hpings, ?_⟩
  unfold history
  exact hexpired

/-! ### A session whose queue is full -/

/-- A site with room for one frame in the queue of a session, and which expires a session after
one ping. -/
def narrowSite : Site Unit :=
  { quietSite with config := { pingFailureThreshold := 1, maxQueuedFrames := 1 } }

/-- The peer takes nothing any more. The application has sent two messages, and the writer is in
the middle of the first one. -/
def blockedSends : List Action :=
  [.peer 0 (.setWindow (some 0)), .call 0 (.send (.text "a")), .write 0,
    .call 0 (.send (.text "b"))]

/-- Every sweep in these actions is over the whole registry. -/
def History.Thorough {σ : Type} (site : Site σ) (history : History σ) (actions : List Action) :
    Prop :=
  ∀ before action after ids, actions = before ++ action :: after → action.sweptIds? = some ids →
    ids.Perm ((history.run site before).server.registry.map (·.1))

/-- As many sweeps as the threshold says do not suffice to have a silent session expired by the
next one. If its queue is full, they send it no ping. -/
theorem not_expired_of_full_queue :
    ¬ ∀ (site : Site Unit) (before more : List Action) (slot : Nat) (id : SessionId),
      let start := (fresh ()).run site before
      let history := start.run site more
      site.config.flaw? = none → start.server.idAt? slot = some id →
      start.TakesNoFrame site slot more → start.Thorough site more →
      history.server.slotOf? id = some slot →
      (history.server.channel? slot).map (·.session.state) = some .opened →
      start.reports.length + site.config.pingFailureThreshold.toNat ≤ history.reports.length →
        id ∈ (history.server.sweep site).2.expired := by
  intro h
  have hevaluated :
      let start := (fresh ()).run narrowSite (oneCaller ++ blockedSends)
      let history := start.run narrowSite [.sweep [⟨0, 1⟩]]
      narrowSite.config.flaw? = none ∧ start.server.idAt? 0 = some ⟨0, 1⟩ ∧
      start.server.registry.map (·.1) = [⟨0, 1⟩] ∧ history.server.slotOf? ⟨0, 1⟩ = some 0 ∧
      (history.server.channel? 0).map (·.session.state) = some .opened ∧
      start.reports.length + narrowSite.config.pingFailureThreshold.toNat ≤
        history.reports.length ∧
      (history.server.sweep narrowSite).2.expired = [] := by
    decide +kernel
  obtain ⟨hconfig, hbegun, hregistry, hslot, hstate, hreports, hkept⟩ := hevaluated
  have hquiet : ((fresh ()).run narrowSite (oneCaller ++ blockedSends)).TakesNoFrame narrowSite 0
      [.sweep [⟨0, 1⟩]] := by
    intro before after channel hactions
    have hmem : Action.read 0 .inbound ∈ [Action.sweep [⟨0, 1⟩]] := by simp [hactions]
    simp at hmem
  have hthorough : ((fresh ()).run narrowSite (oneCaller ++ blockedSends)).Thorough narrowSite
      [.sweep [⟨0, 1⟩]] := by
    intro before action after ids hactions hswept
    obtain ⟨rfl, rfl, -⟩ : before = [] ∧ action = .sweep [⟨0, 1⟩] ∧ after = [] := by
      cases before with
      | nil => simpa [eq_comm] using hactions
      | cons => simp at hactions
    cases hswept
    have hstart (start : History Unit) : start.run narrowSite [] = start := rfl
    rw [hstart, hregistry]
  have hexpired := h narrowSite (oneCaller ++ blockedSends) [.sweep [⟨0, 1⟩]] 0 ⟨0, 1⟩ hconfig
    hbegun hquiet hthorough hslot hstate hreports
  rw [hkept] at hexpired
  cases hexpired

end Server

end SocketGate
