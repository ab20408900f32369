import SocketGate.Proofs.Server.Course
import SocketGate.Proofs.Server.Registry

/-!
# `SocketGate.Proofs.Server.Timers`: what ends a session that is closing

A server has settled when no task can go on. A session that is then closing waits for one of
two things: for a timer of its writer, or for a peer that does not take the frame that the
writer is in the middle of. The timer ends the session. Nothing but the peer ends the wait for
a frame: no timer is set before the close frame is written, and a sweep passes over every
session that is not open.

* `Server.settled_iff`: the schedule stops exactly when the server has settled.
* `Server.mem_timers_iff`: the timers of a server are those of its sweeper and its channels.
* `Server.closing_of_settled`: the two things that a closing session waits for, and what comes
  of them.
* `Server.not_timed_of_settled`: a session that waits without a timer.
-/

set_option autoImplicit false

namespace SocketGate

/-- The slot that a task is about, if it is about one. -/
def Task.slot? : Task → Option Nat
  | .head slot | .reply slot | .read slot _ | .write slot => some slot
  | .tick => none

namespace Server

open Channel (Attended Rests Stuck)

variable {σ : Type}

/-! ### Settled servers -/

/-- No task can go on. -/
def Settled (site : Site σ) (server : Server σ) : Prop :=
  ∀ task, server.perform site task = none

/-- A task of a slot without a connection cannot go on. -/
theorem perform_eq_none {site : Site σ} {server : Server σ} {slot : Nat}
    (h : server.connections.length ≤ slot) :
    server.perform site (.head slot) = none ∧ server.perform site (.reply slot) = none ∧
      (∀ wakeup, server.perform site (.read slot wakeup) = none) ∧
      server.perform site (.write slot) = none := by
  have hnone : server.connections[slot]? = none := List.getElem?_eq_none h
  simp [perform, attempt, hnone]

/-- A server has settled exactly when the schedule has nobody to give a turn to. -/
theorem settled_iff (site : Site σ) (server : Server σ) :
    Settled site server ↔ server.ready site = [] := by
  unfold ready
  rw [List.filter_eq_nil_iff]
  constructor
  · intro h activity _
    have hnone : server.next? site activity = none :=
      List.findSome?_eq_none_iff.mpr fun task _ => h task
    simp [hnone]
  · intro h
    -- An activity of a slot in range has had its chance, and of its tasks every one.
    have htask (activity : Activity) (hmem : activity ∈ server.activities) (task : Task)
        (htask : task ∈ activity.tasks) : server.perform site task = none := by
      have hnone : server.next? site activity = none := by simpa using h activity hmem
      exact List.findSome?_eq_none_iff.mp hnone task htask
    have hrange (slot : Nat) (hslot : slot < server.connections.length) :
        .writer slot ∈ server.activities ∧ .answerer slot ∈ server.activities ∧
          .reader slot ∈ server.activities := by
      simp [activities, hslot]
    intro task
    cases task with
    | tick => exact htask .sweeper (by simp [activities]) .tick (by simp [Activity.tasks])
    | head slot =>
      by_cases hslot : slot < server.connections.length
      · exact htask _ (hrange slot hslot).2.1 _ (by simp [Activity.tasks])
      · exact (perform_eq_none (Nat.le_of_not_lt hslot)).1
    | reply slot =>
      by_cases hslot : slot < server.connections.length
      · exact htask _ (hrange slot hslot).2.1 _ (by simp [Activity.tasks])
      · exact (perform_eq_none (Nat.le_of_not_lt hslot)).2.1
    | read slot wakeup =>
      by_cases hslot : slot < server.connections.length
      · refine htask _ (hrange slot hslot).2.2 _ ?_
        cases wakeup <;> simp [Activity.tasks, Wakeup.all]
      · exact (perform_eq_none (Nat.le_of_not_lt hslot)).2.2.1 wakeup
    | write slot =>
      by_cases hslot : slot < server.connections.length
      · exact htask _ (hrange slot hslot).1 _ (by simp [Activity.tasks])
      · exact (perform_eq_none (Nat.le_of_not_lt hslot)).2.2.2

/-- No task of the connection in a slot can go on. -/
def SettledAt (site : Site σ) (server : Server σ) (slot : Nat) : Prop :=
  ∀ task, task.slot? = some slot → server.perform site task = none

/-- A channel whose tasks cannot go on can only wait. -/
theorem SettledAt.rests {site : Site σ} {server : Server σ} {slot : Nat}
    (h : SettledAt site server slot) {channel : Channel}
    (hchannel : server.channel? slot = some channel) : channel.Rests server.now := by
  obtain ⟨service, hlive⟩ := (server.channel?_eq_some_iff slot channel).mp hchannel
  constructor
  · intro wakeup
    have hread := Option.map_eq_none_iff.mp (h (.read slot wakeup) rfl)
    simp only [attempt, hlive, readChannel] at hread
    split at hread
    · assumption
    · cases hread
    · cases hread
  · have hwrite := Option.map_eq_none_iff.mp (h (.write slot) rfl)
    simpa [attempt, hlive] using hwrite

/-- The channels of a settled server can only wait. -/
theorem Settled.rests {site : Site σ} {server : Server σ} (h : Settled site server) {slot : Nat}
    {channel : Channel} (hchannel : server.channel? slot = some channel) :
    channel.Rests server.now := by
  have hslot : SettledAt site server slot := fun task _ => h task
  exact hslot.rests hchannel

/-! ### Timers -/

/-- The timers of a server are those of its sweeper and its channels. -/
theorem mem_timers_iff (server : Server σ) (timer : Timer) :
    timer ∈ server.timers ↔ (∃ sweeper, server.sweeper = some sweeper ∧
        Timer.ofSweeper sweeper = timer) ∨
      ∃ slot channel, server.channel? slot = some channel ∧
        timer ∈ Timer.ofChannel slot channel := by
  unfold timers
  rw [List.mem_append]
  refine or_congr ?_ ?_
  · rw [Option.mem_toList, Option.map_eq_some_iff]
  · rw [List.mem_flatMap]
    constructor
    · rintro ⟨⟨connection, slot⟩, hmem, htimer⟩
      have hconnection := List.mem_zipIdx_iff_getElem?.mp hmem
      dsimp only at htimer hconnection
      cases hchannel : connection.channel? with
      | none => simp [hchannel] at htimer
      | some channel =>
        refine ⟨slot, channel, ?_, by simpa [hchannel] using htimer⟩
        rw [server.channel?_of_connection slot connection hconnection, hchannel]
    · rintro ⟨slot, channel, hchannel, htimer⟩
      obtain ⟨service, hlive⟩ := (server.channel?_eq_some_iff slot channel).mp hchannel
      refine ⟨(.live service channel, slot), List.mem_zipIdx_iff_getElem?.mpr hlive, ?_⟩
      simpa [Connection.channel?] using htimer

/-- A timer of a channel belongs to its slot. -/
theorem activity_of_mem_ofChannel {slot : Nat} {channel : Channel} {timer : Timer}
    (h : timer ∈ Timer.ofChannel slot channel) :
    timer.activity = .reader slot ∨ timer.activity = .writer slot := by
  rcases List.mem_append.mp h with hreader | hwriter
  · split at hreader
    · exact .inl (by rw [List.mem_singleton.mp hreader])
    · cases hreader
  · split at hwriter
    · exact .inr (by rw [List.mem_singleton.mp hwriter])
    · cases hwriter

/-- A channel that is stuck has no timer. -/
theorem activity_ne_of_stuck {server : Server σ} {slot : Nat} {channel : Channel}
    (hchannel : server.channel? slot = some channel) (h : channel.Stuck) {timer : Timer}
    (htimer : timer ∈ server.timers) :
    timer.activity ≠ .writer slot ∧ timer.activity ≠ .reader slot := by
  rcases (server.mem_timers_iff timer).mp htimer with
    ⟨sweeper, -, rfl⟩ | ⟨slot', channel', hlive, hmem⟩
  · exact ⟨nofun, nofun⟩
  · have hother : slot' ≠ slot := by
      rintro rfl
      obtain rfl : channel = channel' := Option.some.inj (hchannel.symm.trans hlive)
      obtain ⟨unsent, isClose, hwriter, -⟩ := h.sending
      simp [Timer.ofChannel, h.reading, hwriter] at hmem
    rcases activity_of_mem_ofChannel hmem with hreader | hwriter
    · rw [hreader]
      exact ⟨nofun, fun heq => hother (Activity.reader.inj heq)⟩
    · rw [hwriter]
      exact ⟨fun heq => hother (Activity.writer.inj heq), nofun⟩

/-! ### What ends a closing session -/

variable {site : Site σ}

/-- In a settled server the close of every session has been reported whose timer was set for
an earlier time. -/
theorem closed_of_timedBy {server later : Server σ} {slot deadline : Nat} {channel : Channel}
    {touched : Nat → Prop} (htraced : Traced site later)
    (hattended : Attended site.config.limits.closeTimeout server.now.time channel)
    (hstarted : channel.reader ≠ .created) (hchannel : server.channel? slot = some channel)
    (htimed : Channel.TimedBy deadline channel.writer) (hleads : Leads site touched server later)
    (hsettled : Settled site later) (hdue : deadline ≤ later.now.time) : later.Closed slot := by
  obtain ⟨last, hlast, hevolves⟩ := hleads.live slot channel hchannel
  have hsound := hattended.intact.sound
  have hfinished := Channel.finished_of_rests (hattended.evolves hleads.clock hevolves)
    (Channel.started_evolves hsound hstarted hevolves).2 (hsettled.rests hlast)
    (htimed.evolves hsound hevolves).2 hdue
  obtain ⟨service, hlive⟩ := (later.channel?_eq_some_iff slot last).mp hlast
  exact (htraced.closed_iff slot).mpr ⟨service, last, hlive, hfinished⟩

/-- A channel that is stuck stays so while its peer does nothing, and its close is not
reported. -/
theorem channel?_of_stuck {server later : Server σ} {slot : Nat} {channel : Channel}
    {touched : Nat → Prop} (htraced : Traced site later)
    (hchannel : server.channel? slot = some channel) (hstuck : channel.Stuck)
    (hleads : Leads site touched server later) (huntouched : ¬ touched slot) :
    later.channel? slot = some channel ∧ ¬ later.Closed slot := by
  obtain ⟨last, hlast, hevolves⟩ := hleads.live slot channel hchannel
  obtain rfl : last = channel := hstuck.eq_of_evolves (hevolves.mono_touched huntouched)
  refine ⟨hlast, fun hclosed => ?_⟩
  obtain ⟨service, channel', hlive, hfinished⟩ := (htraced.closed_iff slot).mp hclosed
  obtain rfl : last = channel' := Option.some.inj (hlast.symm.trans (channel?_live hlive))
  simp [hstuck.reading] at hfinished

/-- A session whose close has been reported is not in the registry, if no other session has
its id. -/
theorem not_mem_registry_of_closed {server : Server σ} {expired : List SessionId} {slot : Nat}
    {id : SessionId} (hexact : Exact server expired) (hdistinct : server.DistinctIds)
    (hid : server.idAt? slot = some id) (hclosed : server.Closed slot) :
    id ∉ server.registry.map (·.1) := by
  intro hmem
  obtain ⟨⟨other, slot'⟩, hentry, rfl⟩ := List.mem_map.mp hmem
  obtain ⟨hid', hopen, -⟩ := hexact.sound other slot' hentry
  obtain rfl : slot' = slot := hdistinct slot' slot other hid' hid
  exact hopen hclosed

/-- A session that is expired in some changes is cancelled in the end, or closed. -/
theorem cancelled_of_expired {server next : Server σ} {expired ids : List SessionId}
    (hexact : Exact server expired) (htraced : Traced site server)
    (hmoves : Moves site server next ids) (hdistinct : next.DistinctIds) :
    ∀ id ∈ ids, ∃ slot channel, next.idAt? slot = some id ∧ next.channel? slot = some channel ∧
      (channel.session.cancelled ∨ channel.session.state = .closed) := by
  induction hmoves generalizing expired with
  | nil => simp
  | @cons server middle next first rest move moves ih =>
    intro id hid
    have htraced' := htraced.move move
    rcases List.mem_append.mp hid with hfirst | hrest
    · cases move with
      | expire slot service channel _ registered before connections registry log =>
        obtain rfl : id = _ := by simpa using hfirst
        obtain ⟨hown, -, -⟩ := hexact.sound id slot (mem_of_slotOf? registered)
        have hmiddle : middle.connections[slot]? =
            some (.live service (channel.after .expire)) := by
          rw [connections, List.getElem?_set_self (List.getElem?_eq_some_iff.mp before).1]
        obtain ⟨actions, hnext, -⟩ := moves.follow hmiddle
        have hmoves : Moves site server next ([id] ++ rest) :=
          .cons (.expire slot service channel id registered before connections registry log) moves
        exact ⟨slot, _, idAt?_moves htraced hmoves hown, channel?_live hnext,
          channel.cancelled_run_expire (htraced.protocol before).1 actions⟩
      | _ => simp at hfirst
    · have hexact' := hexact.passage (distinct_moves htraced' moves hdistinct)
        (move.passage htraced)
      exact ih hexact' htraced' hdistinct id hrest

/-- A session that is neither cancelled nor closed stays in the registry. -/
theorem mem_registry_of_uncancelled {server next : Server σ} {expired ids : List SessionId}
    {slot : Nat} {channel : Channel} (hexact : Exact server expired)
    (htraced : Traced site server) (hmoves : Moves site server next ids)
    (hdistinct : next.DistinctIds) (hchannel : next.channel? slot = some channel)
    (hopen : ¬ next.Closed slot) (huncancelled : channel.session.cancelled = false)
    (halive : channel.session.state ≠ .closed)
    (hmem : channel.session.id ∈ server.registry.map (·.1)) :
    channel.session.id ∈ next.registry.map (·.1) := by
  have hid : next.idAt? slot = some channel.session.id := by
    rw [idAt?, hchannel]
    rfl
  obtain ⟨⟨other, slot'⟩, hentry, hother⟩ := List.mem_map.mp hmem
  dsimp only at hother
  rw [hother] at hentry
  obtain ⟨-, -, hbefore⟩ := hexact.sound _ slot' hentry
  have hlater : channel.session.id ∉ ids := by
    intro hexpired
    obtain ⟨slot'', channel', hid', hchannel', hgone⟩ :=
      cancelled_of_expired hexact htraced hmoves hdistinct _ hexpired
    -- The session is found in its own slot.
    obtain rfl : slot'' = slot := hdistinct slot'' slot _ hid' hid
    obtain rfl : channel' = channel := Option.some.inj (hchannel'.symm.trans hchannel)
    rcases hgone with hcancelled | hclosed
    · simp [huncancelled] at hcancelled
    · exact halive hclosed
  have hnot : channel.session.id ∉ expired ++ ids := by
    rw [List.mem_append, not_or]
    exact ⟨hbefore, hlater⟩
  exact List.mem_map_of_mem (f := (·.1))
    ((hexact.moves htraced hmoves hdistinct).complete _ slot hid hopen hnot)

/-- What a closing session waits for in a settled server, after any actions. Either of these
holds:

- the timer of its writer is set. It goes off after the limit on closing handshakes at most,
  and in every settled server from then on the close has been reported and the session has
  left the registry;
- its writer is stuck in the middle of a frame, and it has no timer. As long as its peer does
  nothing, the session stays as it is and in the registry, whatever else is done and however
  much time passes. -/
theorem closing_of_settled (site : Site σ) (services : σ) (actions : List Action)
    (hsettled : Settled site ((fresh services).run site actions).server) (slot : Nat)
    (channel : Channel)
    (hchannel : ((fresh services).run site actions).server.channel? slot = some channel)
    (hclosing : channel.session.state = .closing) :
    let history := (fresh services).run site actions
    let server := history.server
    (∃ timer ∈ server.timers, timer.activity = .writer slot ∧
      server.now.time < timer.deadline ∧
      timer.deadline ≤ server.now.time + site.config.limits.closeTimeout ∧
      ∀ more, let later := (history.run site more).server
        Settled site later → timer.deadline ≤ later.now.time → later.Closed slot ∧
          (later.DistinctIds → channel.session.id ∉ later.registry.map (·.1))) ∨
    (channel.Stuck ∧
      (∀ timer ∈ server.timers, timer.activity ≠ .writer slot ∧ timer.activity ≠ .reader slot) ∧
      ∀ more, (∀ step, .peer slot step ∉ more) →
        let later := (history.run site more).server
        later.channel? slot = some channel ∧ ¬ later.Closed slot ∧
          (later.DistinctIds → channel.session.id ∈ server.registry.map (·.1) →
            channel.session.id ∈ later.registry.map (·.1))) := by
  intro history server
  obtain ⟨hattended, hstarted⟩ := attended_of_actions site services actions slot channel hchannel
  have htraced : Traced site server := .run site services actions
  have hmoves (more : List Action) : ∃ ids, Moves site server (history.run site more).server ids :=
    (history.run_moves site more).imp fun ids h => h.2
  have hlater (more : List Action) : Traced site (history.run site more).server := by
    obtain ⟨ids, hids⟩ := hmoves more
    exact htraced.moves hids
  have hexact {later : Server σ} {ids : List SessionId} (h : Moves site server later ids)
      (hdistinct : later.DistinctIds) : Exact server history.expired :=
    ((Orderly.fresh site services).run actions (distinct_moves htraced h hdistinct)).exact
  obtain ⟨since, deadline, hwriter, hfuture, hlimit⟩ | hstuck :=
    Channel.timed_or_stuck hattended hstarted (hsettled.rests hchannel) hclosing
  · left
    refine ⟨⟨deadline, since, .writer slot⟩, ?_, rfl, hfuture, hlimit, fun more => ?_⟩
    · refine (server.mem_timers_iff _).mpr (.inr ⟨slot, channel, hchannel, ?_⟩)
      simp [Timer.ofChannel, hwriter]
    · intro later hrests hdue
      have hclosed : later.Closed slot := closed_of_timedBy (hlater more) hattended hstarted
        hchannel (hwriter ▸ .awaitingShutdown since)
        (history.run_leads site (fun _ => True) more fun _ _ _ => trivial) hrests hdue
      refine ⟨hclosed, fun hdistinct => ?_⟩
      obtain ⟨ids, hids⟩ := hmoves more
      have hid : server.idAt? slot = some channel.session.id := by
        rw [idAt?, hchannel]
        rfl
      exact not_mem_registry_of_closed ((hexact hids hdistinct).moves htraced hids hdistinct)
        hdistinct (idAt?_moves htraced hids hid) hclosed
  · right
    refine ⟨hstuck, fun timer htimer => activity_ne_of_stuck hchannel hstuck htimer, ?_⟩
    intro more hpeer later
    obtain ⟨hlast, hopen⟩ := channel?_of_stuck (hlater more) hchannel hstuck
      (history.run_leads site (fun other => other ≠ slot) more
        fun other step hmem heq => hpeer step (heq ▸ hmem)) fun hne => hne rfl
    refine ⟨hlast, hopen, fun hdistinct hmem => ?_⟩
    obtain ⟨ids, hids⟩ := hmoves more
    exact mem_registry_of_uncancelled (hexact hids hdistinct) htraced hids hdistinct hlast hopen
      hstuck.uncancelled (by simp [hclosing]) hmem

/-! ### Two sessions that are closing -/

/-- Time passes by some actions. -/
theorem History.exists_elapse (site : Site σ) (history : History σ) (milliseconds : Nat) :
    ∃ more, (history.run site more).server = history.server.elapse site milliseconds :=
  Runs.elapse site history.server milliseconds history.reports

/-- The application closes a session whose peer takes everything, and the close frame is
written. -/
def promptClose : List Action :=
  [.connect caller, .head 0, .reply 0, .reply 0, .call 0 (.close .normal "bye"),
    .write 0, .write 0, .write 0]

/-- The close frame is out, so the timer is set. When it has gone off, the close has been
reported. -/
theorem closing_of_settled_promptClose :
    Settled quietSite ((fresh ()).run quietSite promptClose).server ∧
      (((fresh ()).run quietSite promptClose).server.channel? 0).map (·.session.state) =
        some .closing ∧
      Settled quietSite (((fresh ()).run quietSite promptClose).server.elapse quietSite 5000) ∧
      (((fresh ()).run quietSite promptClose).server.elapse quietSite 5000).Closed 0 := by
  have hevaluated : ((fresh ()).run quietSite promptClose).server.ready quietSite = [] ∧
      (((fresh ()).run quietSite promptClose).server.channel? 0).map (·.session.state) =
        some .closing ∧
      ((fresh ()).run quietSite promptClose).server.now.time +
        quietSite.config.limits.closeTimeout = 5000 ∧
      ((fresh ()).run quietSite promptClose).server.timers.map (·.activity) = [.writer 0] ∧
      (((fresh ()).run quietSite promptClose).server.elapse quietSite 5000).ready quietSite = [] ∧
      (((fresh ()).run quietSite promptClose).server.elapse quietSite 5000).now.time = 5000 := by
    decide +kernel
  obtain ⟨hready, hstate, hlimit, htimers, hready', hnow⟩ := hevaluated
  have hsettled := (settled_iff quietSite _).mpr hready
  have hsettled' := (settled_iff quietSite _).mpr hready'
  refine ⟨hsettled, hstate, hsettled', ?_⟩
  -- The passing of time is a run, so the theorem is about it.
  obtain ⟨more, hmore⟩ := ((fresh ()).run quietSite promptClose).exists_elapse quietSite 5000
  rw [← hmore] at hsettled' hnow ⊢
  obtain ⟨channel, hchannel, hclosing⟩ := Option.map_eq_some_iff.mp hstate
  rcases closing_of_settled quietSite () promptClose hsettled 0 channel hchannel hclosing with
    ⟨timer, -, -, -, hdeadline, hends⟩ | ⟨-, hnone, -⟩
  · rw [hlimit] at hdeadline
    exact (hends more hsettled' (Nat.le_trans hdeadline (Nat.le_of_eq hnow.symm))).1
  · have hmem : Activity.writer 0 ∈
        ((fresh ()).run quietSite promptClose).server.timers.map (·.activity) := by
      rw [htimers]
      exact List.mem_singleton_self _
    obtain ⟨timer, htimer, hactivity⟩ := List.mem_map.mp hmem
    exact absurd hactivity (hnone timer htimer).1

/-- The application closes a session whose peer takes nothing any more, and the close frame
stays with the writer. -/
def blockedClose : List Action :=
  [.connect caller, .head 0, .reply 0, .reply 0, .peer 0 (.setWindow (some 0)),
    .call 0 (.close .normal "bye"), .write 0]

/-- A registered session may be closing without a timer, and then the time that a closing
handshake may take goes by without an end. -/
theorem not_timed_of_settled :
    ¬ ∀ actions : List Action,
      let server := ((fresh ()).run quietSite actions).server
      Settled quietSite server → ∀ slot channel, server.channel? slot = some channel →
        server.isRegistered channel.session.id → channel.session.state = .closing →
          (∃ timer ∈ server.timers, timer.activity = .writer slot ∨
            timer.activity = .reader slot) ∨
          (server.elapse quietSite quietSite.config.limits.closeTimeout).Closed slot := by
  intro h
  have hevaluated : let server := ((fresh ()).run quietSite blockedClose).server
      server.ready quietSite = [] ∧
      (server.channel? 0).map (fun channel => (channel.session.id, channel.session.state)) =
        some (⟨0, 1⟩, .closing) ∧
      server.isRegistered ⟨0, 1⟩ = true ∧ server.timers = [] ∧
      ((server.elapse quietSite quietSite.config.limits.closeTimeout).callbacks 0).all
        (fun told => !told.2.isClosed) := by
    decide +kernel
  obtain ⟨hready, hsession, hregistered, htimers, hsilent⟩ := hevaluated
  obtain ⟨channel, hchannel, hpair⟩ := Option.map_eq_some_iff.mp hsession
  obtain ⟨hid, hclosing⟩ := Prod.mk.inj hpair
  rcases h blockedClose ((settled_iff _ _).mpr hready) 0 channel hchannel (hid ▸ hregistered)
    hclosing with ⟨timer, htimer, -⟩ | ⟨state, reason, hmem⟩
  · simp [htimers] at htimer
  · have hopen := List.all_eq_true.mp hsilent _ hmem
    simp [Event.isClosed] at hopen

end Server

end SocketGate
