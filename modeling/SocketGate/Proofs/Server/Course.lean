import SocketGate.Proofs.Channel.Timer
import SocketGate.Proofs.Server.History

/-!
# `SocketGate.Proofs.Server.Course`: the channels of a server in the course of time

`Move` and `Moves` say what happens to a server, but not when. `Leads` adds the clock: every
channel goes on by actions up to the time of the server, and a channel whose peer does nothing
goes on without it. Sweeps expire open sessions only.

* `Server.History.run_leads`: any actions on a server lead its channels on.
* `Server.attended_of_actions`: every channel of a server is attended, and its reader has been
  started.
-/

set_option autoImplicit false

namespace SocketGate

open Http (Request)

namespace Server

open Channel (Attended Evolves ofTransport)

variable {σ : Type}

/-! ### Channels in their slots -/

theorem channel?_live {server : Server σ} {slot service : Nat} {channel : Channel}
    (hlive : server.connections[slot]? = some (.live service channel)) :
    server.channel? slot = some channel :=
  (server.channel?_eq_some_iff slot channel).mpr ⟨service, hlive⟩

/-- A channel that is put into a slot is found there. -/
theorem channel?_set {server next : Server σ} {slot service : Nat} {channel : Channel}
    (hconnections : next.connections = server.connections.set slot (.live service channel))
    (inRange : slot < server.connections.length) : next.channel? slot = some channel :=
  channel?_live (by rw [hconnections, List.getElem?_set_self inRange])

/-- The other slots stay as they are. -/
theorem channel?_set_ne {server next : Server σ} {slot slot' : Nat} {connection : Connection}
    (hconnections : next.connections = server.connections.set slot connection)
    (hne : slot' ≠ slot) : next.channel? slot' = server.channel? slot' :=
  channel?_congr (by rw [hconnections, List.getElem?_set_ne hne.symm])

/-- A channel that is changed is found in its slot. -/
theorem channel?_modifyChannel {server : Server σ} {slot : Nat} {channel : Channel}
    (f : Channel → Channel) (h : server.channel? slot = some channel) :
    (server.modifyChannel slot f).channel? slot = some (f channel) := by
  obtain ⟨service, hlive⟩ := (server.channel?_eq_some_iff slot channel).mp h
  rw [server.modifyChannel_eq slot service f channel hlive]
  exact channel?_set rfl (List.getElem?_eq_some_iff.mp hlive).1

/-! ### Time passes -/

/-- From `server` to `next` the clock does not go back, every channel evolves, with steps of its
peer only in a slot that is `touched`, and every new channel is attended and started. -/
structure Leads (site : Site σ) (touched : Nat → Prop) (server next : Server σ) : Prop where
  clock : server.now.time ≤ next.now.time
  live : ∀ slot channel, server.channel? slot = some channel →
    ∃ channel', next.channel? slot = some channel' ∧
      Evolves next.now.time (touched slot) channel channel'
  begun : ∀ slot channel, server.channel? slot = none → next.channel? slot = some channel →
    Attended site.config.limits.closeTimeout next.now.time channel ∧ channel.reader ≠ .created

namespace Leads

variable {site : Site σ} {touched : Nat → Prop} {server middle next : Server σ}

/-- No channel changes. -/
theorem rest (hchannels : ∀ slot, next.channel? slot = server.channel? slot)
    (hclock : server.now.time ≤ next.now.time) : Leads site touched server next where
  clock := hclock
  live slot channel hlive := ⟨channel, (hchannels slot).trans hlive, .refl⟩
  begun slot channel hnone hlive := by simp [hchannels, hnone] at hlive

theorem refl (server : Server σ) : Leads site touched server server :=
  .rest (fun _ => rfl) (Nat.le_refl _)

/-- The connections are the same. -/
theorem of_connections (hconnections : next.connections = server.connections)
    (hclock : server.now.time ≤ next.now.time) : Leads site touched server next :=
  .rest (fun _ => channel?_congr (by rw [hconnections])) hclock

theorem trans (h : Leads site touched server middle) (h' : Leads site touched middle next) :
    Leads site touched server next where
  clock := Nat.le_trans h.clock h'.clock
  live slot channel hlive := by
    obtain ⟨channel', hmiddle, hfirst⟩ := h.live slot channel hlive
    obtain ⟨channel'', hnext, hrest⟩ := h'.live slot channel' hmiddle
    exact ⟨channel'', hnext, (hfirst.mono h'.clock).trans hrest⟩
  begun slot channel hnone hlive := by
    cases hmiddle : middle.channel? slot with
    | none => exact h'.begun slot channel hmiddle hlive
    | some channel' =>
      -- The channel began in the first part and went on in the second.
      obtain ⟨hattended, hstarted⟩ := h.begun slot channel' hnone hmiddle
      obtain ⟨channel'', hnext, hevolves⟩ := h'.live slot channel' hmiddle
      obtain rfl : channel'' = channel := Option.some.inj (hnext.symm.trans hlive)
      exact ⟨hattended.evolves h'.clock hevolves,
        (Channel.started_evolves hattended.intact.sound hstarted hevolves).2⟩

end Leads

variable (site : Site σ) (touched : Nat → Prop)

/-! ### The application -/

/-- The channel in a slot acts. -/
theorem act_leads {server : Server σ} {slot service : Nat} {channel : Channel}
    (action : Channel.Action) (hlive : server.connections[slot]? = some (.live service channel))
    (htimely : action.Timely server.now.time channel) (hpeer : action.isPeer → touched slot) :
    Leads site touched server
      (server.setConnection slot (.live service (channel.after action))) where
  clock := Nat.le_refl _
  live slot' channel' hlive' := by
    by_cases hslot : slot' = slot
    · subst hslot
      obtain rfl : channel = channel' :=
        Option.some.inj ((channel?_live hlive).symm.trans hlive')
      exact ⟨channel.after action, channel?_set rfl (List.getElem?_eq_some_iff.mp hlive).1,
        .single action htimely hpeer⟩
    · exact ⟨channel', (channel?_set_ne rfl hslot).trans hlive', .refl⟩
  begun slot' channel' hnone hlive' := by
    have hslot : slot' ≠ slot := by
      rintro rfl
      simp [channel?_live hlive] at hnone
    rw [channel?_set_ne rfl hslot, hnone] at hlive'
    cases hlive'

/-- The channel in a slot acts, if there is one. -/
theorem modifyChannel_leads (server : Server σ) (slot : Nat) (f : Channel → Channel)
    (action : Channel.Action) (hafter : ∀ channel : Channel, f channel = channel.after action)
    (htimely : ∀ channel, server.channel? slot = some channel →
      action.Timely server.now.time channel)
    (hpeer : action.isPeer → touched slot) :
    Leads site touched server (server.modifyChannel slot f) := by
  cases hconnection : server.connections[slot]? with
  | none =>
    refine .of_connections ?_ (Nat.le_refl _)
    show server.connections.modify slot _ = server.connections
    rw [List.modify_eq_set_getElem?, hconnection]
    rfl
  | some connection =>
    cases connection with
    | live service channel =>
      rw [server.modifyChannel_eq slot service f channel hconnection, hafter]
      exact act_leads site touched action hconnection
        (htimely channel (server.channel?_of_connection slot _ hconnection)) hpeer
    | _ =>
      refine .of_connections ?_ (Nat.le_refl _)
      unfold modifyChannel
      rw [server.modifyConnection_eq slot _ _ hconnection]
      exact set_of_getElem? hconnection

/-- A call of the application. -/
theorem call_leads (server : Server σ) (slot : Nat) (request : Call) :
    Leads site touched server (server.call slot request).2 := by
  unfold call
  split
  · rename_i service channel hlive
    exact act_leads site touched (.call request) hlive trivial nofun
  · exact .refl server

/-- A script only calls sessions. -/
theorem execute_leads {α : Type} (script : Script α) (server : Server σ) :
    Leads site touched server (execute script server).2 := by
  induction script generalizing server with
  | done value => exact .refl server
  | call slot request next ih =>
    exact (call_leads site touched server slot request).trans
      (ih _ (server.call slot request).2)

/-- The application is told something, and reacts. -/
theorem deliver_leads (server : Server σ) (slot : Nat) (event : Event) :
    Leads site touched server (deliver site server slot event) := by
  unfold deliver
  split
  · rename_i service channel hlive
    dsimp only
    -- Writing the line and taking a session out of the registry leave the connections alone.
    refine .trans (.of_connections ?_ ?_) (.trans (execute_leads site touched _ _)
      (.of_connections rfl (Nat.le_refl _)))
    · cases event <;> rfl
    · cases event <;> exact Nat.le_refl _
  · exact .refl server

/-! ### Tasks -/

/-- A connection that is no channel is put in its place again, changed. -/
theorem setConnection_leads (server : Server σ) (slot : Nat) (connection : Connection)
    (before : server.channel? slot = none) (after : connection.channel? = none) :
    Leads site touched server (server.setConnection slot connection) :=
  .rest (channel?_answer before after rfl) (Nat.le_refl _)

/-- A session begins. The application may call it before its reader is started. -/
theorem begin_leads (server : Server σ) (slot : Nat) (transport : Transport) (request : Request)
    (service : Nat) (before : server.channel? slot = none)
    (inRange : slot < server.connections.length) :
    Leads site touched server (begin site server slot transport request service) := by
  unfold begin
  dsimp only
  generalize hchannel : ofTransport transport (site.newId (server.issued + 1)) request.path
    site.config.limits server.now.time = channel
  generalize hopen : ({ server with issued := server.issued + 1 }.setConnection slot
    (.live service channel.announce)).register (site.newId (server.issued + 1)) slot = registered
  have hconnections : registered.connections =
      server.connections.set slot (.live service channel.announce) := by rw [← hopen]; rfl
  have hnow : registered.now = server.now := by rw [← hopen]; rfl
  have hown : registered.channel? slot = some channel.announce :=
    channel?_set hconnections inRange
  have hattended : Attended site.config.limits.closeTimeout server.now.time channel.announce := by
    rw [← hchannel]
    exact (Channel.attended_ofTransport transport _ request.path site.config _ _).after .announce
      trivial
  have hdeliver := deliver_leads site touched registered slot .opened
  generalize deliver site registered slot .opened = announced at hdeliver ⊢
  have hall := hdeliver.trans (modifyChannel_leads site touched announced slot Channel.start .start
    (fun _ => rfl) (fun _ _ => trivial) nofun)
  have hclock : server.now.time ≤ (announced.modifyChannel slot Channel.start).now.time :=
    hnow ▸ hall.clock
  exact {
    clock := hclock
    live := fun slot' channel' hlive => by
      have hslot : slot' ≠ slot := by
        rintro rfl
        simp [before] at hlive
      exact hall.live slot' channel' ((channel?_set_ne hconnections hslot).trans hlive)
    begun := fun slot' channel' hnone hlive => by
      by_cases hslot : slot' = slot
      · subst hslot
        obtain ⟨last, hlast, hevolves⟩ := hall.live slot' _ hown
        obtain rfl : last = channel' := Option.some.inj (hlast.symm.trans hlive)
        refine ⟨hattended.evolves hclock hevolves, ?_⟩
        -- The last thing done to the new channel is that its reader is started.
        obtain ⟨told, htold, -⟩ := hdeliver.live slot' _ hown
        rw [channel?_modifyChannel Channel.start htold] at hlast
        rw [← Option.some.inj hlast]
        unfold Channel.start
        split
        · nofun
        · assumption
      · exact hall.begun slot' channel' ((channel?_set_ne hconnections hslot).trans hnone) hlive }

/-- The answer to a request has been written. -/
theorem finishReply_leads (server : Server σ) (slot : Nat) (transport : Transport)
    (reply : Reply) (before : server.channel? slot = none)
    (inRange : slot < server.connections.length) :
    Leads site touched server (finishReply site server slot transport reply) := by
  cases reply with
  | upgrade request service =>
    unfold finishReply
    dsimp only
    split
    · exact begin_leads site touched server slot transport request service before inRange
    · exact setConnection_leads site touched server slot _ before rfl
  | refusal refusal => exact setConnection_leads site touched server slot _ before rfl
  | page => exact setConnection_leads site touched server slot _ before rfl

variable {site}

/-- The answer to a request goes on. -/
theorem writeReply_leads {server next : Server σ} {slot : Nat} {transport : Transport}
    {reply : Reply} {unsent : Bytes}
    (h : writeReply site server slot transport reply unsent = some next)
    (before : server.channel? slot = none) (inRange : slot < server.connections.length) :
    Leads site touched server next := by
  unfold writeReply at h
  split at h
  · cases h
    exact finishReply_leads site touched server slot transport reply before inRange
  · split at h
    · cases h
    · split at h
      · cases h
        refine setConnection_leads site touched server slot _ before ?_
        cases reply <;> rfl
      · cases h
        exact setConnection_leads site touched server slot _ before rfl

/-- The reader of a channel goes on. -/
theorem readChannel_leads {server next : Server σ} {slot service : Nat} {channel : Channel}
    {wakeup : Wakeup} (h : readChannel site server slot service channel wakeup = some next)
    (hlive : server.connections[slot]? = some (.live service channel)) :
    Leads site touched server next := by
  have hact := act_leads site touched (.read server.now wakeup) hlive (Nat.le_refl _) nofun
  unfold readChannel at h
  split at h
  · cases h
  · rename_i after hread
    cases h
    rwa [Channel.after, Channel.outcome_of_read hread] at hact
  · rename_i after event hread
    cases h
    rw [Channel.after, Channel.outcome_of_read hread] at hact
    exact hact.trans (deliver_leads site touched _ slot event)

/-- A step of a task, except for the periodic sweep. -/
theorem perform_leads {server next : Server σ} {task : Task}
    (h : server.perform site task = some next) (htick : task ≠ .tick) :
    Leads site touched server next := by
  obtain ⟨done, hattempt, rfl⟩ := Option.map_eq_some_iff.mp h
  suffices hdone : Leads site touched server done from
    hdone.trans (.of_connections rfl (Nat.le_refl _))
  unfold attempt at hattempt
  cases task with
  | head slot =>
    dsimp only at hattempt
    split at hattempt
    · rename_i transport hconnection
      obtain ⟨connection, hread, rfl⟩ := Option.map_eq_some_iff.mp hattempt
      exact setConnection_leads site touched server slot connection
        (server.channel?_of_connection slot _ hconnection)
        (channel?_readHead site transport connection hread)
    · cases hattempt
  | reply slot =>
    dsimp only at hattempt
    split at hattempt
    · rename_i hconnection
      exact writeReply_leads touched hattempt (server.channel?_of_connection slot _ hconnection)
        (List.getElem?_eq_some_iff.mp hconnection).1
    · cases hattempt
  | read slot wakeup =>
    dsimp only at hattempt
    split at hattempt
    · rename_i hlive
      exact readChannel_leads touched hattempt hlive
    · cases hattempt
  | write slot =>
    dsimp only at hattempt
    split at hattempt
    · rename_i service channel hlive
      obtain ⟨after, hwrite, rfl⟩ := Option.map_eq_some_iff.mp hattempt
      have hact := act_leads site touched (.write server.now) hlive (Nat.le_refl _) nofun
      have hafter : channel.after (.write server.now) = after := by
        show (channel.write server.now).getD channel = after
        rw [hwrite]
        rfl
      rwa [hafter] at hact
    · cases hattempt
  | tick => exact absurd rfl htick

/-! ### Sweeps -/

/-- A sweep comes to one session. It expires the session only if it is open. -/
theorem visit_leads (number : UInt64) (server : Server σ) (report : SweepReport)
    (id : SessionId) :
    Leads site touched server
      (visit site.config (Bytes.ofNatBE 8 number.toNat) (server, report) id).1 := by
  unfold visit
  dsimp only
  split
  · exact .refl server
  · rename_i slot hslot
    split
    · exact .refl server
    · rename_i channel hchannel
      split
      · exact .refl server
      · rename_i hopened
        split
        · have hderegister : Leads site touched server (server.deregister id) :=
            .of_connections rfl (Nat.le_refl _)
          refine hderegister.trans (modifyChannel_leads site touched (server.deregister id) slot _
            .expire (fun _ => rfl) (fun channel' hchannel' => ?_) nofun)
          obtain rfl : channel = channel' := Option.some.inj (hchannel.symm.trans hchannel')
          exact not_not.mp hopened
        · obtain ⟨service, hlive⟩ := (server.channel?_eq_some_iff slot channel).mp hchannel
          dsimp only
          rw [server.modifyChannel_eq slot service _ channel hlive]
          exact act_leads site touched (.keepalive number) hlive trivial nofun

/-- Visits one after the other. -/
theorem visits_leads (number : UInt64) (ids : List SessionId) (server : Server σ)
    (report : SweepReport) :
    Leads site touched server
      (ids.foldl (visit site.config (Bytes.ofNatBE 8 number.toNat)) (server, report)).1 := by
  induction ids generalizing server report with
  | nil => exact .refl server
  | cons id ids ih => exact (visit_leads touched number server report id).trans (ih _ _)

/-- A sweep. -/
theorem sweepOver_leads (server : Server σ) (ids : List SessionId) :
    Leads site touched server (sweepOver site.config server ids).1 := by
  have hcount : Leads site touched server { server with sweeps := server.sweeps + 1 } :=
    .of_connections rfl (Nat.le_refl _)
  exact hcount.trans (visits_leads touched (server.sweeps + 1) ids _ {})

/-! ### Runs -/

variable (site)

namespace History

/-- A task that is tried. -/
theorem perform_leads (history : History σ) (task : Task) (htick : task ≠ .tick) :
    Leads site touched history.server (history.perform site task).server := by
  unfold perform
  cases hperform : history.server.perform site task with
  | none => exact .refl _
  | some next => exact Server.perform_leads touched hperform htick

/-- An action leads the channels on. Only a step of its peer touches a slot. -/
theorem act_leads (history : History σ) (action : Action)
    (htouched : ∀ slot step, action = .peer slot step → touched slot) :
    Leads site touched history.server (history.act site action).server := by
  cases action with
  | connect transport => exact .rest (channel?_connect rfl) (Nat.le_refl _)
  | peer slot step =>
    show Leads site touched history.server (history.server.applyPeer slot step)
    unfold applyPeer
    cases hconnection : history.server.connections[slot]? with
    | none =>
      refine .of_connections ?_ (Nat.le_refl _)
      show history.server.connections.modify slot _ = _
      rw [List.modify_eq_set_getElem?, hconnection]
      rfl
    | some connection =>
      rw [history.server.modifyConnection_eq slot _ connection hconnection]
      cases connection with
      | live service channel =>
        exact Server.act_leads site touched (.peer step) hconnection trivial
          fun _ => htouched slot step rfl
      | _ =>
        exact setConnection_leads site touched history.server slot _
          (history.server.channel?_of_connection slot _ hconnection) rfl
  | call slot request => exact call_leads site touched history.server slot request
  | sweep ids => exact sweepOver_leads touched history.server ids
  | tick ids =>
    unfold act
    dsimp only
    split
    · exact .refl _
    · rename_i server report htick
      unfold tickOver at htick
      split at htick
      · cases htick
      · split at htick
        · obtain ⟨rfl, rfl⟩ := Prod.mk.inj (Option.some.inj htick)
          exact (sweepOver_leads touched history.server ids).trans
            (.of_connections rfl (Nat.le_refl _))
        · cases htick
  | start =>
    show Leads site touched history.server (history.server.start site)
    unfold start
    split
    · exact .refl _
    · exact .of_connections rfl (Nat.le_refl _)
  | stop => exact .of_connections rfl (Nat.le_refl _)
  | wait milliseconds => exact .of_connections rfl (Nat.le_add_right _ milliseconds)
  | head slot => exact history.perform_leads site touched (.head slot) nofun
  | reply slot => exact history.perform_leads site touched (.reply slot) nofun
  | read slot wakeup => exact history.perform_leads site touched (.read slot wakeup) nofun
  | write slot => exact history.perform_leads site touched (.write slot) nofun

/-- Any actions lead the channels on. -/
theorem run_leads (history : History σ) (actions : List Action)
    (htouched : ∀ slot step, .peer slot step ∈ actions → touched slot) :
    Leads site touched history.server (history.run site actions).server := by
  induction actions generalizing history with
  | nil => exact .refl _
  | cons action actions ih =>
    have hfirst := history.act_leads site touched action fun slot step heq =>
      htouched slot step (heq ▸ List.mem_cons_self)
    exact hfirst.trans (ih (history.act site action) fun slot step hmem =>
      htouched slot step (List.mem_cons_of_mem _ hmem))

end History

/-- Every channel of a server is attended, and its reader has been started. -/
theorem attended_of_actions (services : σ) (actions : List Action) (slot : Nat)
    (channel : Channel) :
    let server := ((fresh services).run site actions).server
    server.channel? slot = some channel →
      Attended site.config.limits.closeTimeout server.now.time channel ∧
        channel.reader ≠ .created := by
  intro server hlive
  have hleads := (fresh services).run_leads site (fun _ => True) actions fun _ _ _ => trivial
  exact hleads.begun slot channel rfl hlive

end Server

end SocketGate
