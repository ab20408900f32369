import SocketGate.Proofs.Server.Move
import SocketGate.Server.Clock

/-!
# `SocketGate.Proofs.Server.History`: servers under any sequence of actions

`Server.Action` lists everything that is ever done to a server: peers connect and act, the
application calls sessions, time passes, the tasks of the connections go on, and sweeps are
made, by hand or when they are due. An action that is not ready changes nothing, and a sweep
may go through the registry in any order. So a list of actions is a run, in any order of
tasks. A `Server.History` is a server with the reports of all sweeps so far.

* `Server.History.act_moves`: an action is a sequence of changes, and the sessions that these
  expire are those in the reports that it adds.
* `Server.Runs.settle`, `Server.Runs.advance`: the schedule of `SocketGate.Server.Schedule`
  and the passing of time in `SocketGate.Server.Clock` are such runs.
-/

set_option autoImplicit false

namespace SocketGate.Server

variable {σ : Type}

/-! ### Actions and runs -/

/-- Something that is done to a server. -/
inductive Action where
  /-- A peer connects. -/
  | connect (transport : Transport)
  /-- A peer or the network does something to a connection. -/
  | peer (slot : Nat) (step : PeerStep)
  /-- The application calls a session. -/
  | call (slot : Nat) (request : Call)
  /-- A sweep is made over these sessions, in this order. -/
  | sweep (ids : List SessionId)
  /-- If the periodic sweep is due, it is made over these sessions, in this order. -/
  | tick (ids : List SessionId)
  /-- The periodic sweep is turned on. -/
  | start
  /-- The periodic sweep is turned off. -/
  | stop
  /-- Time passes. -/
  | wait (milliseconds : Nat)
  /-- A connection reads its request head. -/
  | head (slot : Nat)
  /-- A connection answers its request. -/
  | reply (slot : Nat)
  /-- The reader of a channel goes on. -/
  | read (slot : Nat) (wakeup : Wakeup)
  /-- The writer of a channel goes on. -/
  | write (slot : Nat)

/-- A server and the reports of its sweeps, first one first. -/
structure History (σ : Type) where
  server : Server σ
  reports : List SweepReport := []

namespace History

/-- The history when a task has been tried. -/
def perform (site : Site σ) (history : History σ) (task : Task) : History σ :=
  { history with server := (history.server.perform site task).getD history.server }

/-- The history after an action. -/
def act (site : Site σ) (history : History σ) : Action → History σ
  | .connect transport => { history with server := history.server.connect transport }
  | .peer slot step => { history with server := history.server.applyPeer slot step }
  | .call slot request => { history with server := (history.server.call slot request).2 }
  | .sweep ids =>
    let (server, report) := history.server.sweepOver site.config ids
    { server, reports := history.reports ++ [report] }
  | .tick ids =>
    match history.server.tickOver site ids with
    | none => history
    | some (server, report) =>
      { server := { server with now := server.now.next }, reports := history.reports ++ [report] }
  | .start => { history with server := history.server.start site }
  | .stop => { history with server := history.server.stop }
  | .wait milliseconds =>
    { history with
      server := { history.server with now := history.server.now.later milliseconds } }
  | .head slot => history.perform site (.head slot)
  | .reply slot => history.perform site (.reply slot)
  | .read slot wakeup => history.perform site (.read slot wakeup)
  | .write slot => history.perform site (.write slot)

/-- The history after some actions. -/
def run (site : Site σ) (history : History σ) (actions : List Action) : History σ :=
  actions.foldl (act site) history

theorem run_append (site : Site σ) (history : History σ) (before after : List Action) :
    history.run site (before ++ after) = (history.run site before).run site after :=
  List.foldl_append

/-- The sessions that any sweep has reported as expired. -/
def expired (history : History σ) : List SessionId :=
  history.reports.flatMap (·.expired)

end History

/-- The history of a server that nothing has been done to. -/
def fresh (services : σ) : History σ where
  server := { services }

/-! ### Actions are changes -/

namespace History

/-- A task that is tried makes changes that expire nobody. -/
theorem perform_moves (site : Site σ) (history : History σ) (task : Task) (htick : task ≠ .tick) :
    Moves site history.server (history.perform site task).server [] := by
  unfold perform
  cases hperform : history.server.perform site task with
  | none => exact .nil _
  | some next =>
    obtain ⟨middle, hattempt, rfl⟩ := Option.map_eq_some_iff.mp hperform
    exact (attempt_moves hattempt htick).quiet (.single (.rest rfl rfl rfl))

/-- A step of the peer. -/
theorem applyPeer_moves (site : Site σ) (server : Server σ) (slot : Nat) (step : PeerStep) :
    Moves site server (server.applyPeer slot step) [] := by
  unfold applyPeer
  cases hconnection : server.connections[slot]? with
  | none =>
    refine .single (.rest ?_ rfl rfl)
    show server.connections.modify slot _ = server.connections
    rw [List.modify_eq_set_getElem?, hconnection]
    rfl
  | some connection =>
    have hchannel := server.channel?_of_connection slot connection hconnection
    rw [server.modifyConnection_eq slot _ connection hconnection]
    cases connection with
    | live service channel =>
      exact .single (.act slot service channel (.peer step) hconnection rfl rfl rfl rfl)
    | _ => exact setConnection_moves site server slot _ hchannel rfl

/-- What an action does to the server, and what it adds to the reports: at most one report,
of the sessions that are expired. Whoever is reported as sent a ping was registered. -/
theorem act_moves (site : Site σ) (history : History σ) (action : Action) :
    ∃ reports : List SweepReport, (history.act site action).reports = history.reports ++ reports ∧
      Moves site history.server (history.act site action).server (reports.flatMap (·.expired)) ∧
      reports.length ≤ 1 ∧
      ∀ report ∈ reports, ∀ id ∈ report.pinged, id ∈ history.server.registry.map (·.1) := by
  -- Most actions add no report.
  have hquiet : ∀ next : History σ, next.reports = history.reports →
      Moves site history.server next.server [] →
      ∃ reports : List SweepReport, next.reports = history.reports ++ reports ∧
        Moves site history.server next.server (reports.flatMap (·.expired)) ∧
        reports.length ≤ 1 ∧
        ∀ report ∈ reports, ∀ id ∈ report.pinged, id ∈ history.server.registry.map (·.1) :=
    fun next hreports hmoves =>
      ⟨[], by rw [hreports, List.append_nil], hmoves, Nat.zero_le _, by simp⟩
  -- A sweep adds one, whether it is made by hand or because it is due.
  have hswept : ∀ (next : Server σ) (report : SweepReport) (ids : List SessionId),
      report = (history.server.sweepOver site.config ids).2 →
      Moves site (history.server.sweepOver site.config ids).1 next [] →
      ∃ reports : List SweepReport, history.reports ++ [report] = history.reports ++ reports ∧
        Moves site history.server next (reports.flatMap (·.expired)) ∧
        reports.length ≤ 1 ∧
        ∀ report ∈ reports, ∀ id ∈ report.pinged, id ∈ history.server.registry.map (·.1) := by
    rintro next report ids rfl hmoves
    obtain ⟨hsweep, hpinged⟩ := sweepOver_moves site history.server ids
    refine ⟨[_], rfl, ?_, Nat.le_refl _, by simpa using hpinged⟩
    rw [List.flatMap_singleton, ← List.append_nil (SweepReport.expired _)]
    exact hsweep.trans hmoves
  cases action with
  | connect transport => exact hquiet _ rfl (.single (.connect transport rfl rfl rfl))
  | peer slot step => exact hquiet _ rfl (applyPeer_moves site history.server slot step)
  | call slot request => exact hquiet _ rfl (call_moves site history.server slot request)
  | sweep ids => exact hswept _ _ ids rfl (.nil _)
  | tick ids =>
    unfold act
    dsimp only
    split
    · exact hquiet history rfl (.nil _)
    · rename_i server report htick
      unfold tickOver at htick
      split at htick
      · cases htick
      · split at htick
        · obtain ⟨rfl, rfl⟩ := Prod.mk.inj (Option.some.inj htick)
          exact hswept _ _ ids rfl (.single (.rest rfl rfl rfl))
        · cases htick
  | start =>
    refine hquiet _ rfl (.single ?_)
    show Move site history.server (history.server.start site) none
    unfold start
    split <;> exact .rest rfl rfl rfl
  | stop => exact hquiet _ rfl (.single (.rest rfl rfl rfl))
  | wait milliseconds => exact hquiet _ rfl (.single (.rest rfl rfl rfl))
  | head slot => exact hquiet _ rfl (history.perform_moves site (.head slot) nofun)
  | reply slot => exact hquiet _ rfl (history.perform_moves site (.reply slot) nofun)
  | read slot wakeup => exact hquiet _ rfl (history.perform_moves site (.read slot wakeup) nofun)
  | write slot => exact hquiet _ rfl (history.perform_moves site (.write slot) nofun)

/-- Any actions are changes, and the sessions that these expire are those in the reports. -/
theorem run_moves (site : Site σ) (history : History σ) (actions : List Action) :
    ∃ ids, (history.run site actions).expired = history.expired ++ ids ∧
      Moves site history.server (history.run site actions).server ids := by
  induction actions generalizing history with
  | nil => exact ⟨[], (List.append_nil _).symm, .nil _⟩
  | cons action actions ih =>
    obtain ⟨reports, hreports, hmoves, -, -⟩ := history.act_moves site action
    obtain ⟨ids, hids, hmoves'⟩ := ih (history.act site action)
    have hexpired : (history.act site action).expired =
        history.expired ++ reports.flatMap (·.expired) := by
      rw [expired, hreports, List.flatMap_append]
      rfl
    refine ⟨reports.flatMap (·.expired) ++ ids, ?_, hmoves.trans hmoves'⟩
    rw [← List.append_assoc, ← hexpired]
    exact hids

end History

/-! ### The schedule -/

/-- The server `next` comes out of `server` by some actions. -/
def Runs (site : Site σ) (server next : Server σ) : Prop :=
  ∀ reports, ∃ actions, ((⟨server, reports⟩ : History σ).run site actions).server = next

namespace Runs

variable {site : Site σ} {server middle next : Server σ}

theorem refl (site : Site σ) (server : Server σ) : Runs site server server :=
  fun _ => ⟨[], rfl⟩

theorem trans (h : Runs site server middle) (h' : Runs site middle next) :
    Runs site server next := by
  intro reports
  obtain ⟨first, hfirst⟩ := h reports
  obtain ⟨rest, hrest⟩ := h' ((⟨server, reports⟩ : History σ).run site first).reports
  refine ⟨first ++ rest, ?_⟩
  rw [History.run_append, ← hrest, ← hfirst]

/-- A step of a task. -/
theorem perform {task : Task} (h : server.perform site task = some next) :
    Runs site server next := by
  intro reports
  have htry : ((⟨server, reports⟩ : History σ).perform site task).server = next := by
    show (server.perform site task).getD server = next
    rw [h]
    rfl
  cases task with
  | head slot => exact ⟨[.head slot], htry⟩
  | reply slot => exact ⟨[.reply slot], htry⟩
  | read slot wakeup => exact ⟨[.read slot wakeup], htry⟩
  | write slot => exact ⟨[.write slot], htry⟩
  | tick =>
    -- The task goes through the registry in its own order.
    refine ⟨[.tick (server.registry.map (·.1))], ?_⟩
    obtain ⟨swept, hattempt, rfl⟩ := Option.map_eq_some_iff.mp h
    obtain ⟨⟨ticked, report⟩, htick, rfl⟩ := Option.map_eq_some_iff.mp hattempt
    show (History.act site ⟨server, reports⟩ (.tick _)).server = _
    simp only [History.act, htick]

/-- A turn of an activity. -/
theorem proceed (site : Site σ) (activity : Activity) (fuel : Nat) (server : Server σ) :
    Runs site server (Server.proceed site activity fuel server) := by
  induction fuel generalizing server with
  | zero => exact .refl site server
  | succ fuel ih =>
    unfold Server.proceed
    split
    · exact .refl site server
    · rename_i next hnext
      obtain ⟨task, -, hperform⟩ := List.exists_of_findSome?_eq_some hnext
      exact (Runs.perform hperform).trans (ih next)

/-- The turns of the activities in a queue. -/
theorem serveQueue (site : Site σ) (fuel : Nat) (queue : List Activity) (server : Server σ) :
    Runs site server (Server.serveQueue site fuel queue server) := by
  induction fuel generalizing queue server with
  | zero => exact .refl site server
  | succ fuel ih =>
    cases queue with
    | nil => exact .refl site server
    | cons activity queue =>
      exact (Runs.proceed site activity _ server).trans (ih _ _)

/-- Turns until nobody can go on. -/
theorem settle (site : Site σ) (server : Server σ) : Runs site server (server.settle site) :=
  .serveQueue site _ _ server

/-- The passing of time. -/
theorem elapse (site : Site σ) (server : Server σ) (milliseconds : Nat) :
    Runs site server (server.elapse site milliseconds) := by
  have hwait : Runs site server { server with now := server.now.later milliseconds } :=
    fun _ => ⟨[.wait milliseconds], rfl⟩
  unfold Server.elapse
  dsimp only
  split
  · exact hwait
  · exact hwait.trans (.serveQueue site _ _ _)

/-- The passing of time in steps of one millisecond. -/
theorem advance (site : Site σ) (server : Server σ) (milliseconds : Nat) :
    Runs site server (server.advance site milliseconds) := by
  induction milliseconds generalizing server with
  | zero => exact .refl site server
  | succ milliseconds ih => exact (Runs.elapse site server 1).trans (ih _)

end Runs

end SocketGate.Server
