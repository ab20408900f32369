import SocketGate.Proofs.Server.Rounds

/-!
# `SocketGate.Proofs.Server.Tickers`: a server with a ticker has a patrol

A `Server` has one ticker for its periodic sweep, or none. That is how a patrol looks whose tasks
get their turns at once: the ticker is that of the task whose token is kept.

* `Server.sweepOver_sweeper`: a sweep does not look at the ticker.
* `Watch.follows_act`: every action of a server is made by a patrol that looks like it.
* `Server.exists_patrol`: so is every run, with the same sweeps at the same times.
-/

set_option autoImplicit false

namespace SocketGate

/-! ### Sweeps and tickers -/

namespace Server

variable {σ : Type}

/-- A sweep does not look at the ticker. -/
theorem visit_sweeper (config : Config) (payload : Bytes) (server : Server σ)
    (sweeper : Option Sweeper) (report : SweepReport) (id : SessionId) :
    visit config payload ({ server with sweeper }, report) id =
      let next := visit config payload (server, report) id
      ({ next.1 with sweeper }, next.2) := by
  unfold visit
  dsimp only
  rw [show ({ server with sweeper } : Server σ).slotOf? id = server.slotOf? id from rfl]
  cases server.slotOf? id with
  | none => rfl
  | some slot =>
    dsimp only
    rw [show ({ server with sweeper } : Server σ).channel? slot = server.channel? slot from rfl]
    cases server.channel? slot with
    | none => rfl
    | some channel =>
      dsimp only
      split_ifs <;> rfl

theorem sweepOver_sweeper (config : Config) (server : Server σ) (sweeper : Option Sweeper)
    (ids : List SessionId) :
    sweepOver config { server with sweeper } ids =
      let swept := sweepOver config server ids
      ({ swept.1 with sweeper }, swept.2) := by
  have hvisits (payload : Bytes) (pass : Server σ × SweepReport) :
      ids.foldl (visit config payload) ({ pass.1 with sweeper }, pass.2) =
        let swept := ids.foldl (visit config payload) pass
        ({ swept.1 with sweeper }, swept.2) := by
    induction ids generalizing pass with
    | nil => rfl
    | cons id ids ih =>
      rw [List.foldl_cons, visit_sweeper]
      exact ih _
  exact hvisits _ ({ server with sweeps := server.sweeps + 1 }, {})

namespace History

/-- An action that is about a slot takes no time and leaves the ticker alone. -/
theorem sameTime_of_slot (site : Site σ) (history : History σ) {action : Action} {slot : Nat}
    (h : action.slot? = some slot) : SameTime history.server (history.act site action).server := by
  cases hconnection : history.server.connections[slot]? with
  | none =>
    rw [history.act_of_nobody site h hconnection]
    exact .refl _
  | some connection =>
    obtain ⟨calls, hacts⟩ := history.act_acts site h hconnection
    exact hacts.sameTime

/-- What an action adds to the sweeps that are made because they are due. -/
def round? (site : Site σ) (history : History σ) : Action → Option (Nat × SweepReport)
  | .tick ids => (history.server.tickOver site ids).map fun (_, report) =>
    (history.server.now.time, report)
  | _ => none

/-- The sweeps that are made because they are due, with their times. -/
def rounds (site : Site σ) (history : History σ) : List Action → List (Nat × SweepReport)
  | [] => []
  | action :: actions =>
    (history.round? site action).toList ++ rounds site (history.act site action) actions

end History

end Server

/-! ### A patrol and its server -/

namespace Patrol

open Server (History)

variable {σ : Type}

/-- The ticker of the task whose token is kept is this one. -/
def Keeps (patrol : Patrol σ) : Option Sweeper → Prop
  | none => patrol.current = none
  | some sweeper => ∃ place, patrol.current = some place ∧
    patrol.tasks[place]? = some { stage := .ticking sweeper }

/-- A patrol looks like this server. -/
structure Shows (patrol : Patrol σ) (server : Server σ) : Prop where
  rest : { patrol.server with sweeper := server.sweeper } = server
  keeps : patrol.Keeps server.sweeper

namespace Shows

variable {patrol : Patrol σ} {server : Server σ}

theorem time_eq (h : patrol.Shows server) : patrol.time = server.now.time := by
  rw [← h.rest]
  rfl

/-- The task whose token is kept has made a step. -/
theorem await {place : Nat} {stage : SweepTask.Stage} {sweeper : Sweeper}
    (hplace : patrol.current = some place) (hpresent : patrol.tasks[place]? = some { stage }) :
    (patrol.await place server sweeper).Shows
      { server with sweeper := some sweeper, now := server.now.next } where
  rest := rfl
  keeps := by
    refine ⟨place, hplace, ?_⟩
    rw [getElem?_await, hpresent, Option.map_some, if_pos rfl]

/-- The sweep is turned on, and its task has its first turn. -/
theorem start (site : Site σ) (h : patrol.Shows server) (hoff : server.sweeper = none) :
    (patrol.start.turn site patrol.tasks.length .cancellation).1.Shows (server.start site) := by
  obtain ⟨hrest, hkeeps⟩ := h
  rw [hoff] at hrest hkeeps
  have hcurrent : patrol.current = none := hkeeps
  have hpresent : (patrol.tasks ++ [({} : SweepTask)])[patrol.tasks.length]? = some {} :=
    List.getElem?_concat_length
  rw [turn_start site hcurrent, start_of_off hcurrent, ← hrest]
  exact .await rfl hpresent

/-- The sweep is turned off. -/
theorem stop (h : patrol.Shows server) : patrol.stop.Shows server.stop := by
  obtain ⟨hrest, hkeeps⟩ := h
  rw [← hrest]
  cases hsweeper : server.sweeper with
  | none =>
    rw [hsweeper] at hkeeps
    rw [stop_of_off hkeeps]
    exact ⟨rfl, hkeeps⟩
  | some sweeper =>
    rw [hsweeper] at hkeeps
    obtain ⟨place, hplace, -⟩ := hkeeps
    rw [stop_of_current hplace]
    exact ⟨rfl, rfl⟩

/-- A millisecond passes. -/
theorem wait (h : patrol.Shows server) :
    patrol.wait.Shows { server with now := server.now.later 1 } where
  rest := by
    rw [← h.rest]
    rfl
  keeps := h.keeps

/-- The server is another one. -/
theorem replace {next : Server σ} (h : patrol.Shows server)
    (htime : next.now.time = server.now.time) (hsweeper : next.sweeper = server.sweeper) :
    (patrol.replace next).Shows next where
  rest := by
    show { next with now := { next.now with time := patrol.time } } = next
    rw [h.time_eq, ← htime]
  keeps := by
    rw [hsweeper]
    exact h.keeps

/-- The task whose token is kept has a turn at a tick. -/
theorem tick (site : Site σ) (h : patrol.Shows server) {place : Nat} {sweeper : Sweeper}
    (hplace : patrol.current = some place)
    (hpresent : patrol.tasks[place]? = some { stage := .ticking sweeper })
    (hdue : sweeper.deadline ≤ server.now.time) (ids : List SessionId) :
    let swept := server.sweepOver site.config ids
    let ticked := patrol.turn site place (.tick ids)
    ticked.1.Shows { swept.1 with
        sweeper := some (sweeper.advance site.config swept.1.now)
        now := swept.1.now.next } ∧
      ticked.2 = some swept.2 := by
  intro swept ticked
  have hticked : ticked = _ := turn_tick site hpresent ids
  rw [if_pos (h.time_eq ▸ hdue)] at hticked
  have hswept : swept = _ := h.rest ▸ Server.sweepOver_sweeper site.config patrol.server _ ids
  rw [hticked, hswept]
  exact ⟨.await hplace hpresent, rfl⟩

end Shows

end Patrol

namespace Watch

open Patrol (Shows)
open Server (History)

variable {σ : Type} {site : Site σ} {watch : Watch σ} {history : History σ}

/-- By some actions a patrol comes to look like this server, and makes these sweeps. -/
def Follows (site : Site σ) (watch : Watch σ) (next : Server σ)
    (sweeps : List (Nat × SweepReport)) : Prop :=
  ∃ actions, (watch.run site actions).patrol.Shows next ∧
    (watch.run site actions).sweeps = watch.sweeps ++ sweeps

/-- One action after another. -/
theorem Follows.trans {middle : Server σ} {next : Server σ}
    {sweeps sweeps' : List (Nat × SweepReport)} (h : watch.Follows site middle sweeps)
    (h' : ∀ watch' : Watch σ, watch'.patrol.Shows middle → watch'.Follows site next sweeps') :
    watch.Follows site next (sweeps ++ sweeps') := by
  obtain ⟨first, hmiddle, hsweeps⟩ := h
  obtain ⟨rest, hnext, hsweeps'⟩ := h' (watch.run site first) hmiddle
  refine ⟨first ++ rest, ?_⟩
  rw [run, List.foldl_append]
  exact ⟨hnext, by rw [← List.append_assoc, ← hsweeps]; exact hsweeps'⟩

/-- Nothing has to be done. -/
theorem follows_self {server : Server σ} (h : watch.patrol.Shows server) :
    watch.Follows site server [] :=
  ⟨[], h, (List.append_nil _).symm⟩

/-- One action is enough, and it is no sweep. -/
theorem follows_of_act {next : Server σ} (action : Patrol.Action σ)
    (h : (watch.patrol.act site action).1.Shows next)
    (hquiet : (watch.patrol.act site action).2 = none) : watch.Follows site next [] := by
  refine ⟨[action], h, ?_⟩
  rw [List.append_nil]
  exact sweeps_act_of_quiet action hquiet

/-- Time passes, in steps of one millisecond. -/
theorem follows_wait {server : Server σ} (h : watch.patrol.Shows server) (milliseconds : Nat) :
    watch.Follows site { server with now := server.now.later milliseconds } [] := by
  induction milliseconds generalizing watch server with
  | zero => exact follows_self h
  | succ milliseconds ih =>
    have hfirst : watch.Follows site { server with now := server.now.later 1 } [] :=
      follows_of_act (.obey .wait) h.wait rfl
    have hrest := hfirst.trans fun watch' h' => ih h'
    have hlater : (server.now.later 1).later milliseconds =
        server.now.later (milliseconds + 1) := by
      simp only [Moment.later, Moment.mk.injEq, and_true]
      omega
    rw [← hlater]
    exact hrest

/-- Something is done to the server that takes no time and is not about the periodic sweep. -/
theorem follows_other {server next : Server σ} (h : watch.patrol.Shows server)
    (htime : next.now.time = server.now.time) (hsweeper : next.sweeper = server.sweeper) :
    watch.Follows site next [] :=
  follows_of_act (.meanwhile next) (h.replace htime hsweeper) rfl

/-- The sweep is turned on. -/
theorem follows_start {server : Server σ} (h : watch.patrol.Shows server) :
    watch.Follows site (server.start site) [] := by
  cases hsweeper : server.sweeper with
  | none =>
    have hcurrent : watch.patrol.current = none := by
      have hkeeps := h.keeps
      rwa [hsweeper] at hkeeps
    refine ⟨[.obey .start, .turn watch.patrol.tasks.length .cancellation],
      h.start site hsweeper, ?_⟩
    have hquiet : ((watch.act site (.obey .start)).patrol.act site
        (.turn watch.patrol.tasks.length .cancellation)).2 = none :=
      congrArg (·.2) (Patrol.turn_start site hcurrent .cancellation)
    show ((watch.act site (.obey .start)).act site (.turn _ .cancellation)).sweeps = _
    rw [sweeps_act_of_quiet (.turn _ _) hquiet, sweeps_act_of_quiet (.obey .start) rfl,
      List.append_nil]
  | some sweeper =>
    have hstart : server.start site = server := by
      unfold Server.start
      rw [hsweeper]
    rw [hstart]
    exact follows_self h

/-- A tick comes too early, or the task whose token is kept sweeps. -/
theorem follows_tick (h : watch.patrol.Shows history.server) (ids : List SessionId) :
    watch.Follows site (history.act site (.tick ids)).server
      (history.round? site (.tick ids)).toList := by
  dsimp only [History.round?, History.act]
  cases htick : history.server.tickOver site ids with
  | none => exact follows_self h
  | some ticked =>
    have hkeeps := h.keeps
    unfold Server.tickOver at htick
    cases hsweeper : history.server.sweeper with
    | none =>
      rw [hsweeper] at htick
      cases htick
    | some sweeper =>
      -- The ticker is that of the task whose token is kept.
      rw [hsweeper] at htick hkeeps
      obtain ⟨place, hplace, hpresent⟩ := hkeeps
      by_cases hdue : sweeper.deadline ≤ history.server.now.time
      · simp only [if_pos hdue] at htick
        obtain rfl := Option.some.inj htick
        obtain ⟨hshows, hreport⟩ := h.tick site hplace hpresent hdue ids
        have htime : (watch.patrol.turn site place (.tick ids)).1.time =
            history.server.now.time := by
          rw [hshows.time_eq]
          exact congrArg (·.now.time) (Server.sweepOver_rest site.config history.server ids)
        refine ⟨[.turn place (.tick ids)], hshows, ?_⟩
        dsimp only [Option.map_some]
        rw [← htime]
        exact sweeps_act_of_report (.turn place (.tick ids)) hreport
      · simp only [if_neg hdue] at htick
        cases htick

/-- A patrol that looks like a server follows it in every action. -/
theorem follows_act (h : watch.patrol.Shows history.server) (action : Server.Action) :
    watch.Follows site (history.act site action).server (history.round? site action).toList := by
  -- Most actions are about a slot. The patrol takes what comes of them as it is.
  have hslot (slot : Nat) (haction : action.slot? = some slot) :
      watch.Follows site (history.act site action).server [] := by
    have hsame := history.sameTime_of_slot site haction
    exact follows_other h hsame.time hsame.sweeper
  cases action with
  | start => exact follows_start h
  | stop => exact follows_of_act (.obey .stop) h.stop rfl
  | wait milliseconds => exact follows_wait h milliseconds
  | tick ids => exact follows_tick h ids
  | connect transport => exact follows_other h rfl rfl
  | sweep ids =>
    have hrest := Server.sweepOver_rest site.config history.server ids
    exact follows_other h (congrArg (·.now.time) hrest) (congrArg (·.sweeper) hrest)
  | peer slot step => exact hslot slot rfl
  | call slot request => exact hslot slot rfl
  | head slot => exact hslot slot rfl
  | reply slot => exact hslot slot rfl
  | read slot wakeup => exact hslot slot rfl
  | write slot => exact hslot slot rfl

/-- A patrol that looks like a server follows it in every run. -/
theorem follows_run (h : watch.patrol.Shows history.server) (actions : List Server.Action) :
    watch.Follows site (history.run site actions).server (history.rounds site actions) := by
  induction actions generalizing watch history with
  | nil => exact follows_self h
  | cons action actions ih => exact (follows_act h action).trans fun watch' h' => ih h'

end Watch

/-- Every run of a server is one of its patrol. The sweeps that are made because they are due are
those of the tasks, at the same times and with the same reports. -/
theorem Server.exists_patrol {σ : Type} (site : Site σ) (services : σ)
    (actions : List Server.Action) :
    ∃ taken, let watch := (Watch.begin { services }).run site taken
      watch.patrol.Shows ((Server.fresh services).run site actions).server ∧
      watch.sweeps = (Server.fresh services).rounds site actions := by
  have hfresh : (Watch.begin { services }).patrol.Shows (Server.fresh services).server := ⟨rfl, rfl⟩
  obtain ⟨taken, hshows, hsweeps⟩ := Watch.follows_run hfresh actions
  exact ⟨taken, hshows, hsweeps⟩

end SocketGate
