import Mathlib.Algebra.GroupWithZero.Nat
import SocketGate.Config.Basic
import SocketGate.Proofs.Server.Patrol

/-!
# `SocketGate.Proofs.Server.Rounds`: the periodic sweep under any commands

The sweep is turned on and off, and time passes, in any order. The tasks can always get their
turns in time: it is enough that after every command the task that has something to do because of
it goes on. And whenever they get them in time, in this order or in another one, the invariant of
`SocketGate.Proofs.Server.Patrol` says when the sweeps are made.

* `Patrol.Calm`: no task has anything left to do.
* `Watch.exists_timely`: the tasks can get their turns in time, whatever the commands are.
* `Watch.regular_of_commands`: a sweep is made after every interval of every spell of running.
-/

set_option autoImplicit false

namespace SocketGate

open Patrol (Action Command)

/-- The periodic sweep of a server with acceptable settings takes its time. -/
theorem Config.pingInterval_pos {config : Config} (h : config.flaw? = none) :
    0 < config.pingInterval.toNat := by
  refine Nat.pos_of_ne_zero fun hzero => ?_
  have hinterval : config.pingInterval = 0 := UInt64.toNat_inj.mp hzero
  rw [flaw?, if_pos hinterval] at h
  split at h <;> cases h

/-! ### Turns after every command -/

namespace Patrol

variable {σ : Type}

/-- The first turn of the task that is spawned when the sweep is turned on. -/
theorem turn_start (site : Site σ) {patrol : Patrol σ} (h : patrol.current = none)
    (branch : SweepTask.Branch) :
    patrol.start.turn site patrol.tasks.length branch =
      (patrol.start.await patrol.tasks.length patrol.server
        (.after site.config patrol.server.now), none) := by
  simp [turn, start_of_off h]

/-- The turn of a task at a tick. -/
theorem turn_tick (site : Site σ) {patrol : Patrol σ} {place : Nat} {sweeper : Sweeper}
    (h : patrol.tasks[place]? = some { stage := .ticking sweeper }) (ids : List SessionId) :
    patrol.turn site place (.tick ids) =
      if sweeper.deadline ≤ patrol.time then
        let swept := patrol.server.sweepOver site.config ids
        (patrol.await place swept.1 (sweeper.advance site.config swept.1.now), some swept.2)
      else (patrol, none) := by
  simp [turn, h]

/-- Every task has had its turns: of the tasks only the one whose token is kept is left, and it
waits for a tick that is not due. -/
structure Calm (patrol : Patrol σ) : Prop where
  others : ∀ place task, patrol.tasks[place]? = some task → patrol.current ≠ some place →
    task.stage = .ended
  current : ∀ place, patrol.current = some place →
    ∃ sweeper, patrol.tasks[place]? = some { stage := .ticking sweeper } ∧
      patrol.time < sweeper.deadline

namespace Calm

variable {patrol : Patrol σ}

/-- The sweep was never turned on. -/
theorem begin (server : Server σ) : Calm (Watch.begin server).patrol where
  others _ _ h := nomatch h
  current _ h := nomatch h

/-- A task of a calm patrol has ended, or it waits for a tick that is not due. -/
theorem cases (h : Calm patrol) {task : SweepTask} (htask : task ∈ patrol.tasks) :
    task.stage = .ended ∨
      ∃ sweeper, task = { stage := .ticking sweeper } ∧ patrol.time < sweeper.deadline := by
  obtain ⟨place, hplace⟩ := List.mem_iff_getElem?.mp htask
  by_cases hcurrent : patrol.current = some place
  · obtain ⟨sweeper, hpresent, hlater⟩ := h.current place hcurrent
    exact .inr ⟨sweeper, Option.some.inj (hplace.symm.trans hpresent), hlater⟩
  · exact .inl (h.others place task hplace hcurrent)

theorem isPrompt (h : Calm patrol) : patrol.isPrompt = true := by
  refine List.all_eq_true.mpr fun task htask => ?_
  rcases h.cases htask with hended | ⟨sweeper, rfl, hlater⟩
  · simp [SweepTask.isDue, hended]
  · simpa [SweepTask.isDue] using hlater

theorem mayWait (h : Calm patrol) : patrol.tasks.all (·.mayWait patrol.time) = true := by
  refine List.all_eq_true.mpr fun task htask => ?_
  rcases h.cases htask with hended | ⟨sweeper, rfl, hlater⟩
  · simp [SweepTask.mayWait, hended]
  · simpa [SweepTask.mayWait] using hlater

/-- Every command comes in time. -/
theorem inTime (h : Calm patrol) (command : Command) : patrol.inTime (.obey command) = true := by
  cases command with
  | start => rfl
  | stop => exact h.isPrompt
  | wait => exact h.mayWait

/-- The task whose token is kept has made a step, and its next tick is not due. -/
theorem await {place : Nat} {stage : SweepTask.Stage} {server : Server σ} {sweeper : Sweeper}
    (hothers : ∀ place' task, patrol.tasks[place']? = some task → place' ≠ place →
      task.stage = .ended)
    (hplace : patrol.current = some place) (hpresent : patrol.tasks[place]? = some { stage })
    (hlater : server.now.time < sweeper.deadline) : Calm (patrol.await place server sweeper) := by
  refine ⟨fun place' task htask hother => ?_, fun place' hplace' => ?_⟩
  · rw [getElem?_await] at htask
    obtain ⟨before, hbefore, rfl⟩ := Option.map_eq_some_iff.mp htask
    have hne : place ≠ place' := fun heq => hother (heq ▸ hplace)
    rw [if_neg hne]
    exact hothers place' before hbefore hne.symm
  · obtain rfl := Option.some.inj (hplace.symm.trans hplace')
    refine ⟨sweeper, ?_, hlater⟩
    rw [getElem?_await, hpresent, Option.map_some, if_pos rfl]

/-- The sweep is turned on, and its task has its first turn. -/
theorem start (site : Site σ) (hinterval : 0 < site.config.pingInterval.toNat) (h : Calm patrol)
    (hoff : patrol.current = none) (branch : SweepTask.Branch) :
    Calm (patrol.start.turn site patrol.tasks.length branch).1 := by
  have hpresent : (patrol.tasks ++ [({} : SweepTask)])[patrol.tasks.length]? = some {} :=
    List.getElem?_concat_length
  rw [turn_start site hoff, start_of_off hoff]
  refine .await (fun place task htask hother => ?_) rfl hpresent
    (Nat.lt_add_of_pos_right hinterval)
  exact h.others place task (getElem?_of_spawned htask hother) (by rw [hoff]; nofun)

/-- The sweep is turned off, and its task has a turn. -/
theorem stop (site : Site σ) (h : Calm patrol) {place : Nat}
    (hplace : patrol.current = some place) :
    Calm (patrol.stop.turn site place .cancellation).1 := by
  obtain ⟨sweeper, hpresent, -⟩ := h.current place hplace
  have hturn : (patrol.stop.turn site place .cancellation).1 =
      patrol.stop.setStage place .ended := by
    simp [turn, stop_of_current hplace, hpresent]
  rw [hturn, stop_of_current hplace]
  refine ⟨fun place' task htask _ => ?_, nofun⟩
  rw [getElem?_setStage, List.getElem?_modify] at htask
  obtain ⟨cancelled, hcancelled, rfl⟩ := Option.map_eq_some_iff.mp htask
  obtain ⟨before, hbefore, rfl⟩ := Option.map_eq_some_iff.mp hcancelled
  by_cases hother : place = place'
  · rw [if_pos hother]
  · rw [if_neg hother, if_neg hother]
    exact h.others place' before hbefore fun heq => hother (Option.some.inj (hplace.symm.trans heq))

/-- A millisecond passes while the sweep is on, and its task has a turn. -/
theorem wait (site : Site σ) (hinterval : 0 < site.config.pingInterval.toNat) (h : Calm patrol)
    {place : Nat} (hplace : patrol.current = some place) (ids : List SessionId) :
    Calm (patrol.wait.turn site place (.tick ids)).1 := by
  obtain ⟨sweeper, hpresent, hlater⟩ := h.current place hplace
  have hwaiting : patrol.wait.tasks[place]? = some { stage := .ticking sweeper } := hpresent
  have hothers (place' : Nat) (task : SweepTask) (htask : patrol.tasks[place']? = some task)
      (hother : place' ≠ place) : task.stage = .ended :=
    h.others place' task htask fun heq => hother (Option.some.inj (heq.symm.trans hplace))
  rw [turn_tick site hwaiting]
  -- If the tick is due, it has only just become so.
  by_cases hdue : sweeper.deadline ≤ patrol.wait.time
  · have htime := time_sweepOver site.config patrol.wait ids
    have hnow : patrol.wait.time ≤ sweeper.deadline := hlater
    rw [if_pos hdue]
    dsimp only
    rw [Sweeper.advance_of_le _ (htime ▸ hnow)]
    refine .await hothers hplace hwaiting ?_
    rw [htime]
    exact Nat.lt_of_le_of_lt hnow (Nat.lt_add_of_pos_right hinterval)
  · rw [if_neg hdue]
    refine ⟨h.others, fun place' hplace' => ?_⟩
    obtain rfl := Option.some.inj (hplace.symm.trans hplace')
    exact ⟨sweeper, hpresent, Nat.lt_of_not_le hdue⟩

end Calm

end Patrol

namespace Watch

variable {σ : Type}

/-- The commands that some actions carry out. -/
def commands (actions : List (Action σ)) : List Command := actions.filterMap (·.command?)

/-- Every task can have its turns in time, whatever the commands are. -/
theorem exists_timely {site : Site σ} (hinterval : 0 < site.config.pingInterval.toNat)
    {watch : Watch σ} (h : watch.patrol.Calm) (given : List Command) :
    ∃ actions, commands actions = given ∧ watch.isTimely site actions := by
  induction given generalizing watch with
  | nil => exact ⟨[], rfl, h.isPrompt⟩
  | cons command given ih =>
    -- The command alone, or the command and the turn that a task has because of it.
    have hone (hcalm : (watch.act site (.obey command)).patrol.Calm) :
        ∃ actions, commands actions = command :: given ∧ watch.isTimely site actions := by
      obtain ⟨actions, hgiven, htimely⟩ := ih hcalm
      exact ⟨.obey command :: actions, congrArg (command :: ·) hgiven,
        Bool.and_eq_true_iff.mpr ⟨h.inTime command, htimely⟩⟩
    have htwo (place : Nat) (branch : SweepTask.Branch)
        (hcalm : ((watch.patrol.obey command).turn site place branch).1.Calm) :
        ∃ actions, commands actions = command :: given ∧ watch.isTimely site actions := by
      have hnext : ((watch.act site (.obey command)).act site (.turn place branch)).patrol.Calm :=
        hcalm
      obtain ⟨actions, hgiven, htimely⟩ := ih hnext
      exact ⟨.obey command :: .turn place branch :: actions, congrArg (command :: ·) hgiven,
        Bool.and_eq_true_iff.mpr ⟨h.inTime command, htimely⟩⟩
    cases hcurrent : watch.patrol.current with
    | none =>
      cases command with
      | start => exact htwo _ .cancellation (h.start site hinterval hcurrent _)
      | stop =>
        refine hone ?_
        show watch.patrol.stop.Calm
        rw [Patrol.stop_of_off hcurrent]
        exact h
      | wait =>
        exact hone ⟨h.others, fun place hplace => nomatch hcurrent.symm.trans hplace⟩
    | some place =>
      cases command with
      | start =>
        refine hone ?_
        show watch.patrol.start.Calm
        rw [Patrol.start_of_running (by rw [Patrol.isRunning, hcurrent]; rfl)]
        exact h
      | stop => exact htwo place .cancellation (h.stop site hcurrent)
      | wait =>
        exact htwo place (.tick (watch.patrol.server.registry.map (·.1)))
          (h.wait site hinterval hcurrent _)

/-! ### The sweeps -/

/-- The sweeps that are made during some actions, and what is known of every action. -/
structure Regular (site : Site σ) (first : Watch σ) (actions : List (Action σ)) : Prop where
  /-- In every spell of running there is a sweep after every interval, and there are no others. -/
  times : (first.run site actions).sweeps.map (·.1) =
    (first.run site actions).periods.flatMap (Sweeper.ticks site.config)
  count : (first.run site actions).sweeps.length =
    ((first.run site actions).periods.map (Sweeper.count site.config)).sum
  orderly : ∀ before action after, actions = before ++ action :: after →
    Orderly site (first.run site before) action

/-- As many sweeps are made as the spells of running have whole intervals. -/
theorem length_of_times {config : Config} {sweeps : List (Nat × SweepReport)}
    {periods : List (Nat × Nat)}
    (h : sweeps.map (·.1) = periods.flatMap (Sweeper.ticks config)) :
    sweeps.length = (periods.map (Sweeper.count config)).sum := by
  rw [← List.length_map (·.1), h, List.length_flatMap]
  congr 2
  funext period
  rw [Sweeper.ticks, Sweeper.ticksAfter, List.length_map, List.length_range]

/-- The sweeps that are made when a server is given any commands, with anything else done to it in
between. The tasks can get their turns in time, and if they do, in any order:

- every spell of running has a sweep after every interval, counted from the time at which the
  sweep was turned on, and no others are made;
- one task at most is left that will sweep again, and none while the sweep is off;
- to turn the sweep on when it is on changes nothing, and to turn it on or off leaves the server
  with its registry and its sessions as it is. -/
theorem regular_of_commands (site : Site σ) (server : Server σ) (given : List Command) :
    site.config.flaw? = none →
      (∃ actions, commands actions = given ∧ (begin server).isTimely site actions) ∧
      ∀ actions, commands actions = given → (begin server).isTimely site actions →
        Regular site (begin server) actions := by
  intro hflaw
  have hsteady : Steady site.config (begin server) := .begin site.config server
  refine ⟨exists_timely (Config.pingInterval_pos hflaw) (.begin server) given,
    fun actions _ htimely => ?_⟩
  -- The whole run is one of its beginnings.
  rw [← List.append_nil actions] at htimely
  obtain ⟨hlast, hprompt⟩ := hsteady.run htimely
  have htimes := hlast.sweeps_eq hprompt
  refine ⟨htimes, length_of_times htimes, fun before action after hactions => ?_⟩
  rw [hactions, List.append_nil] at htimely
  exact (hsteady.run htimely).1.orderly action

/-- The site with the settings `Server.quietSite` has, but for a sweep every two milliseconds. -/
def swiftSite : Site Unit := { Server.quietSite with config := { pingInterval := 2 } }

/-- A server with one session. -/
def swiftServer : Server Unit :=
  ((Server.fresh ()).run swiftSite [.connect Server.caller, .head 0, .reply 0, .reply 0]).server

/-- The sweep is turned on, twice. After one sweep it is turned off and on again, and there are
two tasks until the first of them has its turn. After another sweep it is turned off. -/
def restarted : List (Action Unit) :=
  [.obey .start, .turn 0 .cancellation, .obey .start, .obey .wait, .obey .wait,
    .turn 0 (.tick [⟨0, 1⟩]), .obey .stop, .obey .start, .turn 1 .cancellation, .obey .wait,
    .turn 0 .cancellation, .obey .wait, .turn 1 (.tick [⟨0, 1⟩]), .obey .stop, .obey .wait]

/-- The two sweeps come an interval after the sweep was turned on, and each sends the session a
ping. -/
theorem regular_of_commands_restarted :
    swiftSite.config.flaw? = none ∧
      commands restarted =
        [.start, .start, .wait, .wait, .stop, .start, .wait, .wait, .stop, .wait] ∧
      (begin swiftServer).isTimely swiftSite restarted ∧
      ((begin swiftServer).run swiftSite restarted).periods = [(0, 2), (2, 4)] ∧
      ((begin swiftServer).run swiftSite restarted).sweeps =
        [(2, { pinged := [⟨0, 1⟩] }), (4, { pinged := [⟨0, 1⟩] })] ∧
      Regular swiftSite (begin swiftServer) restarted := by
  have hevaluated :
      swiftSite.config.flaw? = none ∧
      commands restarted =
        [.start, .start, .wait, .wait, .stop, .start, .wait, .wait, .stop, .wait] ∧
      (begin swiftServer).isTimely swiftSite restarted ∧
      ((begin swiftServer).run swiftSite restarted).periods = [(0, 2), (2, 4)] ∧
      ((begin swiftServer).run swiftSite restarted).sweeps =
        [(2, { pinged := [⟨0, 1⟩] }), (4, { pinged := [⟨0, 1⟩] })] := by
    decide +kernel
  obtain ⟨hflaw, hcommands, htimely, hperiods, hsweeps⟩ := hevaluated
  obtain ⟨-, hregular⟩ := regular_of_commands swiftSite swiftServer (commands restarted) hflaw
  exact ⟨hflaw, hcommands, htimely, hperiods, hsweeps, hregular restarted rfl htimely⟩

end Watch

end SocketGate
