import SocketGate.Proofs.Server.Sweep
import SocketGate.Server.Patrol

/-!
# `SocketGate.Proofs.Server.Patrol`: when the periodic sweep is made

A `Watch` looks at a patrol from outside: after every action it notes whether the periodic sweep
is on, and it notes the time of every sweep. The tasks get their turns in any order, and whatever
else is done to the server happens in between. `Watch.isTimely` says that they get them in time:
no tick is taken late, a task that was spawned sets its ticker within the millisecond, and one
that was cancelled ends before its ticker goes off again. Until then it may stay, so there can be
any number of tasks.

`Watch.Steady` is the invariant. The task whose token is kept is the only one that will sweep
again, its ticker was set when the sweep was turned on, and it has counted the intervals since
then. All other tasks have ended, or were cancelled and have no tick that is due.

* `Patrol.turn_cases`: what a task does in its turn.
* `Watch.Steady.act`, `Watch.Steady.run`: the invariant.
* `Watch.Steady.sweeps_eq`: the sweeps are those that the spells of running call for.
-/

set_option autoImplicit false

namespace SocketGate

/-! ### Spells -/

/-- When something was on, read off at one time after the other. -/
structure Spells where
  /-- The spells that are over, each with its beginning and its end. -/
  past : List (Nat × Nat) := []
  /-- The beginning of the one that goes on. -/
  since : Option Nat := none

namespace Spells

/-- The next reading. -/
def note (spells : Spells) (time : Nat) (on : Bool) : Spells :=
  match spells.since, on with
  | none, true => { spells with since := some time }
  | some first, false => { past := spells.past ++ [(first, time)] }
  | _, _ => spells

/-- The spells up to some time. -/
def upTo (spells : Spells) (time : Nat) : List (Nat × Nat) :=
  spells.past ++ (spells.since.map fun first => (first, time)).toList

/-- A reading that tells nothing new. -/
theorem note_of_eq {spells : Spells} {on : Bool} (time : Nat) (h : spells.since.isSome = on) :
    spells.note time on = spells := by
  subst h
  unfold note
  cases spells.since <;> rfl

end Spells

/-- How many whole intervals a spell has. -/
def Sweeper.count (config : Config) (spell : Nat × Nat) : Nat :=
  (spell.2 - spell.1) / config.pingInterval.toNat

/-- The first ticks after some time. -/
def Sweeper.ticksAfter (config : Config) (first count : Nat) : List Nat :=
  (List.range count).map fun k => first + (k + 1) * config.pingInterval.toNat

/-- The times of the ticks in a spell: every interval after its beginning has one at its end. -/
def Sweeper.ticks (config : Config) (spell : Nat × Nat) : List Nat :=
  ticksAfter config spell.1 (count config spell)

/-- One tick more. -/
theorem Sweeper.ticksAfter_succ (config : Config) (first count : Nat) :
    ticksAfter config first (count + 1) =
      ticksAfter config first count ++ [first + (count + 1) * config.pingInterval.toNat] := by
  rw [ticksAfter, List.range_succ, List.map_append]
  rfl

/-- A tick that is not late is followed by another one after an interval. -/
theorem Sweeper.advance_of_le (config : Config) {now : Moment} {sweeper : Sweeper}
    (h : now.time ≤ sweeper.deadline) :
    sweeper.advance config now = ⟨sweeper.deadline + config.pingInterval.toNat, now⟩ := by
  rw [advance, if_neg]
  exact Nat.not_lt.mpr (Nat.le_trans h (Nat.le_add_right _ _))

/-! ### Actions -/

namespace Patrol

variable {σ : Type}

/-- What a dispatcher is told, and the passing of a millisecond. -/
inductive Command where
  | start
  | stop
  | wait
  deriving DecidableEq

/-- What happens to a patrol. -/
inductive Action (σ : Type) where
  /-- A command is carried out. -/
  | obey (command : Command)
  /-- A task gets a turn. -/
  | turn (place : Nat) (branch : SweepTask.Branch)
  /-- Anything else is done to the server, which then is this one. The clock shows the same
  time. -/
  | meanwhile (server : Server σ)

/-- The command that an action carries out, if it does. -/
def Action.command? : Action σ → Option Command
  | .obey command => some command
  | .turn .. | .meanwhile _ => none

/-- Carry out a command. -/
def obey (patrol : Patrol σ) : Command → Patrol σ
  | .start => patrol.start
  | .stop => patrol.stop
  | .wait => patrol.wait

/-- The server is another one, at the same time. -/
def replace (patrol : Patrol σ) (server : Server σ) : Patrol σ :=
  { patrol with server := { server with now := { server.now with time := patrol.time } } }

/-- What comes of an action, with the report if it is a sweep. -/
def act (site : Site σ) (patrol : Patrol σ) : Action σ → Patrol σ × Option SweepReport
  | .obey command => (patrol.obey command, none)
  | .turn place branch => patrol.turn site place branch
  | .meanwhile server => (patrol.replace server, none)

end Patrol

/-- A patrol, its sweeps so far with their times, and when it was on. -/
structure Watch (σ : Type) where
  patrol : Patrol σ
  sweeps : List (Nat × SweepReport) := []
  spells : Spells := {}

namespace Watch

open Patrol (Command Action)

variable {σ : Type}

/-- The watch begins at a server whose periodic sweep was never turned on. -/
def begin (server : Server σ) : Watch σ where
  patrol := { server }

/-- An action is watched. -/
def act (site : Site σ) (watch : Watch σ) (action : Action σ) : Watch σ :=
  let (patrol, report) := watch.patrol.act site action
  { patrol
    sweeps := watch.sweeps ++ (report.map fun report => (patrol.time, report)).toList
    spells := watch.spells.note patrol.time patrol.isRunning }

/-- Some actions are watched. -/
def run (site : Site σ) (watch : Watch σ) (actions : List (Action σ)) : Watch σ :=
  actions.foldl (act site) watch

/-- The spells of running so far. -/
def periods (watch : Watch σ) : List (Nat × Nat) := watch.spells.upTo watch.patrol.time

/-- An action that is no sweep. -/
theorem sweeps_act_of_quiet {site : Site σ} {watch : Watch σ} (action : Action σ)
    (h : (watch.patrol.act site action).2 = none) :
    (watch.act site action).sweeps = watch.sweeps := by
  show watch.sweeps ++ ((watch.patrol.act site action).2.map _).toList = _
  rw [h]
  exact List.append_nil _

/-- An action that is a sweep. -/
theorem sweeps_act_of_report {site : Site σ} {watch : Watch σ} (action : Action σ)
    {report : SweepReport} (h : (watch.patrol.act site action).2 = some report) :
    (watch.act site action).sweeps =
      watch.sweeps ++ [((watch.patrol.act site action).1.time, report)] := by
  show watch.sweeps ++ ((watch.patrol.act site action).2.map _).toList = _
  rw [h]
  rfl

end Watch

/-! ### Turns in time -/

namespace SweepTask

/-- Whether a task has a tick that is due. -/
def isDue (time : Nat) (task : SweepTask) : Bool :=
  match task.stage with
  | .ticking sweeper => sweeper.deadline ≤ time
  | .spawned | .ended => false

/-- Whether the time may pass while a task waits for its next turn. -/
def mayWait (time : Nat) (task : SweepTask) : Bool :=
  match task.stage with
  | .spawned => task.cancelled
  | .ticking sweeper =>
    -- A task that was cancelled has to end before its next tick.
    if task.cancelled then time + 1 < sweeper.deadline else time < sweeper.deadline
  | .ended => true

/-- A task that will not sweep any more. -/
def Dismissed (time : Nat) (task : SweepTask) : Prop :=
  task.stage = .ended ∨ task.cancelled = true ∧ task.isDue time = false

/-- A task with a tick that is due may sweep. -/
theorem not_dismissed_of_due {time : Nat} {task : SweepTask} {sweeper : Sweeper}
    (hstage : task.stage = .ticking sweeper) (hdue : sweeper.deadline ≤ time) :
    ¬ task.Dismissed time := by
  simp [Dismissed, isDue, hstage, hdue]

end SweepTask

namespace Patrol

variable {σ : Type}

/-- Whether no tick is due. -/
def isPrompt (patrol : Patrol σ) : Bool :=
  patrol.tasks.all fun task => !task.isDue patrol.time

/-- No task has a tick that is due. -/
theorem isDue_of_isPrompt {patrol : Patrol σ} (h : patrol.isPrompt) {place : Nat}
    {task : SweepTask} (htask : patrol.tasks[place]? = some task) :
    task.isDue patrol.time = false := by
  simpa using List.all_eq_true.mp h task (List.mem_of_getElem? htask)

/-- Whether an action comes in time. Ticks go off before the sweep is turned off. -/
def inTime (patrol : Patrol σ) : Action σ → Bool
  | .obey .stop => patrol.isPrompt
  | .obey .wait => patrol.tasks.all (·.mayWait patrol.time)
  | .obey .start | .turn .. | .meanwhile _ => true

/-! ### What a task does in its turn -/

/-- A sweep takes no time. -/
theorem time_sweepOver (config : Config) (patrol : Patrol σ) (ids : List SessionId) :
    (patrol.server.sweepOver config ids).1.now.time = patrol.time := by
  rw [Server.sweepOver_rest]
  rfl

/-- Of all tasks only the one in its place comes to another stage. -/
theorem getElem?_setStage (patrol : Patrol σ) (place : Nat) (stage : SweepTask.Stage)
    (place' : Nat) : (patrol.setStage place stage).tasks[place']? =
      patrol.tasks[place']?.map fun task =>
        if place = place' then { task with stage } else task := by
  show (patrol.tasks.modify place _)[place']? = _
  rw [List.getElem?_modify]
  rfl

/-- Of all tasks only the one in its place has made a step. -/
theorem getElem?_await (patrol : Patrol σ) (place : Nat) (server : Server σ) (sweeper : Sweeper)
    (place' : Nat) : (patrol.await place server sweeper).tasks[place']? =
      patrol.tasks[place']?.map fun task =>
        if place = place' then { task with stage := .ticking sweeper } else task :=
  getElem?_setStage _ place _ place'

/-- The sweep is off and is turned on. -/
theorem start_of_off {patrol : Patrol σ} (h : patrol.current = none) :
    patrol.start =
      { patrol with tasks := patrol.tasks ++ [{}], current := some patrol.tasks.length } := by
  unfold start
  rw [h]

/-- The sweep is on and is turned on again. -/
theorem start_of_running {patrol : Patrol σ} (h : patrol.isRunning) : patrol.start = patrol := by
  obtain ⟨place, hplace⟩ := Option.isSome_iff_exists.mp h
  unfold start
  rw [hplace]

/-- The sweep is off and is turned off again. -/
theorem stop_of_off {patrol : Patrol σ} (h : patrol.current = none) : patrol.stop = patrol := by
  unfold stop
  rw [h]

/-- The sweep is on and is turned off. -/
theorem stop_of_current {patrol : Patrol σ} {place : Nat} (h : patrol.current = some place) :
    patrol.stop =
      { patrol with
        tasks := patrol.tasks.modify place fun task => { task with cancelled := true }
        current := none } := by
  unfold stop
  rw [h]

/-- A task that is not the last one was there before that was spawned. -/
theorem getElem?_of_spawned {tasks : List SweepTask} {task last : SweepTask} {place : Nat}
    (h : (tasks ++ [last])[place]? = some task) (hother : place ≠ tasks.length) :
    tasks[place]? = some task := by
  have hbound := (List.getElem?_eq_some_iff.mp h).1
  have hlength : place < tasks.length := by
    simp only [List.length_append, List.length_singleton] at hbound
    omega
  rwa [← List.getElem?_append_left hlength]

/-- A task does one of four things in its turn, or there is no such task. -/
theorem turn_cases (site : Site σ) (patrol : Patrol σ) (place : Nat) (branch : SweepTask.Branch) :
    patrol.turn site place branch = (patrol, none) ∨
    ∃ task, patrol.tasks[place]? = some task ∧
      (task.cancelled = true ∧
          patrol.turn site place branch = (patrol.setStage place .ended, none) ∨
        task.cancelled = false ∧ task.stage = .spawned ∧
          patrol.turn site place branch =
            (patrol.await place patrol.server (.after site.config patrol.server.now), none) ∨
        ∃ sweeper ids, task.stage = .ticking sweeper ∧ sweeper.deadline ≤ patrol.time ∧
          let swept := patrol.server.sweepOver site.config ids
          patrol.turn site place branch =
            (patrol.await place swept.1 (sweeper.advance site.config swept.1.now),
              some swept.2)) := by
  unfold turn
  cases htask : patrol.tasks[place]? with
  | none => exact .inl rfl
  | some task =>
    obtain ⟨stage, cancelled⟩ := task
    cases stage with
    | spawned =>
      refine .inr ⟨_, rfl, ?_⟩
      cases cancelled with
      | true => exact .inl ⟨rfl, rfl⟩
      | false => exact .inr (.inl ⟨rfl, rfl, rfl⟩)
    | ticking sweeper =>
      cases branch with
      | tick ids =>
        by_cases hdue : sweeper.deadline ≤ patrol.time
        · exact .inr ⟨_, rfl, .inr (.inr ⟨sweeper, ids, rfl, hdue, if_pos hdue⟩)⟩
        · exact .inl (if_neg hdue)
      | cancellation =>
        cases cancelled with
        | true => exact .inr ⟨_, rfl, .inl ⟨rfl, rfl⟩⟩
        | false => exact .inl rfl
    | ended => exact .inl rfl

end Patrol

/-! ### The invariant -/

namespace SweepTask

/-- A task has taken this many ticks since this time, none of them late, and its ticker is set
for the next one. -/
def Paced (config : Config) (first count time : Nat) (task : SweepTask) : Prop :=
  match task.stage with
  | .spawned => count = 0 ∧ time = first
  | .ticking sweeper =>
    sweeper.deadline = first + (count + 1) * config.pingInterval.toNat ∧
      first + count * config.pingInterval.toNat ≤ time ∧ time ≤ sweeper.deadline
  | .ended => False

/-- A task whose tick is not due has taken one for every whole interval. -/
theorem Paced.eq_count {config : Config} {first count time : Nat} {task : SweepTask}
    (h : task.Paced config first count time) (hdue : task.isDue time = false) :
    count = Sweeper.count config (first, time) := by
  obtain ⟨stage, cancelled⟩ := task
  symm
  cases stage with
  | spawned =>
    obtain ⟨rfl, rfl⟩ := h
    show (time - time) / _ = 0
    rw [Nat.sub_self, Nat.zero_div]
  | ticking sweeper =>
    obtain ⟨hdeadline, hfirst, -⟩ := h
    have hlater : time < sweeper.deadline := by simpa [isDue] using hdue
    refine Nat.div_eq_of_lt_le ?_ ?_
    · show _ ≤ time - first
      omega
    · show time - first < _
      omega
  | ended => exact h.elim

/-- The pace is kept while a task that was not cancelled may wait. -/
theorem Paced.later {config : Config} {first count time : Nat} {task : SweepTask}
    (h : task.Paced config first count time) (hkept : task.cancelled = false)
    (hmay : task.mayWait time) : task.Paced config first count (time + 1) := by
  obtain ⟨stage, cancelled⟩ := task
  cases hkept
  cases stage with
  | spawned => cases hmay
  | ticking sweeper =>
    obtain ⟨hdeadline, hfirst, -⟩ := h
    have hlater : time < sweeper.deadline := by simpa [mayWait] using hmay
    exact ⟨hdeadline, Nat.le_succ_of_le hfirst, hlater⟩
  | ended => exact h

/-- A task that will not sweep any more and may wait will not sweep after that either. -/
theorem Dismissed.later {time : Nat} {task : SweepTask} (h : task.Dismissed time)
    (hmay : task.mayWait time) : task.Dismissed (time + 1) := by
  rcases h with hended | ⟨hcancelled, -⟩
  · exact .inl hended
  · obtain ⟨stage, cancelled⟩ := task
    cases hcancelled
    cases stage with
    | ticking sweeper =>
      have hlater : time + 1 < sweeper.deadline := by simpa [mayWait] using hmay
      exact .inr ⟨rfl, decide_eq_false (Nat.not_le.mpr hlater)⟩
    | spawned | ended => exact .inr ⟨rfl, rfl⟩

end SweepTask

namespace Watch

open Patrol (Action)

variable {σ : Type}

/-- The task in a place is the one whose token is kept. It was spawned at this time and has taken
this many ticks, and before that there were those of the spells that are over. -/
structure OnDuty (config : Config) (watch : Watch σ) (place first count : Nat)
    (task : SweepTask) : Prop where
  since : watch.spells.since = some first
  present : watch.patrol.tasks[place]? = some task
  kept : task.cancelled = false
  paced : task.Paced config first count watch.patrol.time
  sweeps : watch.sweeps.map (·.1) =
    watch.spells.past.flatMap (Sweeper.ticks config) ++ Sweeper.ticksAfter config first count

/-- The sweeps so far are those that the spells of running call for, and only the task whose
token is kept will make any more. -/
structure Steady (config : Config) (watch : Watch σ) : Prop where
  dismissed : ∀ place task, watch.patrol.tasks[place]? = some task →
    watch.patrol.current ≠ some place → task.Dismissed watch.patrol.time
  off : watch.patrol.current = none → watch.spells.since = none ∧
    watch.sweeps.map (·.1) = watch.spells.past.flatMap (Sweeper.ticks config)
  on : ∀ place, watch.patrol.current = some place →
    ∃ first count task, OnDuty config watch place first count task

namespace Steady

variable {config : Config} {watch : Watch σ}

/-- The sweep was never turned on. -/
theorem begin (config : Config) (server : Server σ) : Steady config (Watch.begin server) where
  dismissed _ _ h _ := nomatch h
  off _ := ⟨rfl, rfl⟩
  on _ h := nomatch h

/-- A spell goes on as long as the sweep is on. -/
theorem isSome_since (h : Steady config watch) :
    watch.spells.since.isSome = watch.patrol.isRunning := by
  unfold Patrol.isRunning
  cases hcurrent : watch.patrol.current with
  | none => rw [(h.off hcurrent).1]
  | some place =>
    obtain ⟨first, count, task, hduty⟩ := h.on place hcurrent
    rw [hduty.since]
    rfl

/-- What is watched when the sweep stays on or stays off. -/
theorem act_eq (site : Site σ) (action : Action σ) {patrol : Patrol σ}
    {report : Option SweepReport} (h : Steady config watch)
    (hact : watch.patrol.act site action = (patrol, report))
    (hcurrent : patrol.current = watch.patrol.current) :
    watch.act site action =
      { watch with
        patrol
        sweeps := watch.sweeps ++ (report.map fun report => (patrol.time, report)).toList } := by
  have hrunning : watch.spells.since.isSome = patrol.isRunning := by
    rw [h.isSome_since, Patrol.isRunning, Patrol.isRunning, hcurrent]
  unfold Watch.act
  rw [hact]
  dsimp only
  rw [Spells.note_of_eq _ hrunning]

/-- To turn the sweep on when it is on changes nothing. -/
theorem act_start_of_running (site : Site σ) (h : Steady config watch)
    (hrunning : watch.patrol.isRunning = true) : watch.act site (.obey .start) = watch := by
  have hact : watch.patrol.act site (.obey .start) = (watch.patrol, none) := by
    rw [Patrol.act, Patrol.obey, Patrol.start_of_running hrunning]
  rw [h.act_eq site _ hact rfl]
  simp

/-- The sweep is turned on. -/
theorem start (site : Site σ) (h : Steady config watch) :
    Steady config (watch.act site (.obey .start)) := by
  cases hcurrent : watch.patrol.current with
  | some place =>
    rw [h.act_start_of_running site (by rw [Patrol.isRunning, hcurrent]; rfl)]
    exact h
  | none =>
    obtain ⟨hsince, hsweeps⟩ := h.off hcurrent
    have hact : watch.act site (.obey .start) =
        { patrol := { watch.patrol with
            tasks := watch.patrol.tasks ++ [{}]
            current := some watch.patrol.tasks.length }
          sweeps := watch.sweeps
          spells := { watch.spells with since := some watch.patrol.time } } := by
      simp only [Watch.act, Patrol.act, Patrol.obey, Patrol.start_of_off hcurrent]
      simp [Spells.note, hsince, Patrol.isRunning, Patrol.time]
    rw [hact]
    refine ⟨fun place task htask hother => ?_, nofun, ?_⟩
    · -- Every other task was there before.
      have hbefore := Patrol.getElem?_of_spawned htask fun heq => hother (congrArg some heq.symm)
      exact h.dismissed place task hbefore (by rw [hcurrent]; nofun)
    · rintro place hplace
      obtain rfl := Option.some.inj hplace
      exact ⟨watch.patrol.time, 0, {}, {
        since := rfl
        present := by simp
        kept := rfl
        paced := ⟨rfl, rfl⟩
        sweeps := by simpa [Sweeper.ticksAfter] using hsweeps }⟩

/-- The sweep is turned off, when no tick is due. -/
theorem stop (site : Site σ) (h : Steady config watch) (hprompt : watch.patrol.isPrompt) :
    Steady config (watch.act site (.obey .stop)) := by
  cases hcurrent : watch.patrol.current with
  | none =>
    have hact : watch.patrol.act site (.obey .stop) = (watch.patrol, none) := by
      rw [Patrol.act, Patrol.obey, Patrol.stop_of_off hcurrent]
    rw [h.act_eq site _ hact rfl]
    simpa using h
  | some place =>
    obtain ⟨first, count, task, hduty⟩ := h.on place hcurrent
    have hact : watch.act site (.obey .stop) =
        { patrol := { watch.patrol with
            tasks := watch.patrol.tasks.modify place fun task => { task with cancelled := true }
            current := none }
          sweeps := watch.sweeps
          spells := { past := watch.spells.past ++ [(first, watch.patrol.time)] } } := by
      simp only [Watch.act, Patrol.act, Patrol.obey, Patrol.stop_of_current hcurrent]
      simp [Spells.note, hduty.since, Patrol.isRunning, Patrol.time]
    rw [hact]
    refine ⟨fun place' task' htask' _ => ?_, fun _ => ⟨rfl, ?_⟩, nofun⟩
    · rw [List.getElem?_modify] at htask'
      obtain ⟨before, hbefore, rfl⟩ := Option.map_eq_some_iff.mp htask'
      split
      · have hdue := Patrol.isDue_of_isPrompt hprompt hbefore
        exact .inr ⟨rfl, hdue⟩
      · rename_i hother
        refine h.dismissed place' before hbefore ?_
        rw [hcurrent]
        exact fun heq => hother (Option.some.inj heq)
    · -- The spell that ends here had a tick for every whole interval.
      have hdue := Patrol.isDue_of_isPrompt hprompt hduty.present
      rw [hduty.sweeps, hduty.paced.eq_count hdue, List.flatMap_append, List.flatMap_singleton]
      rfl

/-- A millisecond passes, while every task may wait. -/
theorem wait (site : Site σ) (h : Steady config watch)
    (hwait : watch.patrol.tasks.all (·.mayWait watch.patrol.time)) :
    Steady config (watch.act site (.obey .wait)) := by
  have hmay (place : Nat) (task : SweepTask) (htask : watch.patrol.tasks[place]? = some task) :
      task.mayWait watch.patrol.time = true :=
    List.all_eq_true.mp hwait task (List.mem_of_getElem? htask)
  rw [h.act_eq site (.obey .wait) rfl rfl]
  refine ⟨fun place task htask hother => ?_, fun hcurrent => by simpa using h.off hcurrent,
    fun place hplace => ?_⟩
  · exact (h.dismissed place task htask hother).later (hmay place task htask)
  · obtain ⟨first, count, task, hduty⟩ := h.on place hplace
    exact ⟨first, count, task, hduty.since, hduty.present, hduty.kept,
      hduty.paced.later hduty.kept (hmay place task hduty.present), by simpa using hduty.sweeps⟩

/-- The server is another one. -/
theorem meanwhile (site : Site σ) (h : Steady config watch) (server : Server σ) :
    Steady config (watch.act site (.meanwhile server)) := by
  rw [h.act_eq site (.meanwhile server) rfl rfl]
  refine ⟨h.dismissed, fun hcurrent => by simpa using h.off hcurrent, fun place hplace => ?_⟩
  obtain ⟨first, count, task, hduty⟩ := h.on place hplace
  exact ⟨first, count, task, hduty.since, hduty.present, hduty.kept, hduty.paced,
    by simpa using hduty.sweeps⟩

/-- Who may sweep again is the task whose token is kept. -/
theorem current_of_not_dismissed (h : Steady config watch) {place : Nat} {task : SweepTask}
    (htask : watch.patrol.tasks[place]? = some task)
    (hactive : ¬ task.Dismissed watch.patrol.time) : watch.patrol.current = some place :=
  Decidable.byContradiction fun hother => hactive (h.dismissed place task htask hother)

/-- It has the pace of the spell that goes on. -/
theorem onDuty_of_not_dismissed (h : Steady config watch) {place : Nat} {task : SweepTask}
    (htask : watch.patrol.tasks[place]? = some task)
    (hactive : ¬ task.Dismissed watch.patrol.time) :
    ∃ first count, OnDuty config watch place first count task := by
  obtain ⟨first, count, task', hduty⟩ := h.on place (h.current_of_not_dismissed htask hactive)
  obtain rfl := Option.some.inj (htask.symm.trans hduty.present)
  exact ⟨first, count, hduty⟩

/-- A task that was cancelled ends. -/
theorem ended (h : Steady config watch) {place : Nat} {task : SweepTask}
    (htask : watch.patrol.tasks[place]? = some task) (hcancelled : task.cancelled = true) :
    Steady config { watch with patrol := watch.patrol.setStage place .ended } := by
  refine ⟨fun place' task' htask' hother => ?_, h.off, fun place' hplace' => ?_⟩
  · rw [Patrol.getElem?_setStage] at htask'
    obtain ⟨before, hbefore, rfl⟩ := Option.map_eq_some_iff.mp htask'
    split
    · exact .inl rfl
    · exact h.dismissed place' before hbefore hother
  · obtain ⟨first, count, task', hduty⟩ := h.on place' hplace'
    refine ⟨first, count, task', hduty.since, ?_, hduty.kept, hduty.paced, hduty.sweeps⟩
    -- The task whose token is kept was not cancelled, so it is another one.
    have hne : place ≠ place' := by
      rintro rfl
      obtain rfl := Option.some.inj (htask.symm.trans hduty.present)
      exact Bool.noConfusion (hcancelled.symm.trans hduty.kept)
    rw [Patrol.getElem?_setStage, hduty.present, Option.map_some, if_neg hne]

/-- The task whose token is kept has made a step. -/
theorem await (h : Steady config watch) {place first count : Nat} {task : SweepTask}
    (hcurrent : watch.patrol.current = some place)
    (hduty : OnDuty config watch place first count task) {server : Server σ} {sweeper : Sweeper}
    {sweeps : List (Nat × SweepReport)} (count' : Nat)
    (htime : server.now.time = watch.patrol.time)
    (hpaced : { task with stage := .ticking sweeper : SweepTask }.Paced config first count'
      watch.patrol.time)
    (hsweeps : sweeps.map (·.1) = watch.spells.past.flatMap (Sweeper.ticks config) ++
      Sweeper.ticksAfter config first count') :
    Steady config { watch with patrol := watch.patrol.await place server sweeper, sweeps } := by
  have htime' : (watch.patrol.await place server sweeper).time = watch.patrol.time := htime
  refine ⟨fun place' task' htask' hother => ?_, fun hnone => ?_, fun place' hplace' => ?_⟩
  · rw [Patrol.getElem?_await] at htask'
    obtain ⟨before, hbefore, rfl⟩ := Option.map_eq_some_iff.mp htask'
    have hne : place ≠ place' := fun heq => hother (heq ▸ hcurrent)
    rw [if_neg hne, htime']
    exact h.dismissed place' before hbefore hother
  · exact nomatch hcurrent.symm.trans hnone
  · obtain rfl := Option.some.inj (hcurrent.symm.trans hplace')
    refine ⟨first, count', { task with stage := .ticking sweeper }, hduty.since, ?_, hduty.kept,
      by rwa [htime'], hsweeps⟩
    rw [Patrol.getElem?_await, hduty.present, Option.map_some, if_pos rfl]

/-- A task that was not cancelled has its first turn. -/
theorem begun (h : Steady config watch) {place : Nat} {task : SweepTask}
    (htask : watch.patrol.tasks[place]? = some task) (hkept : task.cancelled = false)
    (hstage : task.stage = .spawned) :
    Steady config { watch with
      patrol := watch.patrol.await place watch.patrol.server
        (.after config watch.patrol.server.now) } := by
  have hactive : ¬ task.Dismissed watch.patrol.time := by
    simp [SweepTask.Dismissed, hstage, hkept]
  have hcurrent := h.current_of_not_dismissed htask hactive
  obtain ⟨first, count, hduty⟩ := h.onDuty_of_not_dismissed htask hactive
  have hpaced := hduty.paced
  rw [SweepTask.Paced, hstage] at hpaced
  -- The time is still that at which it was spawned.
  obtain ⟨rfl, rfl⟩ := hpaced
  refine h.await hcurrent hduty 0 rfl ⟨?_, ?_, ?_⟩ hduty.sweeps
  · rw [Nat.zero_add, Nat.one_mul]
    rfl
  · rw [Nat.zero_mul]
    exact Nat.le_refl _
  · exact Nat.le_add_right _ _

/-- A task sweeps at a tick that is due. -/
theorem swept (h : Steady config watch) {place : Nat} {task : SweepTask} {sweeper : Sweeper}
    (htask : watch.patrol.tasks[place]? = some task) (hstage : task.stage = .ticking sweeper)
    (hdue : sweeper.deadline ≤ watch.patrol.time) {server : Server σ}
    (htime : server.now.time = watch.patrol.time) (report : SweepReport) :
    Steady config { watch with
      patrol := watch.patrol.await place server (sweeper.advance config server.now)
      sweeps := watch.sweeps ++ [(watch.patrol.time, report)] } := by
  have hactive := SweepTask.not_dismissed_of_due hstage hdue
  have hcurrent := h.current_of_not_dismissed htask hactive
  obtain ⟨first, count, hduty⟩ := h.onDuty_of_not_dismissed htask hactive
  have hpaced := hduty.paced
  rw [SweepTask.Paced, hstage] at hpaced
  obtain ⟨hdeadline, hfirst, hlast⟩ := hpaced
  -- The tick is not late.
  have hnow : watch.patrol.time = first + (count + 1) * config.pingInterval.toNat :=
    (Nat.le_antisymm hlast hdue).trans hdeadline
  rw [Sweeper.advance_of_le config (htime ▸ hlast)]
  refine h.await hcurrent hduty (count + 1) htime ⟨?_, ?_, ?_⟩ ?_
  · show sweeper.deadline + _ = _
    rw [hdeadline, Nat.succ_mul (count + 1), Nat.add_assoc]
  · exact Nat.le_of_eq hnow.symm
  · exact Nat.le_trans hlast (Nat.le_add_right _ _)
  · rw [Sweeper.ticksAfter_succ, ← List.append_assoc, ← hduty.sweeps, List.map_append, hnow]
    rfl

/-- A task gets a turn. -/
theorem turn {site : Site σ} (h : Steady site.config watch) (place : Nat)
    (branch : SweepTask.Branch) : Steady site.config (watch.act site (.turn place branch)) := by
  rcases watch.patrol.turn_cases site place branch with
    hrest | ⟨task, htask, ⟨hcancelled, hturn⟩ | ⟨hkept, hstage, hturn⟩ |
      ⟨sweeper, ids, hstage, hdue, hturn⟩⟩
  · rw [h.act_eq site (.turn place branch) hrest rfl]
    simpa using h
  · rw [h.act_eq site (.turn place branch) hturn rfl]
    simpa using h.ended htask hcancelled
  · rw [h.act_eq site (.turn place branch) hturn rfl]
    simpa using h.begun htask hkept hstage
  · -- The sweep is noted at the time after it, which is the same.
    have htime := Patrol.time_sweepOver site.config watch.patrol ids
    rw [h.act_eq site (.turn place branch) hturn rfl]
    have hswept := h.swept htask hstage hdue htime
      (watch.patrol.server.sweepOver site.config ids).2
    rw [← htime] at hswept
    exact hswept

/-- Every action that comes in time keeps the invariant. -/
theorem act {site : Site σ} (h : Steady site.config watch) {action : Action σ}
    (htime : watch.patrol.inTime action) : Steady site.config (watch.act site action) := by
  cases action with
  | obey command =>
    cases command with
    | start => exact h.start site
    | stop => exact h.stop site htime
    | wait => exact h.wait site htime
  | turn place branch => exact h.turn place branch
  | meanwhile server => exact h.meanwhile site server

end Steady

/-! ### Runs -/

/-- Whether some actions come in time, one after the other, and no tick is due in the end. -/
def isTimely (site : Site σ) (watch : Watch σ) : List (Action σ) → Bool
  | [] => watch.patrol.isPrompt
  | action :: actions =>
    watch.patrol.inTime action && (watch.act site action).isTimely site actions

/-- The invariant holds at any time during actions that come in time. -/
theorem Steady.run {site : Site σ} {watch : Watch σ} (h : Steady site.config watch)
    {before after : List (Action σ)} (htimely : watch.isTimely site (before ++ after)) :
    Steady site.config (watch.run site before) ∧ (watch.run site before).isTimely site after := by
  induction before generalizing watch with
  | nil => exact ⟨h, htimely⟩
  | cons action before ih =>
    obtain ⟨htime, hrest⟩ := Bool.and_eq_true_iff.mp htimely
    exact ih (h.act htime) hrest

/-- When no tick is due, the sweeps so far are those that the spells of running call for. -/
theorem Steady.sweeps_eq {config : Config} {watch : Watch σ} (h : Steady config watch)
    (hprompt : watch.patrol.isPrompt) :
    watch.sweeps.map (·.1) = watch.periods.flatMap (Sweeper.ticks config) := by
  unfold periods Spells.upTo
  cases hcurrent : watch.patrol.current with
  | none =>
    obtain ⟨hsince, hsweeps⟩ := h.off hcurrent
    rw [hsince, hsweeps]
    simp
  | some place =>
    obtain ⟨first, count, task, hduty⟩ := h.on place hcurrent
    -- The spell that goes on has had a tick for every whole interval so far.
    have hdue := Patrol.isDue_of_isPrompt hprompt hduty.present
    rw [hduty.since, hduty.sweeps, hduty.paced.eq_count hdue, List.flatMap_append]
    congr 1
    exact (List.flatMap_singleton _ _).symm

/-- What is known of an action at any time during a run. -/
structure Orderly (site : Site σ) (watch : Watch σ) (action : Action σ) : Prop where
  /-- A spell goes on as long as the sweep is on. -/
  reading : watch.spells.since.isSome = watch.patrol.isRunning
  /-- Of all tasks at most one is not dismissed: the one whose token is kept. -/
  alone : ∀ place task, watch.patrol.tasks[place]? = some task →
    ¬ task.Dismissed watch.patrol.time → watch.patrol.current = some place
  /-- No sweep is made while the sweep is off. -/
  sweeping : (watch.act site action).sweeps ≠ watch.sweeps → watch.patrol.isRunning
  /-- To turn the sweep on when it is on changes nothing. -/
  again : action = .obey .start → watch.patrol.isRunning → watch.act site action = watch
  /-- To turn the sweep on or off leaves the server as it is. -/
  untouched : action = .obey .start ∨ action = .obey .stop →
    (watch.act site action).patrol.server = watch.patrol.server

theorem Steady.orderly {site : Site σ} {watch : Watch σ} (h : Steady site.config watch)
    (action : Action σ) : Orderly site watch action where
  reading := h.isSome_since
  alone _ _ htask hactive := h.current_of_not_dismissed htask hactive
  sweeping hsweeps := by
    cases action with
    | obey command => exact absurd (sweeps_act_of_quiet (.obey command) rfl) hsweeps
    | meanwhile server => exact absurd (sweeps_act_of_quiet (.meanwhile server) rfl) hsweeps
    | turn place branch =>
      rcases watch.patrol.turn_cases site place branch with
        hrest | ⟨task, htask, ⟨-, hturn⟩ | ⟨-, -, hturn⟩ | ⟨sweeper, ids, hstage, hdue, -⟩⟩
      · exact absurd (sweeps_act_of_quiet _ (congrArg (·.2) hrest)) hsweeps
      · exact absurd (sweeps_act_of_quiet _ (congrArg (·.2) hturn)) hsweeps
      · exact absurd (sweeps_act_of_quiet _ (congrArg (·.2) hturn)) hsweeps
      · have hcurrent := h.current_of_not_dismissed htask
          (SweepTask.not_dismissed_of_due hstage hdue)
        rw [Patrol.isRunning, hcurrent]
        rfl
  again haction hrunning := by
    subst haction
    exact h.act_start_of_running site hrunning
  untouched haction := by
    rcases haction with rfl | rfl
    · show watch.patrol.start.server = _
      unfold Patrol.start
      split <;> rfl
    · show watch.patrol.stop.server = _
      unfold Patrol.stop
      split <;> rfl

end Watch

end SocketGate
