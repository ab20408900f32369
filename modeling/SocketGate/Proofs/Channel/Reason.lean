import SocketGate.Config.Basic
import SocketGate.Proofs.Channel.Callbacks
import SocketGate.Proofs.Channel.Inversion

/-!
# `SocketGate.Proofs.Channel.Reason`: the reason that is reported for a close

The reason of a close is settled in two places. A reader leaves its loop with the reason of
what it has met, and takes the reason of a forced close in its stead when it marks the
session closed. A sweep may close the session by force at any time up to there. After that
the session is closed, and a sweep does nothing.

`Channel.isExpired` says whether a sweep came in time. `Intact` is what holds of a channel
along a run: its session is closed exactly when the reader is past its loop, so the reason of
a forced close is there exactly when a sweep came in time (`Intact.run`).

* `Channel.exists_endsLoop`: a channel that reports its close has left its loop in one step of
  the run.
* `Channel.reason_of_leaving`: what is reported by a reader that has left its loop.
* `Channel.closeReason_of_actions`: the reason that is reported for a close, and the close
  frame that the peer gets.
-/

set_option autoImplicit false

namespace SocketGate.Channel

open Session (Operation)

/-! ### Forced closes -/

/-- Whether a sweep comes by and expires the session. -/
def Action.isExpire : Action → Bool
  | .expire => true
  | _ => false

/-- Whether a sweep closes the session by force before the reader has left its loop. -/
def isExpired (channel : Channel) : List Action → Bool
  | [] => false
  | action :: actions =>
    (action.isExpire && !channel.reader.isPastLoop) || (channel.after action).isExpired actions

theorem isExpired_append (channel : Channel) (before after : List Action) :
    channel.isExpired (before ++ after) =
      (channel.isExpired before || (channel.run before).isExpired after) := by
  induction before generalizing channel with
  | nil => rfl
  | cons action before ih =>
    rw [List.cons_append, isExpired, isExpired, ih, Bool.or_assoc]
    rfl

/-- The session of a channel is closed from the end of the loop on, and not before. The
channel keeps within its limits. -/
structure Intact (channel : Channel) : Prop where
  bounded : channel.Bounded
  sound : channel.decoder.Sound
  closed_iff : channel.session.state = .closed ↔ channel.reader.isPastLoop

/-- A channel that has just been made with the settings of a server. -/
theorem intact_ofTransport (transport : Transport) (id : SessionId) (path : String)
    (config : Config) (now : Nat) :
    Intact (ofTransport transport id path config.limits now) where
  bounded := {
    decoder := ⟨config.maxFrameSize.toNat_lt, nofun⟩
    assembler := ⟨config.maxMessageSize.toNat_lt, nofun⟩ }
  sound := nofun
  closed_iff := ⟨nofun, nofun⟩

/-- The writer does not touch the messages that come in. -/
theorem assembler_write {channel next : Channel} {now : Moment}
    (h : channel.write now = some next) : next.assembler = channel.assembler := by
  cases writeStep_of_write h <;> rfl

/-- A step of the reader that is ready. -/
theorem outcome_of_read {channel : Channel} {now : Moment} {wakeup : Wakeup} {step : Step}
    (h : channel.read now wakeup = some step) :
    channel.outcome (.read now wakeup) = step := by
  rw [outcome, h, Option.getD_some]

/-- A step of the reader that is not ready. -/
theorem outcome_of_read_eq_none {channel : Channel} {now : Moment} {wakeup : Wakeup}
    (h : channel.read now wakeup = none) :
    channel.outcome (.read now wakeup) = (channel, none) := by
  rw [outcome, h, Option.getD_none]

/-- A reader that meets what ends its loop leaves it in this step. -/
theorem leaves_of_read {channel next : Channel} {now : Moment} {wakeup : Wakeup}
    {event : Option Event} {exit : Exit} (hread : channel.read now wakeup = some (next, event))
    (hmeets : channel.Meets wakeup exit) (hreading : channel.reader = .reading)
    (hbounded : channel.Bounded) : channel.Leaves next exit := by
  obtain ⟨next', event', hread', hleaves⟩ := read_of_meets hmeets hreading hbounded now
  rw [hread] at hread'
  obtain ⟨rfl, -⟩ := Prod.mk.inj (Option.some.inj hread')
  exact hleaves

namespace Intact

variable {channel next : Channel}

/-- A step in which nothing is closed by force and the loop is not left. -/
theorem steady (h : channel.Intact) (hbounded : next.Bounded) (hsound : next.decoder.Sound)
    (hsteady : channel.session.Steady next.session)
    (hrank : channel.session.state = .closed → next.session.state = .closed)
    (hpast : next.reader.isPastLoop = channel.reader.isPastLoop) : next.Intact where
  bounded := hbounded
  sound := hsound
  closed_iff := by
    rw [hpast, ← h.closed_iff]
    exact ⟨fun hclosed => not_not.mp fun halive => hsteady.alive halive hclosed, hrank⟩

/-- A step to a reader that is past its loop. -/
theorem past (h : channel.Intact) (hdecoder : next.decoder = channel.decoder)
    (hassembler : next.assembler = channel.assembler) (hclosed : next.session.state = .closed)
    (hpast : next.reader.isPastLoop) : next.Intact where
  bounded := ⟨hdecoder ▸ h.bounded.decoder, hassembler ▸ h.bounded.assembler⟩
  sound := hdecoder ▸ h.sound
  closed_iff := by simp [hclosed, hpast]

/-- A step of the reader. -/
theorem read (h : channel.Intact) {now : Moment} {wakeup : Wakeup} {event : Option Event}
    (hread : channel.read now wakeup = some (next, event)) :
    next.Intact ∧ next.session.forcedReason = channel.session.forcedReason := by
  have hsound := sound_read hread h.sound
  cases hreader : channel.reader with
  | created | finished => simp [Channel.read, hreader] at hread
  | reading =>
    obtain ⟨hreads, hcases⟩ := read_cases hread hreader h.bounded
    obtain ⟨operations, hall, hsession⟩ := hreads.session
    have hsteady := channel.session.steady_run operations fun operation hmem =>
      .inl (hall operation hmem)
    rw [← hsession] at hsteady
    have hpast : next.reader.isPastLoop = channel.reader.isPastLoop := by
      rw [hreader]
      rcases hcases with hgoOn | ⟨exit, hmeets⟩
      · rw [hgoOn]
      · obtain ⟨reason, hleaving, -⟩ := (leaves_of_read hread hmeets hreader h.bounded).reader
        rw [hleaving]
        rfl
    exact ⟨h.steady (hreads.bounded h.bounded) hsound hsteady
      (fun hclosed => by simp [h.closed_iff, hreader, Reader.isPastLoop] at hclosed) hpast,
      hsteady.forcedReason⟩
  | leaving reason =>
    cases wakeup with
    | wrapUp =>
      simp only [Channel.read, hreader] at hread
      cases hread
      refine ⟨h.past rfl rfl channel.session.state_markClosed rfl, ?_⟩
      show channel.session.markClosed.forcedReason = _
      unfold Session.markClosed Session.queueShutdown
      split <;> rfl
    | _ => simp [Channel.read, hreader] at hread
  | draining reason since deadline =>
    have hclosed : channel.session.state = .closed := h.closed_iff.mpr (by rw [hreader]; rfl)
    cases wakeup with
    | wrapUp =>
      simp only [Channel.read, hreader, endDrain] at hread
      split at hread
      · cases hread
        exact ⟨h.past rfl rfl hclosed rfl, rfl⟩
      · split at hread
        · cases hread
          exact ⟨h.past rfl rfl hclosed rfl, rfl⟩
        · cases hread
    | _ => simp [Channel.read, hreader] at hread

/-- An action other than a step of the reader and an expiry. -/
theorem other (h : channel.Intact) (action : Action)
    (hread : ∀ now wakeup, action ≠ .read now wakeup) (hexpire : action ≠ .expire) :
    (channel.after action).Intact ∧
      (channel.after action).session.forcedReason = channel.session.forcedReason := by
  have hsound := channel.sound_after action h.sound
  have hrank := channel.closed_run [action] h.sound
  have hpast : (channel.after action).reader.isPastLoop = channel.reader.isPastLoop := by
    rcases (channel.after_of_not_read action hread).2.1 with hsame | ⟨hcreated, hreading⟩
    · rw [hsame]
    · rw [hcreated, hreading]
      rfl
  have hsteps : (channel.after action).Bounded ∧
      channel.session.Steady (channel.after action).session := by
    cases action with
    | peer step => exact ⟨⟨h.bounded.decoder, h.bounded.assembler⟩, .refl _⟩
    | announce =>
      exact ⟨⟨h.bounded.decoder, h.bounded.assembler⟩,
        channel.session.steady_after .announce nofun nofun⟩
    | start =>
      show channel.start.Bounded ∧ channel.session.Steady channel.start.session
      unfold start
      split <;> exact ⟨⟨h.bounded.decoder, h.bounded.assembler⟩, .refl _⟩
    | call request =>
      exact ⟨⟨h.bounded.decoder, h.bounded.assembler⟩,
        channel.session.steady_after (.call request) nofun nofun⟩
    | keepalive number =>
      exact ⟨⟨h.bounded.decoder, h.bounded.assembler⟩,
        channel.session.steady_after (.keepalive _) nofun nofun⟩
    | expire => exact absurd rfl hexpire
    | read now wakeup => exact absurd rfl (hread now wakeup)
    | write now =>
      show ((channel.write now).getD channel).Bounded ∧
        channel.session.Steady ((channel.write now).getD channel).session
      cases hwrite : channel.write now with
      | none => exact ⟨h.bounded, .refl _⟩
      | some next =>
        have hturn := write_turn hwrite
        have hkeeps : channel.KeepsReading next := by cases hturn <;> assumption
        obtain ⟨operations, hall, hsession⟩ := hturn.exists_writers
        have hassembler := assembler_write hwrite
        refine ⟨⟨hkeeps.decoder ▸ h.bounded.decoder, hassembler ▸ h.bounded.assembler⟩, ?_⟩
        show channel.session.Steady next.session
        rw [hsession]
        exact channel.session.steady_run operations fun operation hmem =>
          .inr (hall operation hmem)
  exact ⟨h.steady hsteps.1 hsound hsteps.2 hrank hpast, hsteps.2.forcedReason⟩

/-- A sweep closes the session by force, unless the reader is past its loop. -/
theorem expire (h : channel.Intact) :
    (channel.after .expire).Intact ∧ (channel.after .expire).session.forcedReason =
      if channel.reader.isPastLoop then channel.session.forcedReason
      else some (channel.session.forcedReason.getD CloseReason.expired) := by
  have hsession : (channel.after .expire).session =
      channel.session.forceClose CloseReason.expired := rfl
  rw [hsession]
  by_cases hclosed : channel.session.state = .closed
  · have hsame : channel.session.forceClose CloseReason.expired = channel.session := by
      unfold Session.forceClose
      rw [if_pos hclosed]
    rw [hsame, if_pos (h.closed_iff.mp hclosed)]
    refine ⟨?_, rfl⟩
    show (channel.withSession (channel.session.forceClose CloseReason.expired)).Intact
    rw [hsame]
    exact h
  · have hforced : channel.session.forceClose CloseReason.expired =
        { channel.session.breakOff CloseReason.expired with
          forcedReason := some (channel.session.forcedReason.getD CloseReason.expired)
          cancelled := true } := by
      unfold Session.forceClose
      rw [if_neg hclosed]
    -- The session is told as on a violation, so it is closing now.
    have hsteady := channel.session.steady_after (.breakOff CloseReason.expired) nofun nofun
    have halive := hsteady.alive hclosed
    rw [hforced, if_neg fun hpast => hclosed (h.closed_iff.mpr hpast)]
    refine ⟨⟨⟨h.bounded.decoder, h.bounded.assembler⟩, h.sound, ?_⟩, rfl⟩
    rw [hsession, hforced]
    exact ⟨fun hnext => absurd hnext halive, fun hpast => absurd (h.closed_iff.mpr hpast) hclosed⟩

/-- Whatever happens to a channel, the invariant is kept. Only a sweep that comes in time sets
the reason of a forced close, and the first one stands. -/
theorem after (h : channel.Intact) (action : Action) :
    (channel.after action).Intact ∧ (channel.after action).session.forcedReason =
      if action.isExpire && !channel.reader.isPastLoop then
        some (channel.session.forcedReason.getD CloseReason.expired)
      else channel.session.forcedReason := by
  by_cases hexpire : action = .expire
  · rw [hexpire]
    obtain ⟨hintact, hforced⟩ := h.expire
    refine ⟨hintact, hforced.trans ?_⟩
    cases channel.reader.isPastLoop <;> rfl
  · have hplain : action.isExpire = false := by
      cases action <;> first | rfl | exact absurd rfl hexpire
    rw [hplain, Bool.false_and, if_neg (by decide)]
    by_cases hread : ∃ now wakeup, action = .read now wakeup
    · obtain ⟨now, wakeup, rfl⟩ := hread
      unfold Channel.after
      cases hstep : channel.read now wakeup with
      | none =>
        rw [outcome_of_read_eq_none hstep]
        exact ⟨h, rfl⟩
      | some step =>
        rw [outcome_of_read hstep]
        exact h.read hstep
    · exact h.other action (fun now wakeup heq => hread ⟨now, wakeup, heq⟩) hexpire

/-- The invariant is kept by any actions. -/
theorem run (h : channel.Intact) (actions : List Action) :
    (channel.run actions).Intact ∧ (channel.run actions).session.forcedReason =
      if channel.isExpired actions then
        some (channel.session.forcedReason.getD CloseReason.expired)
      else channel.session.forcedReason := by
  induction actions generalizing channel with
  | nil => exact ⟨h, rfl⟩
  | cons action actions ih =>
    obtain ⟨hafter, hforced⟩ := h.after action
    obtain ⟨hrun, hforced'⟩ := ih hafter
    refine ⟨hrun, ?_⟩
    show ((channel.after action).run actions).session.forcedReason = _
    rw [hforced', hforced, isExpired]
    -- A second sweep in time changes nothing.
    cases action.isExpire && !channel.reader.isPastLoop <;>
      cases (channel.after action).isExpired actions <;> rfl

end Intact

/-! ### From the end of the loop to the report -/

/-- Once the reader is past its loop, no sweep changes the reason of a forced close. -/
theorem forcedReason_run_of_past {channel : Channel} (h : channel.Intact)
    (hpast : channel.reader.isPastLoop) (actions : List Action) :
    (channel.run actions).session.forcedReason = channel.session.forcedReason := by
  induction actions generalizing channel with
  | nil => rfl
  | cons action actions ih =>
    obtain ⟨hafter, hforced⟩ := h.after action
    have hclosed := channel.closed_run [action] h.sound (h.closed_iff.mpr hpast)
    have hforced' := ih hafter (hafter.closed_iff.mp hclosed)
    rw [hpast, Bool.not_true, Bool.and_false, if_neg (by decide)] at hforced
    exact hforced'.trans hforced

/-- A reader that waits for the writer reports the reason it has. -/
theorem reason_of_draining {channel : Channel} (hintact : channel.Intact)
    (actions : List Action) {reason : CloseReason} {since : Moment} {deadline : Nat}
    (h : channel.reader = .draining reason since deadline)
    {state : SessionState} {reported : CloseReason}
    (hreported : (state, .closed reported) ∈ channel.events actions) : reported = reason := by
  induction actions generalizing channel with
  | nil => simp [events] at hreported
  | cons action actions ih =>
    have hafter := (hintact.after action).1
    rw [events, List.mem_append] at hreported
    by_cases hread : ∃ now wakeup, action = .read now wakeup
    · obtain ⟨now, wakeup, rfl⟩ := hread
      cases hstep : channel.read now wakeup with
      | none =>
        simp only [told, Channel.after, outcome_of_read_eq_none hstep] at hreported
        exact ih hintact h (hreported.resolve_left (by simp))
      | some step =>
        obtain ⟨next, event⟩ := step
        -- The reader finishes in this step, and nothing is reported after it.
        have hlast : event = some (.closed reason) ∧ next.reader = .finished ∧
            next.writer.isOver := by
          cases read_turn hstep hintact.sound with
          | goOn _ _ _ before | leave _ _ _ _ before | drain _ _ _ _ _ before =>
            simp [h] at before
          | finish reason' _ _ result serves before after ended =>
            obtain ⟨rfl, -⟩ := Reader.draining.inj (h.symm.trans before)
            exact ⟨rfl, after, by rw [serves.writer, ended]; rfl⟩
          | abandon reason' _ _ before after _ _ aborted =>
            obtain ⟨rfl, -⟩ := Reader.draining.inj (h.symm.trans before)
            exact ⟨rfl, after, by rw [aborted]; rfl⟩
        obtain ⟨rfl, hfinished, hover⟩ := hlast
        simp only [told, Channel.after, outcome_of_read hstep,
          (next.finished_run actions hfinished hover).1] at hreported
        have hsame : state = next.session.state ∧ reported = reason := by simpa using hreported
        exact hsame.2
    · have hother : ∀ now wakeup, action ≠ .read now wakeup :=
        fun now wakeup heq => hread ⟨now, wakeup, heq⟩
      obtain ⟨htold, hreader, -⟩ := channel.after_of_not_read action hother
      rw [htold] at hreported
      have hsame := hreader.resolve_right fun hcreated => by simp [h] at hcreated
      exact ih hafter (hsame.trans h) (hreported.resolve_left (by simp))

/-- Only the next step of a reader that has left its loop makes a difference to it. -/
theorem after_of_leaving {channel : Channel} {action : Action} {reason : CloseReason}
    (h : channel.reader = .leaving reason) (hwait : ∀ now, action ≠ .read now .wrapUp) :
    channel.told action = none ∧ (channel.after action).reader = channel.reader := by
  by_cases hread : ∃ now wakeup, action = .read now wakeup
  · obtain ⟨now, wakeup, rfl⟩ := hread
    have hnone : channel.read now wakeup = none := by
      cases wakeup with
      | wrapUp => exact absurd rfl (hwait now)
      | _ => simp [Channel.read, h]
    rw [told, Channel.after, outcome_of_read_eq_none hnone]
    exact ⟨rfl, rfl⟩
  · obtain ⟨htold, hreader, -⟩ := channel.after_of_not_read action
      fun now wakeup heq => hread ⟨now, wakeup, heq⟩
    exact ⟨htold, hreader.resolve_right fun hcreated => by simp [h] at hcreated⟩

/-- A reader that has left its loop reports the reason of a forced close, if there is one
until it marks the session closed, and otherwise the reason it has left with. -/
theorem reason_of_leaving {channel : Channel} (hintact : channel.Intact) (actions : List Action)
    {reason : CloseReason} (h : channel.reader = .leaving reason)
    {state : SessionState} {reported : CloseReason}
    (hreported : (state, .closed reported) ∈ channel.events actions) :
    reported = ((channel.run actions).session.forcedReason).getD reason := by
  induction actions generalizing channel with
  | nil => simp [events] at hreported
  | cons action actions ih =>
    obtain ⟨hafter, hforced⟩ := hintact.after action
    rw [events, List.mem_append] at hreported
    show reported = (((channel.after action).run actions).session.forcedReason).getD reason
    by_cases hread : ∃ now, action = .read now .wrapUp
    · obtain ⟨now, rfl⟩ := hread
      have hstep : channel.read now .wrapUp = some (channel.beginDrain now reason) := by
        unfold Channel.read
        rw [h]
      have hnext : channel.after (.read now .wrapUp) = (channel.beginDrain now reason).1 := by
        rw [Channel.after, outcome_of_read hstep]
      have hdrained : (channel.after (.read now .wrapUp)).reader = .draining
          (channel.session.forcedReason.getD reason) now (now.time + channel.closeTimeout) := by
        rw [hnext]
        rfl
      have htold : channel.told (.read now .wrapUp) = none := by
        rw [told, outcome_of_read hstep]
        rfl
      rw [htold] at hreported
      rw [forcedReason_run_of_past hafter (by rw [hdrained]; rfl), hforced]
      exact reason_of_draining hafter actions hdrained (hreported.resolve_left (by simp))
    · have hwait : ∀ now, action ≠ .read now .wrapUp := fun now heq => hread ⟨now, heq⟩
      obtain ⟨htold, hsame⟩ := after_of_leaving h hwait
      rw [htold] at hreported
      exact ih hafter (hsame.trans h) (hreported.resolve_left (by simp))

/-- In a run with these actions the reader leaves its loop after `before`, in a step at `now`
in which it meets `exit`. -/
structure EndsLoop (channel : Channel) (actions before : List Action) (now : Moment)
    (wakeup : Wakeup) (exit : Exit) : Prop where
  split : ∃ after, actions = before ++ .read now wakeup :: after
  reading : (channel.run before).reader = .reading
  meets : (channel.run before).Meets wakeup exit

/-- A channel whose reader has left its loop has left it in one step of the run. -/
theorem exists_endsLoop {channel : Channel} (hintact : channel.Intact) (actions : List Action)
    (hbefore : channel.reader = .created ∨ channel.reader = .reading)
    (hafter : (channel.run actions).reader = .finished) :
    ∃ before now wakeup exit, channel.EndsLoop actions before now wakeup exit := by
  induction actions generalizing channel with
  | nil =>
    change channel.reader = .finished at hafter
    simp [hafter] at hbefore
  | cons action actions ih =>
    -- Either the loop ends in this step, or it ends later.
    have hstep : (∃ now wakeup exit, action = .read now wakeup ∧ channel.reader = .reading ∧
        channel.Meets wakeup exit) ∨
        ((channel.after action).reader = .created ∨ (channel.after action).reader = .reading) := by
      by_cases hread : ∃ now wakeup, action = .read now wakeup
      · obtain ⟨now, wakeup, rfl⟩ := hread
        cases hready : channel.read now wakeup with
        | none =>
          rw [Channel.after, outcome_of_read_eq_none hready]
          exact .inr hbefore
        | some step =>
          rw [Channel.after, outcome_of_read hready]
          rcases hbefore with hcreated | hreading
          · simp [Channel.read, hcreated] at hready
          · obtain ⟨-, hgoOn | ⟨exit, hmeets⟩⟩ := read_cases hready hreading hintact.bounded
            · exact .inr (.inr hgoOn)
            · exact .inl ⟨now, wakeup, exit, rfl, hreading, hmeets⟩
      · obtain ⟨-, hsame | ⟨-, hstarted⟩, -⟩ := channel.after_of_not_read action
          fun now wakeup heq => hread ⟨now, wakeup, heq⟩
        · exact .inr (hsame ▸ hbefore)
        · exact .inr (.inr hstarted)
    rcases hstep with ⟨now, wakeup, exit, rfl, hreading, hmeets⟩ | hlater
    · exact ⟨[], now, wakeup, exit, ⟨actions, rfl⟩, hreading, hmeets⟩
    · obtain ⟨before, now, wakeup, exit, ⟨after, rfl⟩, hreading, hmeets⟩ :=
        ih (hintact.after action).1 hlater hafter
      exact ⟨action :: before, now, wakeup, exit, ⟨after, rfl⟩, hreading, hmeets⟩

/-! ### The reason of the close -/

/-- The session of a channel that has just been made keeps the discipline of its queue. -/
theorem exists_disciplined (transport : Transport) (id : SessionId) (path : String)
    (limits : Limits) (now : Nat) (actions : List Action) :
    ∃ ledger, Session.Disciplined limits.queue
      ((ofTransport transport id path limits now).run actions).session ledger := by
  obtain ⟨operations, -, hsession, -⟩ :=
    (ofTransport transport id path limits now).exists_operations actions nofun
  obtain ⟨ledger, -, hdisciplined⟩ :=
    Session.exists_ledger id path limits.frame limits.queue now operations
  exact ⟨ledger, hsession ▸ hdisciplined⟩

/-- The only reason that is reported after the end of the loop. -/
theorem reason_of_endsLoop {channel : Channel} (hintact : channel.Intact)
    (hprotocol : Protocol channel []) (hforced : channel.session.forcedReason = none)
    {actions before : List Action} {now : Moment} {wakeup : Wakeup} {exit : Exit}
    (h : channel.EndsLoop actions before now wakeup exit)
    {state : SessionState} {reported : CloseReason}
    (hreported : (state, .closed reported) ∈ channel.events actions) :
    reported = if channel.isExpired actions then CloseReason.expired else exit.reason := by
  obtain ⟨⟨after, rfl⟩, hreading, hmeets⟩ := h
  obtain ⟨hmiddle, hforcedBefore⟩ := hintact.run before
  obtain ⟨-, hforcedAfter⟩ := hintact.run (before ++ .read now wakeup :: after)
  obtain ⟨next, event, hstep, hleaves⟩ := read_of_meets hmeets hreading hmiddle.bounded now
  obtain ⟨reason, hleaving, hreason⟩ := hleaves.reader
  have hnext : channel.run (before ++ [.read now wakeup]) = next := by
    rw [run_append]
    show (channel.run before).after (.read now wakeup) = next
    rw [Channel.after, outcome_of_read hstep]
  -- No close has been reported up to this step.
  have hlater : (state, .closed reported) ∈ next.events after := by
    have hfirst := (hprotocol.run (before ++ [.read now wakeup]) hintact.sound).reported
    rw [hnext, List.nil_append] at hfirst
    rw [List.append_cons, events_append, hnext] at hreported
    refine (List.mem_append.mp hreported).resolve_left fun hearly => ?_
    have hfinished := hfirst.closed_mem_iff.mp ⟨reported, List.mem_map_of_mem hearly⟩
    simp [hleaving] at hfinished
  have hrun : channel.run (before ++ .read now wakeup :: after) = next.run after := by
    rw [List.append_cons, run_append, hnext]
  rw [hrun] at hforcedAfter
  rw [reason_of_leaving (hmiddle.read hstep).1 after hleaving hlater, hforcedAfter, hforced]
  cases hexpired : channel.isExpired (before ++ .read now wakeup :: after) with
  | true => rfl
  | false =>
    rw [isExpired_append, Bool.or_eq_false_iff] at hexpired
    rw [hexpired.1, hforced] at hforcedBefore
    exact hreason hforcedBefore

/-- The reason of a close frame is read off its payload. -/
theorem parsed_of_meets {channel : Channel} {wakeup : Wakeup} {payload : Bytes}
    {reason : CloseReason} (h : channel.Meets wakeup (.closeFrame payload reason)) :
    CloseReason.ofPayload? payload = .ok reason := by
  cases h with
  | closeFrame _ _ _ _ parsed => exact parsed

/-- The close frame that is queued at the end of the loop, if the session was writable and had
a writer. -/
theorem close_queued_of_meets {channel : Channel} (hintact : channel.Intact) {limit : Nat}
    {ledger : Ledger} (h : Session.Disciplined limit channel.session ledger)
    (hreading : channel.reader = .reading) {wakeup : Wakeup} {exit : Exit}
    (hmeets : channel.Meets wakeup exit) (now : Moment)
    (hwritable : channel.session.state.isWritable) (hattached : channel.session.outbox.attached) :
    let queued := channel.session.outbox.added
      (channel.after (.read now wakeup)).session.outbox
    (∀ violation, exit = .broken violation →
      .frame (Frame.close (Violation.closeReason violation)) ∈ queued) ∧
    ∀ payload reason, exit = .closeFrame payload reason →
      .frame (Frame.close (CloseReason.of reason.code "")) ∈ queued := by
  obtain ⟨next, event, hstep, hleaves⟩ := read_of_meets hmeets hreading hintact.bounded now
  have hnext : channel.after (.read now wakeup) = next := by
    rw [Channel.after, outcome_of_read hstep]
  obtain ⟨noted, hnoted, hsession⟩ := hleaves.session
  -- That a frame has come in makes no difference to the queue.
  have hsame : noted.outbox = channel.session.outbox ∧ noted.state = channel.session.state ∧
      ∃ ledger, Session.Disciplined limit noted ledger := by
    rcases hnoted with rfl | ⟨time, data, rfl⟩
    · exact ⟨rfl, rfl, ledger, h⟩
    · obtain ⟨ledger', -, h'⟩ :=
        h.turn (channel.session.after_turn (.recordInbound time data))
      exact ⟨rfl, rfl, ledger', h'⟩
  obtain ⟨houtbox, hstate, ledger', h'⟩ := hsame
  obtain ⟨hbroken, hclosed⟩ :=
    Session.close_mem_added_leave h' (hstate ▸ hwritable) (houtbox ▸ hattached)
  intro queued
  have hqueued : queued = noted.outbox.added (noted.leave exit).outbox := by
    rw [← hsession, ← hnext, houtbox]
  rw [hqueued]
  constructor
  · rintro violation rfl
    exact hbroken violation
  · rintro payload reason rfl
    exact hclosed payload reason

/-- The reason of a close, for any actions on a channel with the settings of a server. In
order:

- a channel that reports its close has left its loop in one step of the run;
- the only reason that is reported is then that of a forced close, if a sweep came before the
  reader was past its loop, and otherwise that of the exit: what the close frame of the peer
  says, the code and the whole wording of a violation, or that the connection was lost;
- if the session was writable at the exit and had a writer, a violation queues a close frame
  that is read as the reason of the exit, and a close frame of the peer queues one that is read
  as its code without a text, and that is empty if the one of the peer was. -/
theorem closeReason_of_actions (transport : Transport) (id : SessionId) (path : String)
    (config : Config) (now : Nat) (actions : List Action) :
    let start := ofTransport transport id path config.limits now
    ((∃ state reason, (state, .closed reason) ∈ start.events actions) →
      ∃ before now wakeup exit, start.EndsLoop actions before now wakeup exit) ∧
    ∀ before now wakeup exit, start.EndsLoop actions before now wakeup exit →
      (∀ state reason, (state, .closed reason) ∈ start.events actions →
        reason = if start.isExpired actions then CloseReason.expired else exit.reason) ∧
      let session := (start.run before).session
      let queued := session.outbox.added
        ((start.run before).after (.read now wakeup)).session.outbox
      session.state.isWritable → session.outbox.attached →
        (∀ violation, exit = .broken violation → ∃ payload,
          .frame (Frame.ofPayload .close payload) ∈ queued ∧
          CloseReason.ofPayload? payload = .ok exit.reason) ∧
        ∀ received peer, exit = .closeFrame received peer → ∃ payload,
          .frame (Frame.ofPayload .close payload) ∈ queued ∧
          CloseReason.ofPayload? payload = .ok { code := peer.code, text := "" } ∧
          (received = [] → payload = []) := by
  intro start
  have hintact := intact_ofTransport transport id path config now
  have hprotocol := protocol_ofTransport transport id path config.limits now
  constructor
  · rintro ⟨state, reason, hreported⟩
    have hend := (hprotocol.run actions hintact.sound).reported
    exact exists_endsLoop hintact actions (.inl rfl)
      (hend.closed_mem_iff.mp ⟨reason, List.mem_map_of_mem hreported⟩)
  · intro before now' wakeup exit h
    refine ⟨fun state reason hreported => reason_of_endsLoop hintact hprotocol rfl h hreported, ?_⟩
    intro session queued hwritable hattached
    obtain ⟨ledger, hdisciplined⟩ :=
      exists_disciplined transport id path config.limits now before
    obtain ⟨hbroken, hclosed⟩ := close_queued_of_meets (hintact.run before).1 hdisciplined
      h.reading h.meets now' hwritable hattached
    constructor
    · rintro violation rfl
      exact ⟨_, hbroken violation rfl,
        CloseReason.ofPayload?_toPayload violation.sendable_closeReason⟩
    · rintro received peer rfl
      obtain ⟨hanswer, hempty⟩ := CloseReason.ofPayload?_answer (parsed_of_meets h.meets)
      exact ⟨_, hclosed received peer rfl, hanswer, hempty⟩

end SocketGate.Channel
