import SocketGate.Proofs.Server.Sweep

/-!
# `SocketGate.Proofs.Server.Accounting`: what the keepalive counts

A session counts the pings that it has missed, and it remembers when it was active last. What
these two numbers ought to be is said here without looking at them: `History.signs` collects
what happens to a session in a run, which is that it begins, that a keepalive ping enters its
queue, and that its reader takes in a frame. The missed pings are those behind the last frame,
and the session was active last when its last data frame came in, or when it began.

* `Server.visits_kept`: a sweep counts every ping that it queues, and only these.
* `Server.History.Accounts.act`: the numbers stay right in every action.
* `Server.accounting_of_actions`: they are right after any actions.
-/

set_option autoImplicit false

namespace SocketGate

/-! ### Signs -/

/-- Something that the keepalive of a session goes by. -/
inductive Sign where
  /-- The session begins. -/
  | begun (time : Nat)
  /-- A keepalive ping enters the queue of the session. -/
  | pinged
  /-- A frame is taken in and recorded, which may be a data frame. -/
  | frame (time : Nat) (data : Bool)
  deriving DecidableEq

namespace Sign

def isFrame : Sign → Bool
  | .frame .. => true
  | _ => false

/-- The time of an activity. -/
def activity? : Sign → Option Nat
  | .begun time | .frame time true => some time
  | _ => none

/-- How many pings there are behind the last frame. -/
def missed (signs : List Sign) : Nat := (signs.reverse.takeWhile (!·.isFrame)).count .pinged

/-- The time of the last activity. -/
def lastActivity? (signs : List Sign) : Option Nat := (signs.filterMap activity?).getLast?

theorem missed_append_frame (signs : List Sign) (time : Nat) (data : Bool) :
    missed (signs ++ [.frame time data]) = 0 := by
  simp [missed, isFrame]

theorem missed_append_pinged (signs : List Sign) (count : Nat) :
    missed (signs ++ List.replicate count .pinged) = missed signs + count := by
  unfold missed
  rw [List.reverse_append, List.reverse_replicate, List.takeWhile_append_of_pos,
    List.count_append, List.count_replicate_self, Nat.add_comm]
  intro sign hsign
  rw [List.eq_of_mem_replicate hsign]
  rfl

theorem lastActivity?_append_of_none {signs more : List Sign}
    (h : ∀ sign ∈ more, sign.activity? = none) :
    lastActivity? (signs ++ more) = lastActivity? signs := by
  rw [lastActivity?, List.filterMap_append, List.filterMap_eq_nil_iff.mpr h, List.append_nil]
  rfl

theorem lastActivity?_append_pinged (signs : List Sign) (count : Nat) :
    lastActivity? (signs ++ List.replicate count .pinged) = lastActivity? signs :=
  lastActivity?_append_of_none fun sign hsign => by
    rw [List.eq_of_mem_replicate hsign]
    rfl

theorem lastActivity?_append_frame (signs : List Sign) (time : Nat) (data : Bool) :
    lastActivity? (signs ++ [.frame time data]) =
      if data then some time else lastActivity? signs := by
  unfold lastActivity?
  rw [List.filterMap_append]
  cases data with
  | true => exact List.getLast?_concat
  | false => simp [activity?]

end Sign

/-- Whether an item is a ping. -/
def Outbound.isPing : Outbound → Bool
  | .frame f => f.opcode = .ping
  | .shutdown => false

namespace Session

/-- At this time the numbers of a session agree with these signs, and it has missed no more pings
than the threshold says. -/
structure Accounted (config : Config) (time : Nat) (signs : List Sign) (session : Session) :
    Prop where
  missed : session.missedPings.toNat = Sign.missed signs
  bound : session.missedPings ≤ config.pingFailureThreshold
  active : Sign.lastActivity? signs = some session.lastActivity
  past : session.lastActivity ≤ time

namespace Accounted

variable {config : Config} {time : Nat} {signs : List Sign} {session next : Session}

/-- A session that has just begun. -/
theorem of_begun (hmarks : next.marks = (0, time)) : Accounted config time [.begun time] next where
  missed := by
    rw [show next.missedPings = 0 from congrArg (·.1) hmarks]
    rfl
  bound := by
    rw [show next.missedPings = 0 from congrArg (·.1) hmarks]
    exact UInt32.zero_le
  active := by
    rw [show next.lastActivity = time from congrArg (·.2) hmarks]
    rfl
  past := Nat.le_of_eq (congrArg (·.2) hmarks)

theorem later {time' : Nat} (h : Accounted config time signs session) (htime : time ≤ time') :
    Accounted config time' signs session :=
  ⟨h.missed, h.bound, h.active, Nat.le_trans h.past htime⟩

/-- A frame comes in, or none does. -/
theorem marksWith (h : Accounted config time signs session) (frame? : Option Frame)
    (hmarks : next.marks = session.marksWith time frame?) :
    Accounted config time
      (signs ++ (frame?.map fun frame => Sign.frame time frame.opcode.isData).toList) next := by
  cases frame? with
  | none =>
    have hmissed : next.missedPings = session.missedPings := congrArg (·.1) hmarks
    have hactive : next.lastActivity = session.lastActivity := congrArg (·.2) hmarks
    rw [Option.map_none, Option.toList_none, List.append_nil]
    exact ⟨hmissed ▸ h.missed, hmissed ▸ h.bound, hactive ▸ h.active, hactive ▸ h.past⟩
  | some frame =>
    have hmissed : next.missedPings = 0 := congrArg (·.1) hmarks
    have hactive : next.lastActivity =
        if frame.opcode.isData then time else session.lastActivity := congrArg (·.2) hmarks
    rw [Option.map_some, Option.toList_some]
    refine ⟨?_, ?_, ?_, ?_⟩
    · rw [hmissed, Sign.missed_append_frame]
      rfl
    · rw [hmissed]
      exact UInt32.zero_le
    · rw [Sign.lastActivity?_append_frame, hactive, h.active]
      split <;> rfl
    · rw [hactive]
      split
      · exact Nat.le_refl time
      · exact h.past

end Accounted

/-- From `session` to `next` a sweep has done its part: it has counted every ping that it has
queued, and queued nothing else but what a session is expired with. -/
structure Kept (config : Config) (session next : Session) : Prop where
  active : next.lastActivity = session.lastActivity
  bound : next.missedPings ≤ config.pingFailureThreshold
  queued : ∃ items, next.outbox = session.outbox.append items ∧
    next.missedPings.toNat = session.missedPings.toNat + items.countP Outbound.isPing

namespace Kept

variable {config : Config} {session middle next : Session}

theorem refl (hbound : session.missedPings ≤ config.pingFailureThreshold) :
    Kept config session session :=
  ⟨rfl, hbound, [], (Outbox.append_nil _).symm, rfl⟩

theorem trans (h : Kept config session middle) (h' : Kept config middle next) :
    Kept config session next := by
  obtain ⟨first, hfirst, hmissed⟩ := h.queued
  obtain ⟨rest, hrest, hmissed'⟩ := h'.queued
  refine ⟨h'.active.trans h.active, h'.bound, first ++ rest, ?_, ?_⟩
  · rw [hrest, hfirst, Outbox.append_append]
  · rw [hmissed', hmissed, List.countP_append, Nat.add_assoc]

/-- The pings that were queued in between are signs of the session. -/
theorem accounted {time : Nat} {signs : List Sign} (h : Kept config session next)
    (haccounted : Accounted config time signs session) :
    Accounted config time (signs ++ List.replicate
      ((session.outbox.added next.outbox).countP Outbound.isPing) .pinged) next := by
  obtain ⟨items, hqueued, hmissed⟩ := h.queued
  rw [hqueued, Outbox.added_append]
  refine ⟨?_, h.bound, ?_, h.active ▸ haccounted.past⟩
  · rw [Sign.missed_append_pinged, hmissed, haccounted.missed]
  · rw [Sign.lastActivity?_append_pinged, haccounted.active, h.active]

end Kept

/-- The items that an open session is expired with are no pings. -/
theorem queued_forceClose (session : Session) (reason : CloseReason)
    (h : session.state.isWritable) :
    ∃ items, (session.forceClose reason).outbox = session.outbox.append items ∧
      items.countP Outbound.isPing = 0 := by
  have hput (outbox : Outbox) (item : Outbound) (hitem : item.isPing = false) :
      ∃ items, outbox.put item = outbox.append items ∧ items.countP Outbound.isPing = 0 := by
    refine ⟨outbox.admitted item, outbox.put_eq item, ?_⟩
    unfold Outbox.admitted
    split <;> simp [hitem]
  obtain ⟨first, hfirst, hnone⟩ := hput session.outbox (.frame (Frame.close reason)) rfl
  rw [session.forceClose_of_writable reason h]
  unfold queueShutdown putClose
  dsimp only
  split
  · exact ⟨first, hfirst, hnone⟩
  · obtain ⟨rest, hrest, hnone'⟩ := hput (session.outbox.append first) .shutdown rfl
    refine ⟨first ++ rest, ?_, by rw [List.countP_append, hnone, hnone']⟩
    show (session.outbox.put (.frame (Frame.close reason))).put .shutdown = _
    rw [hfirst, hrest, Outbox.append_append]

end Session

namespace Server

variable {σ : Type}

/-! ### Sweeps -/

/-- What a sweep that has come to this verdict does to a session. -/
theorem kept_of_verdict {config : Config} {channel : Channel} (time : Nat) (number : UInt64)
    (hbound : channel.session.missedPings ≤ config.pingFailureThreshold) :
    (verdict config time channel.session = .pinged →
      Session.Kept config channel.session (channel.after (.keepalive number)).session) ∧
    (verdict config time channel.session = .expired →
      Session.Kept config channel.session (channel.after .expire).session) := by
  constructor
  · intro hverdict
    obtain ⟨hroom, hfew⟩ := verdict_pinged hverdict
    have hcounted := missedPings_of_pinged number hverdict
    have hping : (channel.after (.keepalive number)).session = { channel.session with
        outbox := channel.session.outbox.append
          [.frame (Frame.ping (Bytes.ofNatBE 8 number.toNat))]
        missedPings := channel.session.missedPings + 1 } := by
      show (channel.session.keepalive _).2 = _
      rw [Session.keepalive_of_opened _ (opened_of_verdict (by rw [hverdict]; nofun)), if_pos hroom]
    refine ⟨by rw [hping], ?_, [.frame (Frame.ping _)], by rw [hping], hcounted⟩
    have hless := UInt32.lt_iff_toNat_lt.mp hfew
    exact UInt32.le_iff_toNat_le.mpr (by omega)
  · intro hverdict
    have hopened := opened_of_verdict (by rw [hverdict]; nofun)
    have hmarks := channel.marks_after_of_silent .expire trivial
    have hmissed : (channel.after .expire).session.missedPings = channel.session.missedPings :=
      congrArg (·.1) hmarks
    obtain ⟨items, hqueued, hnone⟩ := channel.session.queued_forceClose CloseReason.expired
      (by simp [hopened, SessionState.isWritable])
    exact ⟨congrArg (·.2) hmarks, hmissed ▸ hbound, items, hqueued, by rw [hmissed, hnone]; rfl⟩

/-- What a visit does to the session in a slot. -/
theorem visit_kept (config : Config) (number : UInt64) (pass : Server σ × SweepReport)
    (id : SessionId) {slot service : Nat} {channel : Channel}
    (hlive : pass.1.connections[slot]? = some (.live service channel))
    (hbound : channel.session.missedPings ≤ config.pingFailureThreshold) :
    ∃ next, (visit config (Bytes.ofNatBE 8 number.toNat) pass id).1.connections[slot]? =
        some (.live service next) ∧ Session.Kept config channel.session next.session := by
  by_cases hslot : pass.1.slotOf? id = some slot
  · rw [visit_eq config number pass.1 pass.2 id hslot (channel?_live hlive)]
    obtain ⟨hpinged, hexpired⟩ := kept_of_verdict pass.1.now.time number hbound
    cases hverdict : verdict config pass.1.now.time channel.session with
    | passed => exact ⟨channel, hlive, .refl hbound⟩
    | pinged => exact ⟨_, modifyChannel_live pass.1 _ hlive, hpinged hverdict⟩
    | expired => exact ⟨_, modifyChannel_live (pass.1.deregister id) _ hlive, hexpired hverdict⟩
  · exact ⟨channel, (visit_connections_of_ne config number pass hslot).trans hlive, .refl hbound⟩

/-- What visits do to the session in a slot. -/
theorem visits_kept (config : Config) (number : UInt64) (ids : List SessionId)
    (pass : Server σ × SweepReport) {slot service : Nat} {channel : Channel}
    (hlive : pass.1.connections[slot]? = some (.live service channel))
    (hbound : channel.session.missedPings ≤ config.pingFailureThreshold) :
    ∃ next, (ids.foldl (visit config (Bytes.ofNatBE 8 number.toNat)) pass).1.connections[slot]? =
        some (.live service next) ∧ Session.Kept config channel.session next.session := by
  induction ids generalizing pass channel with
  | nil => exact ⟨channel, hlive, .refl hbound⟩
  | cons id ids ih =>
    obtain ⟨middle, hmiddle, hkept⟩ := visit_kept config number pass id hlive hbound
    obtain ⟨next, hnext, hkept'⟩ := ih _ hmiddle hkept.bound
    exact ⟨next, hnext, hkept.trans hkept'⟩

/-! ### Sessions that begin -/

/-- The marks of a session that has begun, when the application has been told of it. -/
theorem marks_begun (site : Site σ) (time : Nat) (id : SessionId) (transport : Transport)
    (request : Http.Request) (requests : List Call) :
    (Connection.begun site time id transport request requests).session.marks = (0, time) := by
  unfold Connection.begun
  generalize hchannel :
    Channel.ofTransport transport id request.path site.config.limits time = channel
  have hrun : channel.run (.announce :: (requests.map .call ++ [.start])) =
      (channel.announce.run (requests.map .call)).start :=
    Channel.run_append channel.announce _ [.start]
  calc
    _ = (channel.announce.run (requests.map .call)).start.session.marks := by rw [hrun]
    _ = (channel.announce.run (requests.map .call)).session.marks :=
      Channel.marks_after_of_silent _ .start trivial
    _ = channel.announce.session.marks := channel.announce.marks_run_calls requests
    _ = channel.session.marks := channel.marks_after_of_silent .announce trivial
    _ = (0, time) := by rw [← hchannel]; rfl

/-- The marks of a session that begins with an action of its connection. -/
theorem marks_of_own_begun (site : Site σ) (now : Moment) (id : SessionId) (requests : List Call)
    {action : Action} {connection : Connection} {channel : Channel}
    (hnone : connection.channel? = none)
    (hchannel : (connection.own site now id requests action).channel? = some channel) :
    channel.session.marks = (0, now.time) := by
  cases connection with
  | live service channel' => cases hnone
  | finished transport result => cases action <;> cases hchannel
  | awaitingHead transport =>
    cases action with
    | head slot =>
      rw [Connection.own] at hchannel
      cases hread : readHead site transport with
      | none =>
        rw [hread] at hchannel
        cases hchannel
      | some answered =>
        rw [hread, Option.getD_some, channel?_readHead site transport answered hread] at hchannel
        cases hchannel
    | _ => cases hchannel
  | replying transport reply unsent =>
    cases action with
    | reply slot =>
      have hfailed (fault : IoFault) :
          (Connection.failReply transport reply fault).channel? = none := by
        cases reply <;> rfl
      unfold Connection.own Connection.replied at hchannel
      dsimp only at hchannel
      split at hchannel
      · cases reply with
        | upgrade request service =>
          dsimp only at hchannel
          split at hchannel
          · cases hchannel
            exact marks_begun site now.time id transport request requests
          · simp [hfailed] at hchannel
        | refusal refusal => cases hchannel
        | page => cases hchannel
      · split at hchannel
        · cases hchannel
        · split at hchannel
          · simp [hfailed] at hchannel
          · cases hchannel
    | _ => cases hchannel

namespace History

/-- The marks of a session that begins. -/
theorem marks_of_begun (site : Site σ) (history : History σ) {action : Action} {slot : Nat}
    {channel : Channel} (hnone : history.server.channel? slot = none)
    (hchannel : (history.act site action).server.channel? slot = some channel) :
    channel.session.marks = (0, history.server.now.time) := by
  -- A connection that goes on by actions of a channel does not become one.
  have hrun (next : Server σ) (actions : List Channel.Action)
      (hnext : next.connections[slot]? =
        history.server.connections[slot]?.map (·.run actions)) : next.channel? slot = none := by
    unfold channel? at hnone ⊢
    rw [hnext]
    cases hconnection : history.server.connections[slot]? with
    | none => rfl
    | some connection =>
      rw [hconnection] at hnone
      cases connection with
      | live service channel' => cases hnone
      | _ => rfl
  have hsame (next : Server σ) (hnext : next.channel? slot = none)
      (h : next.channel? slot = some channel) :
      channel.session.marks = (0, history.server.now.time) := by
    rw [hnext] at h
    cases h
  cases haction : action.slot? with
  | some slot' =>
    cases hconnection : history.server.connections[slot']? with
    | none =>
      rw [history.act_of_nobody site haction hconnection] at hchannel
      exact hsame _ hnone hchannel
    | some connection =>
      obtain ⟨calls, hacts⟩ := history.act_acts site haction hconnection
      by_cases hslot : slot' = slot
      · subst hslot
        rw [history.server.channel?_of_connection slot' connection hconnection] at hnone
        rw [channel?_of_connection _ slot' _ hacts.own] at hchannel
        exact marks_of_own_begun site history.server.now _ _ hnone hchannel
      · exact hsame _ (hrun _ _ (hacts.others slot (Ne.symm hslot))) hchannel
  | none =>
    have hsweep (ids : List SessionId) :
        (sweepOver site.config history.server ids).1.channel? slot = none := by
      obtain ⟨actions, hactions⟩ := sweepOver_connections site.config history.server ids slot
      exact hrun _ actions hactions
    cases action with
    | connect transport => exact hsame _ ((channel?_connect rfl slot).trans hnone) hchannel
    | sweep ids => exact hsame _ (hsweep ids) hchannel
    | tick ids =>
      rcases history.tick_cases site ids with ⟨hearly, -⟩ | ⟨sweeper, -, -, hdue⟩
      · rw [hearly] at hchannel
        exact hsame _ hnone hchannel
      · rw [hdue] at hchannel
        exact hsame _ (hsweep ids) hchannel
    | start =>
      refine hsame _ ?_ hchannel
      show (history.server.start site).channel? slot = none
      unfold start
      split <;> exact hnone
    | stop => exact hsame _ hnone hchannel
    | wait milliseconds => exact hsame _ hnone hchannel
    | _ => cases haction

/-! ### Runs -/

/-- The signs of the session in a slot that there are in an action. -/
def signsOf (site : Site σ) (slot : Nat) (history : History σ) (action : Action) : List Sign :=
  match history.server.channel? slot, (history.act site action).server.channel? slot with
  | none, some _ => [.begun history.server.now.time]
  | some before, some after =>
    match action.sweptIds? with
    | some _ => List.replicate
        ((before.session.outbox.added after.session.outbox).countP Outbound.isPing) .pinged
    | none => ((action.intake? slot before).map fun frame =>
        Sign.frame history.server.now.time frame.opcode.isData).toList
  | _, none => []

/-- The signs of the session in a slot that there are in some actions. -/
def signs (site : Site σ) (slot : Nat) : History σ → List Action → List Sign
  | _, [] => []
  | history, action :: actions =>
    history.signsOf site slot action ++ signs site slot (history.act site action) actions

/-- The numbers of the session in a slot agree with these signs. Where no session has begun there
are none. -/
def Accounts (config : Config) (slot : Nat) (signs : List Sign) (server : Server σ) : Prop :=
  match server.channel? slot with
  | none => signs = []
  | some channel => channel.session.Accounted config server.now.time signs

section

variable {site : Site σ} {history : History σ} {slot : Nat} {signs : List Sign}

/-- What a sweep, or a tick that may come too early, does to the session in a slot. -/
theorem kept_act {action : Action} {ids : List SessionId} {service : Nat} {channel : Channel}
    (hswept : action.sweptIds? = some ids)
    (hlive : history.server.connections[slot]? = some (.live service channel))
    (hbound : channel.session.missedPings ≤ site.config.pingFailureThreshold) :
    ∃ next, (history.act site action).server.channel? slot = some next ∧
      Session.Kept site.config channel.session next.session := by
  rcases history.act_sweeps site hswept with hearly | hsweeps
  · rw [hearly]
    exact ⟨channel, channel?_live hlive, .refl hbound⟩
  · obtain ⟨next, hnext, hkept⟩ := visits_kept site.config (history.server.sweeps + 1) ids
      ({ history.server with sweeps := history.server.sweeps + 1 }, {}) hlive hbound
    exact ⟨next, channel?_live (hsweeps.connections ▸ hnext), hkept⟩

/-- The numbers agree after an action with the signs that there are in it. -/
theorem Accounts.act (h : Accounts site.config slot signs history.server) (action : Action) :
    Accounts site.config slot (signs ++ history.signsOf site slot action)
      (history.act site action).server := by
  have hclock := (history.act_leads site (fun _ => True) action fun _ _ _ => trivial).clock
  unfold Accounts at h
  cases hchannel : history.server.channel? slot with
  | none =>
    rw [hchannel] at h
    obtain rfl : signs = [] := h
    unfold Accounts signsOf
    rw [hchannel]
    cases hnext : (history.act site action).server.channel? slot with
    | none => rfl
    | some channel =>
      exact (Session.Accounted.of_begun (history.marks_of_begun site hchannel hnext)).later hclock
  | some channel =>
    rw [hchannel] at h
    have haccounted : channel.session.Accounted site.config history.server.now.time signs := h
    obtain ⟨service, hlive⟩ := (history.server.channel?_eq_some_iff slot channel).mp hchannel
    unfold Accounts signsOf
    cases hswept : action.sweptIds? with
    | none =>
      obtain ⟨last, hlast, hmarks⟩ := history.marks_act site hswept hlive
      rw [hchannel, channel?_live hlast]
      exact (haccounted.marksWith _ hmarks).later hclock
    | some ids =>
      obtain ⟨next, hnext, hkept⟩ := kept_act hswept hlive haccounted.bound
      rw [hchannel, hnext]
      exact (hkept.accounted haccounted).later hclock

/-- The numbers agree after a run with the signs that there are in it. -/
theorem Accounts.run (h : Accounts site.config slot signs history.server)
    (actions : List Action) :
    Accounts site.config slot (signs ++ history.signs site slot actions)
      (history.run site actions).server := by
  induction actions generalizing history signs with
  | nil => rwa [History.signs, List.append_nil]
  | cons action actions ih =>
    rw [History.signs, ← List.append_assoc]
    exact ih (h.act action)

end

/-- A session that has begun does not begin again. -/
theorem begun_not_mem_signs (site : Site σ) (history : History σ) {slot : Nat} {channel : Channel}
    (hchannel : history.server.channel? slot = some channel) (actions : List Action)
    (time : Nat) : .begun time ∉ history.signs site slot actions := by
  induction actions generalizing history channel with
  | nil => exact List.not_mem_nil
  | cons action actions ih =>
    have hleads := history.act_leads site (fun _ => True) action fun _ _ _ => trivial
    obtain ⟨next, hnext, -⟩ := hleads.live slot channel hchannel
    rw [signs, List.mem_append, not_or]
    refine ⟨?_, ih (history.act site action) hnext⟩
    unfold signsOf
    rw [hchannel, hnext]
    cases action.sweptIds? <;> simp

end History

/-- After any actions, and then some more, a session that has begun is accounted for by the signs
that there were of it:

- it has missed the pings behind the last frame, and no more than the threshold says, so that the
  count does not overflow;
- it has been idle since its last data frame, or since it began;
- as long as no data frame comes in, it stays idle, whatever else is received or sent. -/
theorem accounting_of_actions (site : Site σ) (services : σ) (actions more : List Action)
    (slot : Nat) (channel : Channel) :
    let history := (fresh services).run site actions
    let signs := (fresh services).signs site slot actions
    let later := history.run site more
    let now := history.server.now.time
    history.server.channel? slot = some channel →
      channel.session.missedPings.toNat = Sign.missed signs ∧
      Sign.missed signs ≤ site.config.pingFailureThreshold.toNat ∧
      (∃ time ≤ now, Sign.lastActivity? signs = some time ∧
        channel.session.idle now = now - time) ∧
      ((∀ time, .frame time true ∉ history.signs site slot more) →
        ∃ next, later.server.channel? slot = some next ∧ now ≤ later.server.now.time ∧
          next.session.idle later.server.now.time =
            channel.session.idle now + (later.server.now.time - now)) := by
  intro history signs later now hchannel
  have hfresh : History.Accounts site.config slot [] (fresh services).server := rfl
  have haccounts : History.Accounts site.config slot signs history.server := hfresh.run actions
  have hlater := haccounts.run more
  unfold History.Accounts at haccounts hlater
  rw [hchannel] at haccounts
  have haccounted : channel.session.Accounted site.config now signs := haccounts
  refine ⟨haccounted.missed, ?_, ⟨_, haccounted.past, haccounted.active, rfl⟩, fun hquiet => ?_⟩
  · rw [← haccounted.missed]
    exact UInt32.le_iff_toNat_le.mp haccounted.bound
  · have hleads := history.run_leads site (fun _ => True) more fun _ _ _ => trivial
    obtain ⟨next, hnext, -⟩ := hleads.live slot channel hchannel
    refine ⟨next, hnext, hleads.clock, ?_⟩
    rw [show (history.run site more).server.channel? slot = some next from hnext] at hlater
    have hsilent : ∀ sign ∈ history.signs site slot more, sign.activity? = none := by
      intro sign hsign
      match sign with
      | .begun time => exact absurd hsign (history.begun_not_mem_signs site hchannel more time)
      | .frame time true => exact absurd hsign (hquiet time)
      | .frame time false => rfl
      | .pinged => rfl
    have hactive := hlater.active
    rw [Sign.lastActivity?_append_of_none hsilent, haccounted.active] at hactive
    have hpast : channel.session.lastActivity ≤ now := haccounted.past
    have hclock : now ≤ later.server.now.time := hleads.clock
    unfold Session.idle
    rw [← Option.some.inj hactive]
    omega

/-- A session is sent a ping and answers with a data frame a while later. Then it is sent two more
pings. -/
def busyCaller : List Action :=
  oneCaller ++ [.sweep [⟨0, 1⟩], .wait 5, .peer 0 (.receive [0x81, 0x81, 0, 0, 0, 0, 0x61]),
    .read 0 .inbound, .wait 7, .sweep [⟨0, 1⟩], .sweep [⟨0, 1⟩]]

/-- An empty pong comes in after that. -/
def latePong : List Action :=
  [.peer 0 (.receive [0x8A, 0x80, 0, 0, 0, 0]), .read 0 .inbound, .wait 3]

/-- The first of the three pings is answered by the data frame. The pong leaves the session idle. -/
theorem accounting_of_actions_busyCaller :
    (fresh ()).signs quietSite 0 busyCaller =
        [.begun 0, .pinged, .frame 5 true, .pinged, .pinged] ∧
      ((fresh ()).run quietSite busyCaller).signs quietSite 0 latePong = [.frame 12 false] ∧
      ∃ channel next, ((fresh ()).run quietSite busyCaller).server.channel? 0 = some channel ∧
        (((fresh ()).run quietSite busyCaller).run quietSite latePong).server.channel? 0 =
          some next ∧
        channel.session.missedPings.toNat = 2 ∧ channel.session.idle 12 = 7 ∧
        next.session.idle 15 = 10 := by
  have hevaluated : (fresh ()).signs quietSite 0 busyCaller =
        [.begun 0, .pinged, .frame 5 true, .pinged, .pinged] ∧
      ((fresh ()).run quietSite busyCaller).signs quietSite 0 latePong = [.frame 12 false] ∧
      ((fresh ()).run quietSite busyCaller).server.now.time = 12 ∧
      (((fresh ()).run quietSite busyCaller).run quietSite latePong).server.now.time = 15 ∧
      (((fresh ()).run quietSite busyCaller).server.channel? 0).isSome := by
    decide +kernel
  obtain ⟨hsigns, hmore, hnow, hlater, hsome⟩ := hevaluated
  obtain ⟨channel, hchannel⟩ := Option.isSome_iff_exists.mp hsome
  have haccounting := accounting_of_actions quietSite () busyCaller latePong 0 channel hchannel
  rw [hsigns, hmore, hnow, hlater] at haccounting
  obtain ⟨hmissed, -, ⟨time, -, hactive, hidle⟩, hquiet⟩ := haccounting
  obtain ⟨next, hnext, -, hstill⟩ := hquiet (by simp)
  obtain rfl : 5 = time := Option.some.inj hactive
  rw [hidle] at hstill
  exact ⟨hsigns, hmore, channel, next, hchannel, hnext, hmissed, hidle, hstill⟩

end Server

end SocketGate
