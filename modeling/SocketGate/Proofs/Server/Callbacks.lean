import SocketGate.Proofs.Channel.Callbacks
import SocketGate.Proofs.Server.History

/-!
# `SocketGate.Proofs.Server.Callbacks`: what an application is told about a session

A session has a slot to itself from its beginning on. `Server.Traced` says that the channel
in a slot comes out of a new one by actions of its own, and that the application was told
that it is open and then what these actions reported, and nothing else. About a slot
without a channel it was told nothing. So what is known of one channel holds for every
session of a server, whatever happens to the others.

* `Server.Traced.run`: this holds after any actions.
* `Server.callbackProtocol_of_actions`: the order of the callbacks of a session, the states
  they come in, and that nothing happens after the last one.
-/

set_option autoImplicit false

namespace SocketGate.Server

open Channel (ofTransport Protocol)

variable {σ : Type}

/-- What an application was told about a slot is that its session is open and what its
channel reported since. -/
structure Traced (site : Site σ) (server : Server σ) : Prop where
  silent : ∀ slot, server.channel? slot = none → server.callbacks slot = []
  live : ∀ (slot service : Nat) (channel : Channel),
    server.connections[slot]? = some (.live service channel) →
    ∃ transport id path now actions,
      channel = (ofTransport transport id path site.config.limits now).run actions ∧
      server.callbacks slot =
        (.opened, .opened) :: (ofTransport transport id path site.config.limits now).events actions

/-! ### Slots without a channel -/

/-- In one change a slot without a channel stays so and the application is told nothing
about it, or a session begins in it and the application is told that it is open. -/
theorem Move.begin_or_rest {site : Site σ} {server next : Server σ}
    {expired : Option SessionId} (h : Move site server next expired) (slot : Nat)
    (hnone : server.channel? slot = none) :
    (next.channel? slot = none ∧ next.callbacks slot = server.callbacks slot) ∨
    ∃ service transport id path now,
      next.connections[slot]? = some (.live service
        (ofTransport transport id path site.config.limits now).announce) ∧
      next.callbacks slot = server.callbacks slot ++ [(.opened, .opened)] := by
  have hchannel : next.connections[slot]? = server.connections[slot]? →
      next.channel? slot = none :=
    fun hsame => (channel?_congr hsame).trans hnone
  -- The channel in another slot acts, and a line about it may be added to the log.
  have hother : ∀ (slot' service : Nat) (channel : Channel) (connection : Connection)
      (lines : List Occurrence), server.connections[slot']? = some (.live service channel) →
      next.connections = server.connections.set slot' connection →
      next.log = server.log ++ lines → (∀ line ∈ lines, line.slot = slot') →
      next.channel? slot = none ∧ next.callbacks slot = server.callbacks slot := by
    intro slot' service channel connection lines hlive hconnections hlog hlines
    have hne : slot' ≠ slot := by
      rintro rfl
      rw [server.channel?_of_connection _ _ hlive] at hnone
      cases hnone
    exact ⟨hchannel (by rw [hconnections, List.getElem?_set_ne hne]),
      callbacks_of_other hlog hlines hne⟩
  cases h with
  | rest connections registry log =>
    exact .inl ⟨hchannel (by rw [connections]), callbacks_congr log slot⟩
  | connect transport connections registry log =>
    exact .inl ⟨(channel?_connect connections slot).trans hnone, callbacks_congr log slot⟩
  | answer slot' connection before after connections registry log =>
    exact .inl ⟨(channel?_answer before after connections slot).trans hnone,
      callbacks_congr log slot⟩
  | upgrade slot' service transport id path now before inRange connections registry log =>
    by_cases hslot : slot' = slot
    · subst hslot
      refine .inr ⟨service, transport, id, path, now, ?_, ?_⟩
      · rw [connections, List.getElem?_set_self inRange]
      · rw [callbacks_of_log _ log]
        simp
    · exact .inl ⟨hchannel (by rw [connections, List.getElem?_set_ne hslot]),
        callbacks_of_other log (by simp) hslot⟩
  | act slot' service channel action before told connections registry log =>
    exact .inl (hother slot' service channel _ [] before connections
      (by rw [log, List.append_nil]) (by simp))
  | report slot' service channel action state registered event before told connections
      registry log unregistered =>
    exact .inl (hother slot' service channel _ _ before connections log (by simp))
  | expire slot' service channel id registered before connections registry log =>
    exact .inl (hother slot' service channel _ [] before connections
      (by rw [log, List.append_nil]) (by simp))

/-! ### The invariant -/

namespace Traced

variable {site : Site σ} {server next : Server σ}

/-- Nothing has happened to a server that is just there. -/
theorem fresh (site : Site σ) (services : σ) : Traced site (fresh services).server where
  silent _ _ := rfl
  live _ _ _ h := by cases h

/-- The invariant is kept by one change. -/
theorem move {expired : Option SessionId} (h : Traced site server)
    (hmove : Move site server next expired) : Traced site next where
  silent slot hnone := by
    cases hbefore : server.channel? slot with
    | some channel =>
      -- A channel does not leave its slot.
      obtain ⟨service, hlive⟩ := (server.channel?_eq_some_iff slot channel).mp hbefore
      obtain ⟨actions, hnext, -⟩ := hmove.follow hlive
      rw [next.channel?_of_connection slot _ hnext] at hnone
      cases hnone
    | none =>
      obtain ⟨-, hsame⟩ | ⟨service, transport, id, path, now, hnext, -⟩ :=
        hmove.begin_or_rest slot hbefore
      · rw [hsame, h.silent slot hbefore]
      · rw [next.channel?_of_connection slot _ hnext] at hnone
        cases hnone
  live slot service channel hlive := by
    -- The channel was there before and has gone on, or its session has just begun.
    cases hbefore : server.channel? slot with
    | some channel' =>
      obtain ⟨service', hlive'⟩ := (server.channel?_eq_some_iff slot channel').mp hbefore
      obtain ⟨transport, id, path, now, actions, rfl, hcallbacks⟩ := h.live _ _ _ hlive'
      obtain ⟨more, hnext, hmore⟩ := hmove.follow hlive'
      obtain ⟨-, rfl⟩ := Connection.live.inj (Option.some.inj (hlive.symm.trans hnext))
      refine ⟨transport, id, path, now, actions ++ more, ?_, ?_⟩
      · rw [Channel.run_append]
      · rw [hmore, hcallbacks, Channel.events_append, List.cons_append]
    | none =>
      obtain ⟨hnone, -⟩ | ⟨service', transport, id, path, now, hnext, hcallbacks⟩ :=
        hmove.begin_or_rest slot hbefore
      · rw [next.channel?_of_connection slot _ hlive] at hnone
        cases hnone
      · obtain ⟨-, rfl⟩ := Connection.live.inj (Option.some.inj (hlive.symm.trans hnext))
        refine ⟨transport, id, path, now, [.announce], rfl, ?_⟩
        rw [hcallbacks, h.silent slot hbefore]
        rfl

/-- The invariant is kept by any changes. -/
theorem moves {expired : List SessionId} (h : Traced site server)
    (hmoves : Moves site server next expired) : Traced site next := by
  induction hmoves with
  | nil => exact h
  | cons hmove hmoves ih => exact ih (h.move hmove)

/-- The invariant holds after any actions. -/
theorem run (site : Site σ) (services : σ) (actions : List Action) :
    Traced site ((Server.fresh services).run site actions).server := by
  obtain ⟨ids, -, hmoves⟩ := (Server.fresh services).run_moves site actions
  exact (fresh site services).moves hmoves

/-- The channel in a slot is sound, and it keeps the order of its reports. -/
theorem protocol (h : Traced site server) {slot service : Nat} {channel : Channel}
    (hlive : server.connections[slot]? = some (.live service channel)) :
    channel.decoder.Sound ∧ ∃ events, server.callbacks slot = (.opened, .opened) :: events ∧
      Protocol channel events := by
  obtain ⟨transport, id, path, now, actions, rfl, hcallbacks⟩ := h.live _ _ _ hlive
  have hsound : (ofTransport transport id path site.config.limits now).decoder.Sound := nofun
  refine ⟨Channel.sound_run _ actions hsound, _, hcallbacks, ?_⟩
  exact (Channel.protocol_ofTransport transport id path site.config.limits now).run actions hsound

/-- The close of the session in a slot has been reported exactly when the slot has a channel
whose reader has finished. -/
theorem closed_iff (h : Traced site server) (slot : Nat) :
    (∃ state reason, (state, .closed reason) ∈ server.callbacks slot) ↔
      ∃ service channel, server.connections[slot]? = some (.live service channel) ∧
        channel.reader = .finished := by
  cases hchannel : server.channel? slot with
  | none =>
    rw [h.silent slot hchannel]
    constructor
    · rintro ⟨state, reason, hmem⟩
      cases hmem
    · rintro ⟨service, channel, hlive, -⟩
      rw [server.channel?_of_connection slot _ hlive] at hchannel
      cases hchannel
  | some channel =>
    obtain ⟨service, hlive⟩ := (server.channel?_eq_some_iff slot channel).mp hchannel
    obtain ⟨-, events, hcallbacks, hprotocol⟩ := h.protocol hlive
    have hiff := hprotocol.reported.closed_mem_iff
    rw [hcallbacks]
    constructor
    · rintro ⟨state, reason, hmem⟩
      refine ⟨service, channel, hlive, hiff.mp ⟨reason, ?_⟩⟩
      -- The first callback says that the session is open, so it is one of the others.
      rcases List.mem_cons.mp hmem with heq | htail
      · cases heq
      · exact List.mem_map_of_mem (f := (·.2)) htail
    · rintro ⟨service', channel', hlive', hfinished⟩
      obtain ⟨-, rfl⟩ := Connection.live.inj (Option.some.inj (hlive.symm.trans hlive'))
      obtain ⟨reason, hmem⟩ := hiff.mpr hfinished
      obtain ⟨⟨state, event⟩, hpair, rfl⟩ := List.mem_map.mp hmem
      exact ⟨state, reason, List.mem_cons_of_mem _ hpair⟩

end Traced

/-! ### After the close -/

/-- A call that a closed session refuses leaves the server as it is. -/
theorem call_of_closed {server : Server σ} {slot service : Nat} {channel : Channel}
    (hlive : server.connections[slot]? = some (.live service channel))
    (hclosed : channel.session.state = .closed) (request : Call)
    (hrequest : (∃ message, request = .send message) ∨ request = .ping) :
    server.call slot request = (.error .sessionClosed, server) := by
  have hsame : server.setConnection slot (.live service channel) = server := by
    unfold setConnection
    rw [set_of_getElem? hlive]
  unfold call
  rw [hlive]
  dsimp only
  rw [channel.call_of_closed request hclosed hrequest, hsame]

/-- Between `server` and `later` nothing has happened to the session in a slot, and it is
closed and refuses everything. -/
structure Over (server later : Server σ) (slot : Nat) : Prop where
  /-- There were no further callbacks. -/
  callbacks : later.callbacks slot = server.callbacks slot
  /-- No further bytes were sent. -/
  sent : later.connections[slot]?.map (·.transport.sent) =
    server.connections[slot]?.map (·.transport.sent)
  closed : ∃ channel, later.channel? slot = some channel ∧ channel.session.state = .closed
  /-- Messages are refused, and nothing changes. -/
  send : ∀ message, later.call slot (.send message) = (.error .sessionClosed, later)
  /-- Pings are refused, and nothing changes. -/
  ping : later.call slot .ping = (.error .sessionClosed, later)

/-- From the report of its close on, nothing happens to a session, whatever the changes. -/
theorem over_of_moves {site : Site σ} {server later : Server σ} {ids : List SessionId}
    {slot : Nat} (h : Traced site server) (hmoves : Moves site server later ids)
    (hmem : ∃ state reason, (state, .closed reason) ∈ server.callbacks slot) :
    Over server later slot := by
  obtain ⟨service, channel, hlive, hfinished⟩ := (h.closed_iff slot).mp hmem
  obtain ⟨hsound, events, -, hprotocol⟩ := h.protocol hlive
  obtain ⟨actions, hlater, hcallbacks⟩ := hmoves.follow hlive
  obtain ⟨hevents, hsent⟩ :=
    channel.finished_run actions hfinished (hprotocol.writerOver hfinished)
  have hclosed : (channel.run actions).session.state = .closed :=
    channel.closed_run actions hsound (hprotocol.closed (by rw [hfinished]; rfl))
  exact {
    callbacks := by rw [hcallbacks, hevents, List.append_nil]
    sent := by
      rw [hlater, hlive]
      exact congrArg some hsent
    closed := ⟨_, later.channel?_of_connection slot _ hlater, hclosed⟩
    send := fun message => call_of_closed hlater hclosed _ (.inl ⟨message, rfl⟩)
    ping := call_of_closed hlater hclosed _ (.inr rfl) }

/-- The callbacks of a session, for any actions on a server and any slot. In order:

- they are the first part of: the session is open, some messages, at most one failure, the
  close;
- a message is delivered only while the session is open;
- when the close is reported, the session is closed;
- once it has been reported, the session is over, whatever is done later;
- the same holds inside callbacks: a run is made of changes, and the session is over from
  the change on that reports its close. -/
theorem callbackProtocol_of_actions (site : Site σ) (services : σ) (actions : List Action)
    (slot : Nat) :
    let start := fresh services
    let history := start.run site actions
    let told := history.server.callbacks slot
    (∃ (messages : List Message) (failure : Option Failure) (reason : CloseReason),
      told.map (·.2) <+:
        .opened :: (messages.map .received ++ (failure.map .failed).toList ++ [.closed reason])) ∧
    (∀ state message, (state, .received message) ∈ told → state = .opened) ∧
    (∀ state reason, (state, .closed reason) ∈ told → state = .closed) ∧
    ((∃ state reason, (state, .closed reason) ∈ told) →
      ∀ more, Over history.server (history.run site more).server slot) ∧
    (∃ ids, Moves site start.server history.server ids) ∧
    ∀ middle later ids ids', Moves site start.server middle ids → Moves site middle later ids' →
      (∃ state reason, (state, .closed reason) ∈ middle.callbacks slot) →
      Over middle later slot := by
  intro start history told
  have htraced : Traced site history.server := .run site services actions
  obtain ⟨ids, -, hmoves⟩ := start.run_moves site actions
  have hmore : (∃ state reason, (state, .closed reason) ∈ told) →
      ∀ more, Over history.server (history.run site more).server slot := by
    intro hmem more
    obtain ⟨ids', -, hlater⟩ := history.run_moves site more
    exact over_of_moves htraced hlater hmem
  have hinside : ∀ middle later ids ids', Moves site start.server middle ids →
      Moves site middle later ids' →
      (∃ state reason, (state, .closed reason) ∈ middle.callbacks slot) →
      Over middle later slot :=
    fun middle later ids ids' hmiddle hlater hmem =>
      over_of_moves ((Traced.fresh site services).moves hmiddle) hlater hmem
  -- Without a channel there were no callbacks, and else they are those of one channel.
  cases hchannel : history.server.channel? slot with
  | none =>
    have hempty : told = [] := htraced.silent slot hchannel
    refine ⟨⟨[], none, .normal, ?_⟩, ?_, ?_, hmore, ⟨ids, hmoves⟩, hinside⟩
    · rw [hempty]
      exact List.nil_prefix
    · simp [hempty]
    · simp [hempty]
  | some channel =>
    obtain ⟨service, hlive⟩ := (history.server.channel?_eq_some_iff slot channel).mp hchannel
    obtain ⟨-, events, hcallbacks, hprotocol⟩ := htraced.protocol hlive
    obtain ⟨messages, failure, reason, hprefix⟩ := hprotocol.reported.isPrefix
    change told = _ at hcallbacks
    refine ⟨⟨messages, failure, reason, ?_⟩, ?_, ?_, hmore, ⟨ids, hmoves⟩, hinside⟩
    · rw [hcallbacks]
      exact (List.prefix_cons_inj _).mpr hprefix
    · intro state message hmem
      rw [hcallbacks] at hmem
      rcases List.mem_cons.mp hmem with heq | htail
      · cases heq
      · exact hprotocol.received state message htail
    · intro state reason hmem
      rw [hcallbacks] at hmem
      rcases List.mem_cons.mp hmem with heq | htail
      · cases heq
      · exact hprotocol.ended state reason htail

end SocketGate.Server
