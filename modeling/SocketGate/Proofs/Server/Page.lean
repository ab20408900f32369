import SocketGate.Proofs.Server.Dispatch

/-!
# `SocketGate.Proofs.Server.Page`: a request that goes to no service

A request that no service takes is answered with the page, and that is all that becomes of its
connection: the page is written, or a part of it if a failure comes in between. No session begins
there, whatever else is done to the server.

* `Server.History.exists_of_run`: what the steps of a connection keep holds after any actions.
* `Server.PageStage.own`: what an action of the connection itself means to the page.
* `Server.page_of_run`: the page after any actions.
-/

set_option autoImplicit false

namespace SocketGate.Server

open Http (Request)

variable {σ : Type}

/-- A property of the connection in a slot that its own actions keep, and those of its channel,
holds after any actions on the server. -/
theorem History.exists_of_run (site : Site σ) (history : History σ) {slot : Nat}
    {P : Connection → Prop}
    (hrun : ∀ connection actions, P connection → P (connection.run actions))
    (hown : ∀ connection now id requests action, P connection →
      P (connection.own site now id requests action))
    (h : ∃ connection, history.server.connections[slot]? = some connection ∧ P connection)
    (actions : List Action) :
    ∃ connection, (history.run site actions).server.connections[slot]? = some connection ∧
      P connection := by
  induction actions generalizing history with
  | nil => exact h
  | cons action actions ih =>
    obtain ⟨connection, hconnection, hP⟩ := h
    refine ih (history.act site action) ?_
    by_cases hslot : action.slot? = some slot
    · obtain ⟨calls, hacts⟩ := history.act_acts site hslot hconnection
      exact ⟨_, hacts.own, hown _ _ _ _ _ hP⟩
    · obtain ⟨more, hmoved⟩ := history.act_elsewhere site hslot hconnection
      exact ⟨_, hmoved, hrun _ _ hP⟩

/-- How far the page for a request has come. The bytes in `before` were sent before it. -/
inductive PageStage (site : Site σ) (request : Request) (before : Bytes) : Connection → Prop where
  /-- It is being written. -/
  | writing (transport : Transport) (unsent : Bytes)
      (bytes : transport.sent ++ unsent = before ++ site.page request) :
      PageStage site request before (.replying transport .page unsent)
  /-- The connection is over. All of the page is sent if that is a success. -/
  | ended (transport : Transport) (result : Except Failure Unit) (unsent : Bytes)
      (bytes : transport.sent ++ unsent = before ++ site.page request)
      (cause : ∀ failure, result = .error failure → ∃ fault, failure = .io fault)
      (whole : result = .ok () → unsent = []) :
      PageStage site request before (.finished transport result)

namespace PageStage

variable {site : Site σ} {request : Request} {before : Bytes} {connection : Connection}

/-- There is no session. -/
theorem channel?_eq (h : PageStage site request before connection) :
    connection.channel? = none := by
  cases h <;> rfl

/-- The page stands at its first byte. -/
theorem answer {transport : Transport} (hroute : site.route request = none) :
    PageStage site request transport.sent (Server.answer site transport request) := by
  unfold Server.answer
  rw [hroute]
  exact .writing transport _ rfl

/-- Without a channel there is nothing to go on. -/
theorem run (h : PageStage site request before connection) (actions : List Channel.Action) :
    PageStage site request before (connection.run actions) := by
  cases h with
  | writing transport unsent bytes => exact .writing transport unsent bytes
  | ended transport result unsent bytes cause whole =>
    exact .ended transport result unsent bytes cause whole

/-- A step of the answer. -/
theorem replied {transport : Transport} {reply : Reply} {unsent : Bytes}
    (h : PageStage site request before (.replying transport reply unsent)) (time : Nat)
    (id : SessionId) (requests : List Call) :
    PageStage site request before
      (Connection.replied site time id requests transport reply unsent) := by
  cases h with
  | writing transport unsent bytes =>
    unfold Connection.replied
    by_cases hempty : unsent = []
    · subst hempty
      simp only [List.isEmpty_nil, if_true]
      refine .ended _ _ [] bytes (fun failure hfailure => ?_) fun _ => rfl
      cases hfault : transport.shutdownFault with
      | none => simp [hfault, Except.mapError] at hfailure
      | some fault =>
        refine ⟨fault, ?_⟩
        simpa [Transport.shutdown, hfault, Except.mapError] using hfailure.symm
    · rw [if_neg (by simpa using hempty)]
      split
      · exact .writing transport unsent bytes
      · split
        · rename_i fault _
          refine .ended transport _ unsent bytes (fun failure hfailure => ?_) (by simp)
          exact ⟨fault, (Except.error.inj hfailure).symm⟩
        · rename_i hwritten
          exact .writing _ _ ((Transport.sent_write hwritten).trans bytes)

/-- An action of the connection itself. -/
theorem own (h : PageStage site request before connection) (now : Moment) (id : SessionId)
    (requests : List Call) (action : Action) :
    PageStage site request before (connection.own site now id requests action) := by
  have hsame (hown : connection.own site now id requests action = connection) :
      PageStage site request before (connection.own site now id requests action) :=
    hown.symm ▸ h
  cases action with
  | peer slot step =>
    cases h with
    | writing transport unsent bytes =>
      exact .writing _ unsent (by rw [transport.sent_apply, bytes])
    | ended transport result unsent bytes cause whole =>
      exact .ended _ result unsent (by rw [transport.sent_apply, bytes]) cause whole
  | reply slot =>
    cases connection with
    | replying transport reply unsent => exact h.replied now.time id requests
    | _ => exact hsame rfl
  | _ => exact hsame (by cases h <;> rfl)

end PageStage

/-! ### Slots that stay without a session -/

/-- A session enters the registry when it begins, and not later. -/
theorem Move.mem_registry {site : Site σ} {server next : Server σ} {expired : Option SessionId}
    (h : Move site server next expired) {id : SessionId} {slot : Nat}
    (hmem : (id, slot) ∈ next.registry) (hnone : next.channel? slot = none) :
    (id, slot) ∈ server.registry := by
  cases h with
  | rest connections registry log => exact registry ▸ hmem
  | connect transport connections registry log => exact registry ▸ hmem
  | answer slot' connection before after connections registry log => exact registry ▸ hmem
  | upgrade slot' service transport id' path now before inRange connections registry log =>
    rw [registry, List.mem_append] at hmem
    rcases hmem with hmem | hmem
    · exact List.mem_of_mem_filter hmem
    · -- The new entry is that of a slot in which a session has just begun.
      obtain ⟨rfl, rfl⟩ := Prod.mk.inj (List.mem_singleton.mp hmem)
      rw [next.channel?_of_connection slot _
        (by rw [connections, List.getElem?_set_self inRange])] at hnone
      cases hnone
  | act slot' service channel action before told connections registry log => exact registry ▸ hmem
  | report slot' service channel action state registered event before told connections registry
      log unregistered =>
    rw [registry] at hmem
    split at hmem
    · exact List.mem_of_mem_filter hmem
    · exact hmem
  | expire slot' service channel id' registered before connections registry log =>
    rw [registry] at hmem
    exact List.mem_of_mem_filter hmem

/-- Of a slot that is without a session after some changes, the application has been told nothing
in them, and nobody has entered the registry for it. -/
theorem Moves.aside {site : Site σ} {server later : Server σ} {ids : List SessionId} {slot : Nat}
    (h : Moves site server later ids) (hnone : later.channel? slot = none) :
    server.channel? slot = none ∧ later.callbacks slot = server.callbacks slot ∧
      ∀ id, (id, slot) ∈ later.registry → (id, slot) ∈ server.registry := by
  induction h with
  | nil server => exact ⟨hnone, rfl, fun _ hmem => hmem⟩
  | @cons server middle later first rest move moves ih =>
    obtain ⟨hmiddle, hcallbacks, hregistry⟩ := ih hnone
    -- A channel stays in its slot, so there was none before.
    have hbefore : server.channel? slot = none := by
      rw [Option.eq_none_iff_forall_ne_some]
      intro channel hchannel
      obtain ⟨service, hlive⟩ := (server.channel?_eq_some_iff slot channel).mp hchannel
      obtain ⟨actions, hlater, -⟩ := move.follow hlive
      rw [middle.channel?_of_connection slot _ hlater] at hmiddle
      cases hmiddle
    rcases move.begin_or_rest slot hbefore with ⟨-, hsame⟩ | ⟨_, _, _, _, _, hbegun, -⟩
    · exact ⟨hbefore, hcallbacks.trans hsame,
        fun id hmem => move.mem_registry (hregistry id hmem) hmiddle⟩
    · rw [middle.channel?_of_connection slot _ hbegun] at hmiddle
      cases hmiddle

/-- A request that goes to no service, after any actions on a server: the page is on its way, the
application has been told nothing, and nobody is in the registry for this connection. -/
theorem page_of_run (site : Site σ) (history : History σ) {slot : Nat} {transport : Transport}
    {request : Request} (hroute : site.route request = none)
    (hanswer : history.server.connections[slot]? = some (answer site transport request))
    (actions : List Action) :
    let later := (history.run site actions).server
    ∃ connection, later.connections[slot]? = some connection ∧
      PageStage site request transport.sent connection ∧
      later.callbacks slot = history.server.callbacks slot ∧
      ∀ id, (id, slot) ∈ later.registry → (id, slot) ∈ history.server.registry := by
  intro later
  obtain ⟨connection, hconnection, hstage⟩ :=
    history.exists_of_run site (fun _ more h => h.run more)
      (fun _ now id requests action h => h.own now id requests action)
      ⟨_, hanswer, PageStage.answer hroute⟩ actions
  obtain ⟨ids, -, hmoves⟩ := history.run_moves site actions
  have hchannel : later.channel? slot = none :=
    (channel?_of_connection _ slot _ hconnection).trans hstage.channel?_eq
  exact ⟨connection, hconnection, hstage, (hmoves.aside hchannel).2⟩

end SocketGate.Server
