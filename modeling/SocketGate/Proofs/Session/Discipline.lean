import SocketGate.Proofs.Session.Ledger

/-!
# `SocketGate.Proofs.Session.Discipline`: what the outbox of a session holds

`Session.Disciplined` relates a session to the ledger of all that ever entered its outbox.
It holds of a fresh session and after every operation, in any order, with the writer taking
items in between or leaving (`Disciplined.run`).

The invariant has two parts that need each other. As long as the session is writable, the
ledger has neither of its two last parts, so the frames that wait are all plain and at
most as many as the limit. The places beyond the limit are then free for the close frame
and the request to shut down, each of which is put only once. So neither is ever dropped
while the writer is there, and the ledger is complete when the session is closing.

* `Session.exists_ledger`: whatever has been done to a session, all that entered its
  outbox forms a ledger.
* `Session.queueDiscipline_of_operations`: the order of the states, the order of the
  items, the number of items that wait, and that both closing items always find a place.
-/

set_option autoImplicit false

namespace SocketGate

namespace Session

/-- The session keeps the discipline of the queue, where `ledger` is all that ever entered
its outbox and `limit` the number of plain frames that may wait. -/
structure Disciplined (limit : Nat) (session : Session) (ledger : Ledger) : Prop where
  holds : session.outbox.Holds limit ledger
  writable : session.state.isWritable → ledger.close = none ∧ session.shutdownQueued = false
  -- Without a writer the close frame may have been dropped.
  closing : session.state = .closing → session.outbox.attached → ledger.close.isSome
  closed : session.state = .closed → session.shutdownQueued
  -- The flag is set even where the request finds no writer, so the two differ then.
  flag_of_stop : ledger.stop → session.shutdownQueued
  stop_of_flag : session.shutdownQueued → session.outbox.attached → ledger.stop

namespace Disciplined

variable {limit : Nat} {session : Session} {ledger : Ledger}

/-- The ledger of a session without the flag does not end with the request to shut
down. -/
theorem stop_eq_false (h : Disciplined limit session ledger)
    (hflag : session.shutdownQueued = false) : ledger.stop = false := by
  cases hstop : ledger.stop with
  | false => rfl
  | true => simp [h.flag_of_stop hstop] at hflag

/-- A writable session has two free places beyond its plain frames. -/
theorem length_of_writable (h : Disciplined limit session ledger)
    (hwritable : session.state.isWritable) :
    session.outbox.waiting.length ≤ session.outbox.limit := by
  -- The ledger has no closing items yet, so all that waits is plain.
  obtain ⟨hclose, hflag⟩ := h.writable hwritable
  have hlength := h.holds.length_waiting_le
  rw [hclose, h.stop_eq_false hflag, Option.isSome_none, Bool.toNat_false] at hlength
  rw [h.holds.limit_eq]
  omega

/-- Without the flag there is one free place beyond the plain frames and the close
frame. -/
theorem length_of_flag (h : Disciplined limit session ledger)
    (hflag : session.shutdownQueued = false) :
    session.outbox.waiting.length ≤ session.outbox.limit + 1 := by
  have hlength := h.holds.length_waiting_le
  have hclose := Bool.toNat_le ledger.close.isSome
  rw [h.stop_eq_false hflag, Bool.toNat_false] at hlength
  rw [h.holds.limit_eq]
  omega

/-! ### What a turn preserves -/

/-- The ledger goes on with what enters the outbox between `session` and `next`, and
`next` keeps the discipline with it. -/
def Carries (limit : Nat) (session next : Session) (ledger : Ledger) : Prop :=
  ∃ after : Ledger, after.items = ledger.items ++ session.outbox.added next.outbox ∧
    Disciplined limit next after

/-- The queue is left alone. -/
theorem rest {next : Session} (h : Disciplined limit session ledger)
    (houtbox : next.outbox = session.outbox)
    (hflag : next.shutdownQueued = session.shutdownQueued)
    (hstate : next.state = session.state ∨
      session.state = .handshakeDone ∧ next.state = .opened) :
    Carries limit session next ledger := by
  refine ⟨ledger, by rw [houtbox, Outbox.added_self, List.append_nil], ?_⟩
  -- The announcement is the only change of the state here. Both states are writable.
  rcases hstate with hsame | ⟨hbefore, hafter⟩
  · exact {
      holds := houtbox ▸ h.holds
      writable := hsame ▸ hflag ▸ h.writable
      closing := hsame ▸ houtbox ▸ h.closing
      closed := hsame ▸ hflag ▸ h.closed
      flag_of_stop := hflag ▸ h.flag_of_stop
      stop_of_flag := hflag ▸ houtbox ▸ h.stop_of_flag }
  · have hwritable := h.writable (by rw [hbefore]; rfl)
    exact {
      holds := houtbox ▸ h.holds
      writable := fun _ => hflag ▸ hwritable
      closing := by simp [hafter]
      closed := by simp [hafter]
      flag_of_stop := hflag ▸ h.flag_of_stop
      stop_of_flag := hflag ▸ houtbox ▸ h.stop_of_flag }

/-- Plain frames are queued. -/
theorem accept {next : Session} (h : Disciplined limit session ledger) (frames : List Frame)
    (hplain : ∀ frame ∈ frames, frame.opcode ≠ .close)
    (hwritable : session.state.isWritable) (hattached : session.outbox.attached)
    (hroom : session.outbox.waiting.length + frames.length ≤ session.outbox.limit)
    (houtbox : next.outbox = session.outbox.append (frames.map .frame))
    (hflag : next.shutdownQueued = session.shutdownQueued)
    (hstate : next.state = session.state) : Carries limit session next ledger := by
  obtain ⟨hclose, hunflagged⟩ := h.writable hwritable
  obtain ⟨after, hitems, hclose', hstop'⟩ :=
    ledger.exists_plain frames hplain hclose (h.stop_eq_false hunflagged)
  -- The room was measured in items, which are at least as many as the plain frames.
  have hbound : session.outbox.waiting.countP Outbound.isPlain +
      (frames.map Outbound.frame).countP Outbound.isPlain ≤ limit := by
    have hwaiting := List.countP_le_length (p := Outbound.isPlain) (l := session.outbox.waiting)
    have hframes := List.countP_le_length (p := Outbound.isPlain)
      (l := frames.map Outbound.frame)
    rw [List.length_map] at hframes
    have hlimit := h.holds.limit_eq
    omega
  refine ⟨after, by rw [hitems, houtbox, Outbox.added_append], ?_⟩
  exact {
    holds := houtbox ▸ h.holds.append _ after hattached hitems hbound
    writable := fun _ => ⟨hclose', hflag.trans hunflagged⟩
    closing := fun hclosing _ => by
      rw [← hstate, hclosing] at hwritable
      exact absurd hwritable (by decide)
    closed := fun hclosed => hflag ▸ h.closed (hstate ▸ hclosed)
    flag_of_stop := fun hstop => by simp [hstop'] at hstop
    stop_of_flag := fun hnext _ => by simp [hflag, hunflagged] at hnext }

/-- The closing handshake begins. -/
theorem close {next : Session} (h : Disciplined limit session ledger) (reason : CloseReason)
    (hwritable : session.state.isWritable)
    (houtbox : next.outbox = session.outbox.put (.frame (Frame.close reason)))
    (hflag : next.shutdownQueued = session.shutdownQueued) (hstate : next.state = .closing) :
    Carries limit session next ledger := by
  obtain ⟨hclose, hunflagged⟩ := h.writable hwritable
  obtain ⟨after, hitems, hholds, hstop, hadmitted⟩ := h.holds.put_close reason
    (h.length_of_writable hwritable) hclose (h.stop_eq_false hunflagged)
  refine ⟨after, by rw [hitems, houtbox, Outbox.put_eq, Outbox.added_append], ?_⟩
  exact {
    holds := houtbox ▸ hholds
    writable := fun hnext => by simp [hstate, SessionState.isWritable] at hnext
    closing := fun _ hattached => by
      rw [houtbox, Outbox.put_eq, Outbox.attached_append] at hattached
      exact hadmitted hattached
    closed := fun hclosed => by simp [hstate] at hclosed
    flag_of_stop := fun hnext => by simp [hstop] at hnext
    stop_of_flag := fun hnext _ => by simp [hflag, hunflagged] at hnext }

/-- The closing handshake begins, and the writer is asked to shut down. -/
theorem closeAndStop {next : Session} (h : Disciplined limit session ledger)
    (reason : CloseReason) (hwritable : session.state.isWritable)
    (houtbox : next.outbox =
      if session.shutdownQueued then session.outbox.put (.frame (Frame.close reason))
      else (session.outbox.put (.frame (Frame.close reason))).put .shutdown)
    (hflag : next.shutdownQueued = true) (hstate : next.state = .closing) :
    Carries limit session next ledger := by
  obtain ⟨hclose, hunflagged⟩ := h.writable hwritable
  obtain ⟨middle, hitems, hholds, hstop, hclosed⟩ := h.holds.put_close reason
    (h.length_of_writable hwritable) hclose (h.stop_eq_false hunflagged)
  -- Behind the close frame there is still one free place.
  have hmiddle : (session.outbox.put (.frame (Frame.close reason))).waiting.length ≤
      (session.outbox.put (.frame (Frame.close reason))).limit + 1 := by
    have hlength := hholds.length_waiting_le
    have hone := Bool.toNat_le middle.close.isSome
    rw [hstop, Bool.toNat_false] at hlength
    rw [hholds.limit_eq]
    omega
  obtain ⟨after, hitems', hholds', hclose', hstopped⟩ := hholds.put_stop hmiddle hstop
  rw [hunflagged, if_neg (by decide)] at houtbox
  have hattached : next.outbox.attached = session.outbox.attached := by
    simp [houtbox, Outbox.put_eq]
  refine ⟨after, ?_, ?_⟩
  · rw [hitems', hitems, houtbox, Outbox.put_eq, Outbox.put_eq, Outbox.append_append,
      Outbox.added_append, List.append_assoc]
  · exact {
      holds := houtbox ▸ hholds'
      writable := fun hnext => by simp [hstate, SessionState.isWritable] at hnext
      closing := fun _ hthere => hclose' ▸ hclosed (hattached ▸ hthere)
      closed := fun hgone => by simp [hstate] at hgone
      flag_of_stop := fun _ => hflag
      stop_of_flag := fun _ hthere => hstopped (by
        rw [Outbox.put_eq, Outbox.attached_append]
        exact hattached ▸ hthere) }

/-- The writer is asked to shut down, unless it has been. -/
theorem stop {next : Session} (h : Disciplined limit session ledger)
    (houtbox : next.outbox =
      if session.shutdownQueued then session.outbox else session.outbox.put .shutdown)
    (hflag : next.shutdownQueued = true)
    (hstate : next.state = .closed ∨ session.state = .closing ∧ next.state = .closing) :
    Carries limit session next ledger := by
  have hnext : next.state.isWritable = false := by
    rcases hstate with hclosed | ⟨-, hclosing⟩
    · simp [hclosed, SessionState.isWritable]
    · simp [hclosing, SessionState.isWritable]
  have hback : next.state = .closing → session.state = .closing := by
    rcases hstate with hclosed | ⟨hclosing, -⟩
    · simp [hclosed]
    · exact fun _ => hclosing
  cases hbefore : session.shutdownQueued with
  | true =>
    -- The request is in the ledger already, or there was no writer to get it.
    rw [hbefore, if_pos rfl] at houtbox
    refine ⟨ledger, by rw [houtbox, Outbox.added_self, List.append_nil], ?_⟩
    exact {
      holds := houtbox ▸ h.holds
      writable := fun hwritable => by simp [hnext] at hwritable
      closing := fun hclosing hthere => h.closing (hback hclosing) (houtbox ▸ hthere)
      closed := fun _ => hflag
      flag_of_stop := fun _ => hflag
      stop_of_flag := fun _ hthere => h.stop_of_flag hbefore (houtbox ▸ hthere) }
  | false =>
    rw [hbefore, if_neg (by decide)] at houtbox
    have hattached : next.outbox.attached = session.outbox.attached := by
      simp [houtbox, Outbox.put_eq]
    obtain ⟨after, hitems, hholds, hclose, hstopped⟩ :=
      h.holds.put_stop (h.length_of_flag hbefore) (h.stop_eq_false hbefore)
    refine ⟨after, by rw [hitems, houtbox, Outbox.put_eq, Outbox.added_append], ?_⟩
    exact {
      holds := houtbox ▸ hholds
      writable := fun hwritable => by simp [hnext] at hwritable
      closing := fun hclosing hthere => hclose ▸ h.closing (hback hclosing) (hattached ▸ hthere)
      closed := fun _ => hflag
      flag_of_stop := fun _ => hflag
      stop_of_flag := fun _ hthere => hstopped (hattached ▸ hthere) }

/-- The writer takes an item. -/
theorem take {next : Session} (h : Disciplined limit session ledger) (item : Outbound)
    (hwaiting : session.outbox.waiting = item :: next.outbox.waiting)
    (hlimit : next.outbox.limit = session.outbox.limit)
    (hattached : next.outbox.attached = session.outbox.attached)
    (hflag : next.shutdownQueued = session.shutdownQueued)
    (hstate : next.state = session.state) : Carries limit session next ledger := by
  refine ⟨ledger, ?_, ?_⟩
  · rw [Outbox.added, hwaiting, List.drop_eq_nil_of_le (by simp), List.append_nil]
  · exact {
      holds := h.holds.take item hwaiting hlimit hattached
      writable := hstate ▸ hflag ▸ h.writable
      closing := hstate ▸ hattached ▸ h.closing
      closed := hstate ▸ hflag ▸ h.closed
      flag_of_stop := hflag ▸ h.flag_of_stop
      stop_of_flag := hflag ▸ hattached ▸ h.stop_of_flag }

/-- The writer leaves. -/
theorem detach {next : Session} (h : Disciplined limit session ledger)
    (houtbox : next.outbox = session.outbox.detach)
    (hflag : next.shutdownQueued = session.shutdownQueued)
    (hstate : next.state = session.state) : Carries limit session next ledger := by
  have hgone : next.outbox.attached = false := by rw [houtbox]; rfl
  refine ⟨ledger, ?_, ?_⟩
  · rw [houtbox, Outbox.added, Outbox.detach, List.drop_nil, List.append_nil]
  · exact {
      holds := houtbox ▸ h.holds.detach
      writable := hstate ▸ hflag ▸ h.writable
      closing := fun _ hattached => by simp [hgone] at hattached
      closed := hstate ▸ hflag ▸ h.closed
      flag_of_stop := hflag ▸ h.flag_of_stop
      stop_of_flag := fun _ hattached => by simp [hgone] at hattached }

/-- Whatever is done to a session, the ledger goes on and the discipline is kept. -/
theorem turn {next : Session} (h : Disciplined limit session ledger)
    (hturn : session.Turn next) : Carries limit session next ledger := by
  cases hturn with
  | rest outbox flag state => exact h.rest outbox flag state
  | accept frames plain writable attached room outbox flag state =>
    exact h.accept frames plain writable attached room outbox flag state
  | close reason writable outbox flag state => exact h.close reason writable outbox flag state
  | closeAndStop reason writable outbox flag state =>
    exact h.closeAndStop reason writable outbox flag state
  | stop outbox flag state => exact h.stop outbox flag state
  | take item waiting limit attached flag state =>
    exact h.take item waiting limit attached flag state
  | detach outbox flag state => exact h.detach outbox flag state

/-- Any operations keep the discipline, and the ledger goes on with all they enqueue. -/
theorem run (operations : List Operation) (h : Disciplined limit session ledger) :
    ∃ after : Ledger, after.items = ledger.items ++ session.enqueued operations ∧
      Disciplined limit (session.run operations) after := by
  induction operations generalizing session ledger with
  | nil => exact ⟨ledger, (List.append_nil _).symm, h⟩
  | cons operation operations ih =>
    obtain ⟨middle, hitems, hmiddle⟩ := h.turn (session.after_turn operation)
    obtain ⟨after, hitems', hafter⟩ := ih hmiddle
    exact ⟨after, by rw [hitems', hitems, enqueued, List.append_assoc], hafter⟩

end Disciplined

/-- A fresh session keeps the discipline, and nothing has entered its outbox. -/
theorem disciplined_fresh (id : SessionId) (path : String) (frameLimit limit now : Nat) :
    Disciplined limit (fresh id path frameLimit limit now) Ledger.empty where
  holds :=
    { limit_eq := rfl, suffix := List.nil_suffix, gone := fun _ => rfl, bound := Nat.zero_le _ }
  writable _ := ⟨rfl, rfl⟩
  closing h := by simp [fresh] at h
  closed h := by simp [fresh] at h
  flag_of_stop h := by simp [Ledger.empty] at h
  stop_of_flag h := by simp [fresh] at h

/-- Whatever has been done to a session, all that entered its outbox forms a ledger, and
the session keeps the discipline with it. -/
theorem exists_ledger (id : SessionId) (path : String) (frameLimit limit now : Nat)
    (operations : List Operation) :
    ∃ ledger : Ledger,
      ledger.items = (fresh id path frameLimit limit now).enqueued operations ∧
      Disciplined limit ((fresh id path frameLimit limit now).run operations) ledger :=
  (disciplined_fresh id path frameLimit limit now).run operations

/-! ### What a single operation adds -/

namespace Turn

variable {session next : Session}

/-- A session never goes back to an earlier state. -/
theorem rank_le (h : session.Turn next) : session.state.rank ≤ next.state.rank := by
  have hkeep : next.state = session.state → session.state.rank ≤ next.state.rank :=
    fun hsame => Nat.le_of_eq (congrArg SessionState.rank hsame.symm)
  have hrank : ∀ state : SessionState, state.rank ≤ SessionState.closed.rank := by
    intro state
    cases state <;> decide
  have hwritable : session.state.isWritable → session.state.rank ≤ SessionState.closing.rank := by
    cases session.state <;> decide
  cases h with
  | rest _ _ state =>
    rcases state with hsame | ⟨hbefore, hafter⟩
    · exact hkeep hsame
    · rw [hbefore, hafter]; decide
  | accept _ _ _ _ _ _ _ state => exact hkeep state
  | close _ writable _ _ state => rw [state]; exact hwritable writable
  | closeAndStop _ writable _ _ state => rw [state]; exact hwritable writable
  | stop _ _ state =>
    rcases state with hclosed | ⟨hbefore, hafter⟩
    · rw [hclosed]; exact hrank _
    · exact hkeep (hafter.trans hbefore.symm)
  | take _ _ _ _ _ state => exact hkeep state
  | detach _ _ state => exact hkeep state

/-- The writer does not leave in an operation that changes the state or the flag. -/
theorem attached_eq (h : session.Turn next)
    (hchange : next.state ≠ session.state ∨ next.shutdownQueued ≠ session.shutdownQueued) :
    next.outbox.attached = session.outbox.attached := by
  cases h with
  | rest outbox => rw [outbox]
  | accept _ _ _ _ _ outbox => rw [outbox, Outbox.attached_append]
  | close _ _ outbox => rw [outbox, Outbox.put_eq, Outbox.attached_append]
  | closeAndStop _ _ outbox =>
    rw [outbox]
    split <;> simp [Outbox.put_eq]
  | stop outbox =>
    rw [outbox]
    split <;> simp [Outbox.put_eq]
  | take _ _ _ attached => exact attached
  | detach _ flag state => exact absurd hchange (by simp [flag, state])

/-- What enters the outbox while the session is not writable afterwards is a close frame,
which only a session that was writable adds, or the request to shut down. -/
theorem mem_added (h : session.Turn next) (hnext : next.state.isWritable = false)
    (item : Outbound) (hitem : item ∈ session.outbox.added next.outbox) :
    item = .shutdown ∨
      session.state.isWritable ∧ ∃ reason, item = .frame (Frame.close reason) := by
  have hput : ∀ (outbox : Outbox) (other : Outbound), item ∈ outbox.admitted other →
      item = other := by
    intro outbox other h
    simpa using (List.mem_ite_nil_right.mp h).2
  cases h with
  | rest outbox => simp [outbox] at hitem
  | accept _ _ writable _ _ _ _ state => simp [state, writable] at hnext
  | close reason writable outbox =>
    rw [outbox, Outbox.put_eq, Outbox.added_append] at hitem
    exact .inr ⟨writable, reason, hput _ _ hitem⟩
  | closeAndStop reason writable outbox =>
    rw [outbox] at hitem
    split at hitem
    · rw [Outbox.put_eq, Outbox.added_append] at hitem
      exact .inr ⟨writable, reason, hput _ _ hitem⟩
    · rw [Outbox.put_eq, Outbox.put_eq, Outbox.append_append, Outbox.added_append] at hitem
      rcases List.mem_append.mp hitem with hclose | hstop
      · exact .inr ⟨writable, reason, hput _ _ hclose⟩
      · exact .inl (hput _ _ hstop)
  | stop outbox =>
    rw [outbox] at hitem
    split at hitem
    · simp at hitem
    · rw [Outbox.put_eq, Outbox.added_append] at hitem
      exact .inl (hput _ _ hitem)
  | take _ waiting =>
    rw [Outbox.added, waiting, List.drop_eq_nil_of_le (by simp)] at hitem
    simp at hitem
  | detach outbox => simp [outbox, Outbox.added, Outbox.detach] at hitem

end Turn

/-- Whatever is done to a session, it never goes back to an earlier state. -/
theorem rank_run (session : Session) (operations : List Operation) :
    session.state.rank ≤ (session.run operations).state.rank := by
  induction operations generalizing session with
  | nil => exact Nat.le_refl _
  | cons operation operations ih =>
    exact Nat.le_trans (session.after_turn operation).rank_le (ih _)

/-- As long as the writer is there, the close frame of a session that begins to close
enters the outbox. -/
theorem close_mem_added {limit : Nat} {session next : Session} {ledger : Ledger}
    (h : Disciplined limit session ledger) (hturn : session.Turn next)
    (hattached : session.outbox.attached) (hwritable : session.state.isWritable)
    (hclosing : next.state = .closing) :
    ∃ reason, .frame (Frame.close reason) ∈ session.outbox.added next.outbox := by
  obtain ⟨after, hitems, hafter⟩ := h.turn hturn
  -- The state changes, so the writer is still there afterwards, and the invariant says that the
  -- ledger has the close frame. It did not have it before.
  have hchange : next.state ≠ session.state := by
    intro hsame
    rw [← hsame, hclosing] at hwritable
    exact absurd hwritable (by decide)
  have hsome := hafter.closing hclosing (hturn.attached_eq (.inl hchange) ▸ hattached)
  obtain ⟨reason, hreason⟩ := after.close_mem_items.mpr hsome
  rw [hitems] at hreason
  refine ⟨reason, (List.mem_append.mp hreason).resolve_left fun hbefore => ?_⟩
  have hnone := (h.writable hwritable).1
  have hsome' := ledger.close_mem_items.mp ⟨reason, hbefore⟩
  simp [hnone] at hsome'

/-- As long as the writer is there, the request to shut down enters the outbox when the
flag is set. -/
theorem shutdown_mem_added {limit : Nat} {session next : Session} {ledger : Ledger}
    (h : Disciplined limit session ledger) (hturn : session.Turn next)
    (hattached : session.outbox.attached) (hbefore : session.shutdownQueued = false)
    (hflag : next.shutdownQueued) : .shutdown ∈ session.outbox.added next.outbox := by
  obtain ⟨after, hitems, hafter⟩ := h.turn hturn
  have hchange : next.shutdownQueued ≠ session.shutdownQueued := by simp [hflag, hbefore]
  have hstop := hafter.stop_of_flag hflag (hturn.attached_eq (.inr hchange) ▸ hattached)
  have hmem := after.shutdown_mem_items.mpr hstop
  rw [hitems] at hmem
  refine (List.mem_append.mp hmem).resolve_left fun hold => ?_
  have hstop' := ledger.shutdown_mem_items.mp hold
  simp [h.stop_eq_false hbefore] at hstop'

/-- The discipline of the queue, for any operations on a session and one more operation
after them. In order:

- the state only moves forward;
- all that ever entered the outbox forms a ledger: plain frames, at most one close frame,
  at most one request to shut down, and nothing behind it;
- a frame that enters while the session is not writable afterwards is a close frame, and
  only the request to shut down enters a session that was not writable before;
- a session that is closing has sent its close frame, or its writer was gone;
- at most `limit` frames other than a close frame wait, and at most `limit + 2` items;
- as long as the writer is there, the close frame of a session that begins to close and
  the request to shut down, when the flag is set for it, enter the outbox. -/
theorem queueDiscipline_of_operations (id : SessionId) (path : String)
    (frameLimit limit now : Nat) (operations : List Operation) (operation : Operation) :
    let session := (fresh id path frameLimit limit now).run operations
    let next := session.after operation
    let past := (fresh id path frameLimit limit now).enqueued operations
    let added := session.outbox.added next.outbox
    session.state.rank ≤ next.state.rank ∧
    (∃ ledger : Ledger, past = ledger.items) ∧
    (next.state.isWritable = false → ∀ frame, .frame frame ∈ added → frame.opcode = .close) ∧
    (session.state.isWritable = false → ∀ item ∈ added, item = .shutdown) ∧
    (session.state = .closing →
      (∃ reason, .frame (Frame.close reason) ∈ past) ∨ session.outbox.attached = false) ∧
    session.outbox.waiting.countP Outbound.isPlain ≤ limit ∧
    session.outbox.waiting.length ≤ limit + 2 ∧
    (session.outbox.attached →
      (session.state.isWritable → next.state = .closing →
        ∃ reason, .frame (Frame.close reason) ∈ added) ∧
      (session.shutdownQueued = false → next.shutdownQueued → .shutdown ∈ added)) := by
  intro session next past added
  obtain ⟨ledger, hitems, h⟩ := exists_ledger id path frameLimit limit now operations
  change ledger.items = past at hitems
  change Disciplined limit session ledger at h
  have hturn : session.Turn next := session.after_turn operation
  have hrank := hturn.rank_le
  have hback : session.state.isWritable = false → next.state.isWritable = false := by
    revert hrank
    cases session.state <;> cases next.state <;> decide
  refine ⟨hrank, ⟨ledger, hitems.symm⟩, ?_, ?_, ?_, h.holds.bound, ?_, ?_⟩
  · intro hnext frame hframe
    rcases hturn.mem_added hnext _ hframe with hstop | ⟨-, reason, hclose⟩
    · cases hstop
    · cases hclose
      rfl
  · intro hsession item hitem
    rcases hturn.mem_added (hback hsession) item hitem with hstop | ⟨hwritable, -⟩
    · exact hstop
    · simp [hsession] at hwritable
  · intro hclosing
    cases hattached : session.outbox.attached with
    | false => exact .inr rfl
    | true =>
      have hclose := ledger.close_mem_items.mpr (h.closing hclosing hattached)
      exact .inl (hitems ▸ hclose)
  · have hlength := h.holds.length_waiting_le
    have hclose := Bool.toNat_le ledger.close.isSome
    have hstop := Bool.toNat_le ledger.stop
    omega
  · intro hattached
    exact ⟨close_mem_added h hturn hattached, shutdown_mem_added h hturn hattached⟩

end Session

end SocketGate
