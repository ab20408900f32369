import SocketGate.Proofs.Session.Discipline
import SocketGate.Proofs.Session.Traffic

/-!
# `SocketGate.Proofs.Session.Sending`: what becomes of a message that is sent

A message enters the outbox as a whole or not at all, and three things decide about it: the
state of the session, whether the writer is there, and how many items wait. `Session.Offered`
states each outcome with the exact condition for it. It holds of a message with its fragments
and of a ping with its one frame.

The outbox compares the places that are free, the headroom among them, with the frames and the
headroom. Both sides count the headroom, so what is compared in the end is the limit alone
(`Outbox.push_eq_ok_iff`).

* `Session.offer_offered`: the outcome of offering frames, in any state at all.
* `Session.run_take`: the writer takes items from the front and changes nothing else.
* `Session.sending_of_operations`: messages and pings, whatever has been done to the session
  before, and what becomes of a message that found the queue full.
-/

set_option autoImplicit false

namespace SocketGate

theorem SessionState.isWritable_iff (state : SessionState) :
    state.isWritable = true ↔ state = .handshakeDone ∨ state = .opened := by
  cases state <;> simp [isWritable]

namespace Outbox

/-- A writer that is there takes frames up to the limit. -/
theorem push_of_attached (outbox : Outbox) (frames : List Frame)
    (hattached : outbox.attached = true) :
    outbox.push frames =
      if outbox.waiting.length + frames.length ≤ outbox.limit then
        .ok (outbox.append (frames.map .frame))
      else .error .queueFull := by
  split
  · rename_i hroom
    exact (outbox.push_eq_ok_iff _ frames).mpr ⟨hattached, hroom, rfl⟩
  · rename_i hroom
    have hfree : outbox.free < frames.length + headroom := by
      unfold free capacity headroom
      omega
    rw [push, if_neg (by simp [hattached]), if_pos hfree]

/-- Without a writer frames are refused, however many there are. -/
theorem push_of_detached (outbox : Outbox) (frames : List Frame)
    (hdetached : outbox.attached = false) : outbox.push frames = .error .sessionClosed := by
  rw [push, if_pos (by simp [hdetached])]

end Outbox

namespace Session

/-! ### Offering frames -/

/-- The outcome of offering some frames to a session whose limit is `limit`. -/
structure Offered (limit : Nat) (session : Session) (frames : List Frame)
    (outcome : Except SendRefusal Unit × Session) : Prop where
  accepted_iff : outcome.1 = .ok () ↔
    (session.state = .handshakeDone ∨ session.state = .opened) ∧
      session.outbox.attached = true ∧ session.outbox.waiting.length + frames.length ≤ limit
  /-- The frames stand behind what waited before, in their order and with nothing between
  them. Nothing else has changed. -/
  queued : outcome.1 = .ok () →
    outcome.2 = { session with outbox := session.outbox.append (frames.map .frame) }
  closed_iff : outcome.1 = .error .sessionClosed ↔
    ¬ (session.state = .handshakeDone ∨ session.state = .opened) ∨
      session.outbox.attached = false
  full_iff : outcome.1 = .error .queueFull ↔
    (session.state = .handshakeDone ∨ session.state = .opened) ∧
      session.outbox.attached = true ∧ limit < session.outbox.waiting.length + frames.length
  unchanged : outcome.1 ≠ .ok () → outcome.2 = session

/-- Frames are offered in one of four situations: the state does not allow it, the writer is
gone, there is room for all of them, or there is not. -/
theorem offer_offered (session : Session) (frames : List Frame) :
    Offered session.outbox.limit session frames (session.offer frames) := by
  by_cases hwritable : session.state.isWritable = true
  · have hstate := session.state.isWritable_iff.mp hwritable
    cases hattached : session.outbox.attached with
    | false =>
      have hoffer : session.offer frames = (.error .sessionClosed, session) := by
        simp only [offer, hwritable, Outbox.push_of_detached _ frames hattached]
        rfl
      rw [hoffer]
      constructor <;> simp [hattached]
    | true =>
      by_cases hroom : session.outbox.waiting.length + frames.length ≤ session.outbox.limit
      · have hoffer : session.offer frames =
            (.ok (), { session with outbox := session.outbox.append (frames.map .frame) }) := by
          simp only [offer, hwritable, Outbox.push_of_attached _ frames hattached, if_pos hroom]
          rfl
        rw [hoffer]
        constructor <;> simp [hattached, hstate, hroom]
      · have hoffer : session.offer frames = (.error .queueFull, session) := by
          simp only [offer, hwritable, Outbox.push_of_attached _ frames hattached, if_neg hroom]
          rfl
        rw [hoffer]
        constructor <;> simp [hattached, hstate, hroom, Nat.lt_of_not_le hroom]
  · have hstate := mt session.state.isWritable_iff.mpr hwritable
    have hoffer : session.offer frames = (.error .sessionClosed, session) := by
      simp [offer, hwritable]
    rw [hoffer]
    constructor <;> simp [hstate]

/-- A ping is offered like the fragments of a message: an empty payload is never too long. -/
theorem ping_eq_offer (session : Session) : session.ping = session.offer [Frame.ping []] :=
  rfl

/-! ### What operations leave alone -/

theorem frameLimit_run (session : Session) (operations : List Operation) :
    (session.run operations).frameLimit = session.frameLimit := by
  induction operations generalizing session with
  | nil => rfl
  | cons operation operations ih => exact (ih _).trans (session.settings_after operation).2

/-- The limit of the outbox is the one that the session began with. -/
theorem limit_run (id : SessionId) (path : String) (frameLimit limit now : Nat)
    (operations : List Operation) :
    ((fresh id path frameLimit limit now).run operations).outbox.limit = limit := by
  obtain ⟨ledger, -, h⟩ := exists_ledger id path frameLimit limit now operations
  exact h.holds.limit_eq

/-- The writer takes items from the front, and nothing else changes. -/
theorem run_take (session : Session) (count : Nat) :
    session.run (List.replicate count .take) =
      { session with
        outbox := { session.outbox with waiting := session.outbox.waiting.drop count } } := by
  induction count generalizing session with
  | zero => rfl
  | succ count ih =>
    rw [List.replicate_succ, run, List.foldl_cons, ← run, ih]
    cases hwaiting : session.outbox.waiting with
    | nil => simp [after, Outbox.take?, hwaiting]
    | cons item waiting => simp [after, Outbox.take?, hwaiting]

/-! ### Whatever has been done before -/

/-- The two limits that a session began with decide about each message. -/
theorem send_offered (id : SessionId) (path : String) (frameLimit limit now : Nat)
    (operations : List Operation) (message : Message) :
    let session := (fresh id path frameLimit limit now).run operations
    Offered limit session (message.fragments frameLimit) (session.send message) := by
  intro session
  have hframes : session.frameLimit = frameLimit := frameLimit_run _ operations
  have hoffered := session.offer_offered (message.fragments frameLimit)
  rw [limit_run] at hoffered
  rwa [send, hframes]

/-- The outcome of sending a message, or a ping, is exact, whatever has been done to the
session before. It is accepted exactly if the state is one of the first two, the writer is
there and the frames fit within the limit behind what waits. Then they all stand at the end of
the queue, in order and with nothing between them. Otherwise it is refused: because the session
is closed, where the state or the writer is the cause, and because the queue is full where
nothing but the room is. A refusal changes nothing at all. Moreover:

- a message that found the queue full and has no more frames than the limit is accepted as soon
  as the writer has taken as many items as were in the way, and no sooner; the state is still
  the same then;
- a message with more frames than the limit is refused then and after any more operations, even
  if nothing waits. -/
theorem sending_of_operations (id : SessionId) (path : String) (frameLimit limit now : Nat)
    (operations : List Operation) (message : Message) :
    let session := (fresh id path frameLimit limit now).run operations
    let frames := message.fragments frameLimit
    Offered limit session frames (session.send message) ∧
    Offered limit session [Frame.ping []] session.ping ∧
    ((session.send message).1 = .error .queueFull → frames.length ≤ limit → ∀ count,
      let later := session.run (List.replicate count .take)
      later.state = session.state ∧
        ((later.send message).1 = .ok () ↔
          session.outbox.waiting.length + frames.length ≤ limit + count)) ∧
    (limit < frames.length → ∀ more, ((session.run more).send message).1 ≠ .ok ()) := by
  intro session frames
  have hnow : Offered limit session frames (session.send message) :=
    send_offered id path frameLimit limit now operations message
  -- More operations after the first ones are still operations on the fresh session.
  have hmore (more : List Operation) :
      Offered limit (session.run more) frames ((session.run more).send message) := by
    have h := send_offered id path frameLimit limit now (operations ++ more) message
    rwa [run_append] at h
  refine ⟨hnow, ?_, ?_, ?_⟩
  · rw [ping_eq_offer]
    have hoffered := session.offer_offered [Frame.ping []]
    rwa [limit_run] at hoffered
  · intro hfull hfits count later
    obtain ⟨hstate, hattached, -⟩ := hnow.full_iff.mp hfull
    have haccepted := (hmore (List.replicate count .take)).accepted_iff
    have hlater : later = { session with
        outbox := { session.outbox with waiting := session.outbox.waiting.drop count } } :=
      session.run_take count
    refine ⟨by rw [hlater], haccepted.trans ?_⟩
    rw [run_take]
    simp only [hstate, hattached, List.length_drop, true_and]
    omega
  · intro hlong more haccepted
    have hroom := ((hmore more).accepted_iff.mp haccepted).2.2
    omega

/-- Two messages wait where three frames may. Two more frames do not fit, but after one item has
been taken they do. -/
example :
    let session := (fresh ⟨0, 0⟩ "/" 4 3 0).run
      [.announce, .call (.send (.binary [1, 2, 3])), .call (.send (.binary [4]))]
    (session.send (.binary [5, 6, 7, 8, 9])).1 = .error .queueFull ∧
      ((session.after .take).send (.binary [5, 6, 7, 8, 9])).1 = .ok () := by
  decide

end Session

end SocketGate
