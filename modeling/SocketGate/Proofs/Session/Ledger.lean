import Mathlib.Data.List.Count
import SocketGate.Proofs.Session.Operation

/-!
# `SocketGate.Proofs.Session.Ledger`: the order of what enters an outbox

A `Ledger` is a sequence of items in the order that a session has to keep: frames of
messages, pings and pongs, then at most one close frame, then at most one request to shut
down. `Outbox.Holds` says that an outbox holds the end of a ledger, and no more plain
frames than its limit. It is kept when an item is taken and when the writer leaves
(`Outbox.Holds.take`, `Outbox.Holds.detach`).

* `Outbox.Holds.length_waiting_le`: beside the plain frames only the closing items of the
  ledger wait. So the places beyond the limit are free as long as the ledger has none.
* `Outbox.Holds.put_close`, `Outbox.Holds.put_stop`: the first close frame and the first
  request to shut down find a place, and the ledger goes on with them.
-/

set_option autoImplicit false

namespace SocketGate

/-- Whether an item is a frame other than a close frame. -/
def Outbound.isPlain : Outbound → Bool
  | .frame f => f.opcode ≠ .close
  | .shutdown => false

/-- All that ever entered an outbox, in the only order there is. -/
structure Ledger where
  /-- The frames of messages, pings and pongs. -/
  plain : List Frame := []
  /-- The reason in the close frame, if there is one. -/
  close : Option CloseReason := none
  /-- Whether the request to shut down is the last item. -/
  stop : Bool := false
  /-- None of the first frames is a close frame. -/
  plain_ne_close : ∀ frame ∈ plain, frame.opcode ≠ .close

namespace Ledger

/-- The close frame and the request to shut down, as far as they are there. -/
def closingItems (ledger : Ledger) : List Outbound :=
  (ledger.close.map fun reason => .frame (Frame.close reason)).toList ++
    if ledger.stop then [.shutdown] else []

/-- The items of a ledger, first one first. -/
def items (ledger : Ledger) : List Outbound :=
  ledger.plain.map .frame ++ ledger.closingItems

/-- The ledger of a session that has not sent anything. -/
def empty : Ledger where
  plain_ne_close := by simp

/-- The first part of a ledger holds plain frames only. -/
theorem isPlain_of_mem_plain (ledger : Ledger) (item : Outbound)
    (h : item ∈ ledger.plain.map Outbound.frame) : item.isPlain := by
  obtain ⟨frame, hframe, rfl⟩ := List.mem_map.mp h
  simpa [Outbound.isPlain] using ledger.plain_ne_close frame hframe

/-- The items that are not plain are the closing items. -/
theorem countP_not_isPlain (ledger : Ledger) :
    ledger.items.countP (fun item => ¬ item.isPlain) = ledger.closingItems.length := by
  have hplain : (ledger.plain.map Outbound.frame).countP (fun item => ¬ item.isPlain) = 0 := by
    rw [List.countP_eq_zero]
    intro item hitem
    simpa using ledger.isPlain_of_mem_plain item hitem
  have hclosing : ledger.closingItems.countP (fun item => ¬ item.isPlain) =
      ledger.closingItems.length := by
    rw [List.countP_eq_length]
    intro item hitem
    -- It is the close frame or the request to shut down.
    rcases List.mem_append.mp hitem with h | h
    · obtain ⟨reason, -, rfl⟩ := by simpa using h
      simp [Outbound.isPlain, Frame.close, Frame.ofPayload]
    · have : item = .shutdown := by simpa using (List.mem_ite_nil_right.mp h).2
      simp [this, Outbound.isPlain]
  rw [items, List.countP_append, hplain, hclosing, Nat.zero_add]

/-- There are at most two closing items. -/
theorem length_closingItems (ledger : Ledger) :
    ledger.closingItems.length = ledger.close.isSome.toNat + ledger.stop.toNat := by
  unfold closingItems
  cases ledger.close <;> cases ledger.stop <;> rfl

/-- A ledger with no closing item may go on with plain frames. -/
theorem exists_plain (ledger : Ledger) (frames : List Frame)
    (hplain : ∀ frame ∈ frames, frame.opcode ≠ .close) (hclose : ledger.close = none)
    (hstop : ledger.stop = false) :
    ∃ after : Ledger, after.items = ledger.items ++ frames.map .frame ∧
      after.close = none ∧ after.stop = false := by
  refine ⟨{ plain := ledger.plain ++ frames, plain_ne_close := ?_ }, ?_, rfl, rfl⟩
  · intro frame hframe
    rcases List.mem_append.mp hframe with h | h
    · exact ledger.plain_ne_close frame h
    · exact hplain frame h
  · simp [items, closingItems, hclose, hstop]

/-- A ledger with no closing item may go on with a close frame. -/
theorem items_close (ledger : Ledger) (reason : CloseReason) (hclose : ledger.close = none)
    (hstop : ledger.stop = false) :
    { ledger with close := some reason }.items =
      ledger.items ++ [.frame (Frame.close reason)] := by
  simp [items, closingItems, hclose, hstop]

/-- A ledger without the request to shut down may go on with it. -/
theorem items_stop (ledger : Ledger) (hstop : ledger.stop = false) :
    { ledger with stop := true }.items = ledger.items ++ [.shutdown] := by
  simp [items, closingItems, hstop]

/-- The request to shut down is in a ledger exactly when its last part is. -/
theorem shutdown_mem_items (ledger : Ledger) :
    .shutdown ∈ ledger.items ↔ ledger.stop = true := by
  unfold items closingItems
  cases ledger.close <;> cases ledger.stop <;> simp

/-- A close frame is in a ledger exactly when its middle part is there. -/
theorem close_mem_items (ledger : Ledger) :
    (∃ reason, .frame (Frame.close reason) ∈ ledger.items) ↔ ledger.close.isSome := by
  constructor
  · rintro ⟨reason, h⟩
    rcases List.mem_append.mp h with h | h
    · exact absurd (ledger.isPlain_of_mem_plain _ h)
        (by simp [Outbound.isPlain, Frame.close, Frame.ofPayload])
    · cases hclose : ledger.close with
      | some _ => rfl
      | none =>
        rw [closingItems, hclose] at h
        simp at h
  · intro h
    obtain ⟨reason, hclose⟩ := Option.isSome_iff_exists.mp h
    exact ⟨reason, by simp [items, closingItems, hclose]⟩

end Ledger

namespace Outbox

/-- The outbox holds the end of what entered it, as `ledger` has it, and at most `limit`
plain frames. -/
structure Holds (limit : Nat) (outbox : Outbox) (ledger : Ledger) : Prop where
  limit_eq : outbox.limit = limit
  suffix : outbox.waiting <:+ ledger.items
  gone : outbox.attached = false → outbox.waiting = []
  bound : outbox.waiting.countP Outbound.isPlain ≤ limit

namespace Holds

variable {limit : Nat} {outbox : Outbox} {ledger : Ledger}

/-- Beside the plain frames only the closing items wait. -/
theorem length_waiting_le (h : outbox.Holds limit ledger) :
    outbox.waiting.length ≤ limit + (ledger.close.isSome.toNat + ledger.stop.toNat) := by
  have hsplit := List.length_eq_countP_add_countP Outbound.isPlain (l := outbox.waiting)
  -- What waits is part of the ledger, so no more closing items wait than it has.
  have hclosing : outbox.waiting.countP (fun item => ¬ item.isPlain) ≤
      ledger.closingItems.length :=
    ledger.countP_not_isPlain ▸ h.suffix.sublist.countP_le
  rw [ledger.length_closingItems] at hclosing
  have hbound := h.bound
  omega

/-- Items enter at the end. -/
theorem append (h : outbox.Holds limit ledger) (items : List Outbound) (after : Ledger)
    (hattached : outbox.attached) (hitems : after.items = ledger.items ++ items)
    (hbound : outbox.waiting.countP Outbound.isPlain + items.countP Outbound.isPlain ≤ limit) :
    (outbox.append items).Holds limit after where
  limit_eq := h.limit_eq
  suffix := by
    rw [hitems]
    exact List.suffix_append_self_iff.mpr h.suffix
  gone hgone := by
    rw [outbox.attached_append, hattached] at hgone
    exact absurd hgone (by decide)
  bound := by
    rw [outbox.waiting_append, List.countP_append]
    exact hbound

/-- A close frame is put behind plain frames only. If there is a writer, it gets in. -/
theorem put_close (h : outbox.Holds limit ledger) (reason : CloseReason)
    (hlength : outbox.waiting.length ≤ outbox.limit) (hclose : ledger.close = none)
    (hstop : ledger.stop = false) :
    ∃ after : Ledger, after.items = ledger.items ++
        outbox.admitted (.frame (Frame.close reason)) ∧
      (outbox.put (.frame (Frame.close reason))).Holds limit after ∧
      after.stop = false ∧ (outbox.attached → after.close.isSome) := by
  rw [Outbox.put_eq]
  cases hattached : outbox.attached with
  | false =>
    rw [Outbox.admitted_of_detached _ _ hattached, Outbox.append_nil, List.append_nil]
    exact ⟨ledger, rfl, h, hstop, by simp⟩
  | true =>
    -- The headroom is two items, and no more than `limit` items wait.
    rw [Outbox.admitted_eq _ _ hattached (by unfold Outbox.headroom; omega)]
    have hitems := ledger.items_close reason hclose hstop
    refine ⟨_, hitems, h.append _ _ hattached hitems ?_, hstop, fun _ => rfl⟩
    have hplain : (Outbound.frame (Frame.close reason)).isPlain = false := by
      simp [Outbound.isPlain, Frame.close, Frame.ofPayload]
    rw [List.countP_singleton, hplain]
    exact h.bound

/-- The request to shut down is put once. If there is a writer, it gets in. -/
theorem put_stop (h : outbox.Holds limit ledger)
    (hlength : outbox.waiting.length ≤ outbox.limit + 1) (hstop : ledger.stop = false) :
    ∃ after : Ledger, after.items = ledger.items ++ outbox.admitted .shutdown ∧
      (outbox.put .shutdown).Holds limit after ∧
      after.close = ledger.close ∧ (outbox.attached → after.stop) := by
  rw [Outbox.put_eq]
  cases hattached : outbox.attached with
  | false =>
    rw [Outbox.admitted_of_detached _ _ hattached, Outbox.append_nil, List.append_nil]
    exact ⟨ledger, rfl, h, rfl, by simp⟩
  | true =>
    rw [Outbox.admitted_eq _ _ hattached (by unfold Outbox.headroom; omega)]
    have hitems := ledger.items_stop hstop
    refine ⟨_, hitems, h.append _ _ hattached hitems ?_, rfl, fun _ => rfl⟩
    rw [List.countP_singleton, show Outbound.shutdown.isPlain = false from rfl]
    exact h.bound

/-- An item leaves at the front. -/
theorem take {after : Outbox} (h : outbox.Holds limit ledger) (item : Outbound)
    (hwaiting : outbox.waiting = item :: after.waiting) (hlimit : after.limit = outbox.limit)
    (hattached : after.attached = outbox.attached) : after.Holds limit ledger where
  limit_eq := hlimit ▸ h.limit_eq
  suffix := ((List.suffix_cons item after.waiting).trans (hwaiting ▸ List.suffix_rfl)).trans
    h.suffix
  gone hgone := by
    have hempty := h.gone (hattached ▸ hgone)
    rw [hwaiting] at hempty
    cases hempty
  bound := by
    have hbound := h.bound
    rw [hwaiting, List.countP_cons] at hbound
    omega

/-- The writer leaves, and all that waits is lost. -/
theorem detach (h : outbox.Holds limit ledger) : outbox.detach.Holds limit ledger where
  limit_eq := h.limit_eq
  suffix := List.nil_suffix
  gone _ := rfl
  bound := Nat.zero_le limit

end Holds

end Outbox

end SocketGate
