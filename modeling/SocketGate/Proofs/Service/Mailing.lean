import SocketGate.Proofs.Server.Slot
import SocketGate.Proofs.Session.Sending

/-!
# `SocketGate.Proofs.Service.Mailing`: reactions that only send messages

A script that sends messages and does not look at the answers is known by the messages, each
with the slot it goes to, and by the value it ends with (`Script.mailing`). When it is carried
out, the sessions do not see each other: each one is sent the messages for its slot, in order.

What comes of one message depends on the session at that time alone. Either all its frames
enter the queue, behind everything that waits, or none of them does (`Session.Admits`).

* `Session.send_eq`: a message that is sent changes the queue and nothing else.
* `Script.mailing_andThen`: two mailings one after the other.
* `Server.session?_execute_mailing`: what a mailing does to the session in a slot.
-/

set_option autoImplicit false

namespace SocketGate

/-! ### Messages that are sent to a session -/

namespace Session

/-- Whether a message that is sent now enters the queue: the state allows it, the writer is
there, and there is room for all its frames. -/
def Admits (session : Session) (message : Message) : Prop :=
  (session.state = .handshakeDone ∨ session.state = .opened) ∧ session.outbox.attached = true ∧
    session.outbox.waiting.length + (message.fragments session.frameLimit).length ≤
      session.outbox.limit

instance (session : Session) (message : Message) : Decidable (session.Admits message) :=
  inferInstanceAs (Decidable (_ ∧ _))

/-- What enters the queue of a message that is sent now: all its frames or nothing. -/
def entering (session : Session) (message : Message) : List Outbound :=
  if session.Admits message then (message.fragments session.frameLimit).map .frame else []

/-- A message that is sent changes the queue and nothing else. -/
theorem send_eq (session : Session) (message : Message) :
    (session.send message).2 =
      { session with outbox := session.outbox.append (session.entering message) } := by
  have hoffered := session.offer_offered (message.fragments session.frameLimit)
  unfold entering
  by_cases hadmits : session.Admits message
  · rw [if_pos hadmits]
    exact hoffered.queued (hoffered.accepted_iff.mpr hadmits)
  · rw [if_neg hadmits, Outbox.append_nil]
    exact hoffered.unchanged (mt hoffered.accepted_iff.mp hadmits)

/-- The session when messages have been sent to it one after the other. -/
def sendAll (session : Session) (messages : List Message) : Session :=
  messages.foldl (fun session message => (session.send message).2) session

/-- What enters the queue when messages are sent one after the other. -/
def enteringAll (session : Session) : List Message → List Outbound
  | [] => []
  | message :: messages =>
    session.entering message ++ (session.send message).2.enteringAll messages

theorem sendAll_eq (session : Session) (messages : List Message) :
    session.sendAll messages =
      { session with outbox := session.outbox.append (session.enteringAll messages) } := by
  induction messages generalizing session with
  | nil => rw [enteringAll, Outbox.append_nil]; rfl
  | cons message messages ih =>
    show (session.send message).2.sendAll messages = _
    rw [ih, enteringAll, ← Outbox.append_append]
    simp only [send_eq]

end Session

/-! ### Mailings -/

/-- What is addressed to a slot. -/
def addressed {β : Type} (slot : Nat) (posts : List (Nat × β)) : List β :=
  (posts.filter (·.1 = slot)).map (·.2)

theorem addressed_append {β : Type} (slot : Nat) (posts posts' : List (Nat × β)) :
    addressed slot (posts ++ posts') = addressed slot posts ++ addressed slot posts' := by
  simp [addressed]

/-- What is all addressed to one slot. -/
theorem addressed_map_mk {β : Type} (slot slot' : Nat) (values : List β) :
    addressed slot (values.map fun value => (slot', value)) =
      if slot' = slot then values else [] := by
  rw [addressed, List.filter_map, List.map_map]
  by_cases hslot : slot' = slot <;> simp [Function.comp_def, hslot]

theorem addressed_map {β γ : Type} (slot : Nat) (f : β → γ) (posts : List (Nat × β)) :
    addressed slot (posts.map fun post => (post.1, f post.2)) = (addressed slot posts).map f := by
  simp [addressed, List.filter_map, Function.comp_def]

namespace Script

variable {α β σ : Type}

/-- Send messages, each to the session in its slot, whatever is answered, and end with a
value. -/
def mailing (posts : List (Nat × Message)) (value : α) : Script α :=
  match posts with
  | [] => .done value
  | (slot, message) :: posts => .call slot (.send message) fun _ => mailing posts value

theorem tell_eq_mailing (slots : List Nat) (message : Message) (value : α) :
    tell slots message value = mailing (slots.map fun slot => (slot, message)) value := by
  induction slots with
  | nil => rfl
  | cons slot slots ih => rw [tell, ih]; rfl

theorem mailing_andThen (posts : List (Nat × Message)) (value : α) (f : α → Script β)
    {posts' : List (Nat × Message)} {value' : β} (hnext : f value = mailing posts' value') :
    (mailing posts value).andThen f = mailing (posts ++ posts') value' := by
  induction posts with
  | nil => exact hnext
  | cons post posts ih => rw [mailing, andThen, ih]; rfl

theorem callsTo_mailing (slot : Nat) (posts : List (Nat × Message)) (value : α)
    (server : Server σ) :
    (mailing posts value).callsTo slot server = (addressed slot posts).map .send := by
  induction posts generalizing server with
  | nil => rfl
  | cons post posts ih =>
    rw [mailing, callsTo, ih, addressed, addressed, List.filter_cons]
    by_cases hslot : post.1 = slot <;> simp [hslot]

end Script

namespace Server

variable {α σ : Type}

/-- The session in a slot, if its connection has one. -/
def session? (server : Server σ) (slot : Nat) : Option Session :=
  (server.channel? slot).map (·.session)

theorem execute_map {β : Type} (f : α → β) (script : Script α) (server : Server σ) :
    execute (script.map f) server =
      (f (execute script server).1, (execute script server).2) := by
  induction script generalizing server with
  | done value => rfl
  | call slot request next ih => exact ih _ _

theorem execute_mailing (posts : List (Nat × Message)) (value : α) (server : Server σ) :
    (execute (.mailing posts value) server).1 = value := by
  induction posts generalizing server with
  | nil => rfl
  | cons post posts ih => exact ih _

theorem session_run_send (channel : Channel) (messages : List Message) :
    (channel.run ((messages.map Call.send).map .call)).session =
      channel.session.sendAll messages := by
  induction messages generalizing channel with
  | nil => rfl
  | cons message messages ih => exact ih _

/-- A mailing sends each session what is addressed to its slot, and does nothing else. -/
theorem session?_execute_mailing (posts : List (Nat × Message)) (value : α) (server : Server σ)
    (slot : Nat) :
    (execute (.mailing posts value) server).2.session? slot =
      (server.session? slot).map (·.sendAll (addressed slot posts)) := by
  unfold session? channel?
  rw [execute_connections, Script.callsTo_mailing]
  cases server.connections[slot]? with
  | none => rfl
  | some connection =>
    cases connection with
    | live service channel => exact congrArg some (session_run_send channel _)
    | _ => rfl

end Server

end SocketGate
