import SocketGate.Proofs.Chat.Minutes
import SocketGate.Service.Builtin

/-!
# `SocketGate.Proofs.Chat.Delivery`: what the members of a room receive

The room sends by calling sessions on a server, and between two callbacks anything may happen to
that server: writers take from the queues, sessions close, connections come and go. So a run of
a room is a list of callbacks with arbitrary changes of the server in between
(`Scene.run`). What the sessions make of it does not come back to the room, since it does not
look at the answers.

A callback with all of its sends is one step of a run. A server may carry out the callbacks of
different sessions at the same time. Then another callback, a writer or a close can come between
two of the sends, or between the look at the members and the first of them, and two members can
receive the same two notices in different orders. The model leaves that out: it takes the
callbacks one after the other, each of them whole.

What a member is sent are the lines of the minutes that reach it, from its opening to its close.
Whether it receives a notice is decided when the notice is sent, by the state of its session and
by the room in its queue. Then the whole notice enters the queue or nothing of it, and for the
other members it makes no difference.

* `Scene.deliver_eq_callback`: a server tells its room about a session by a callback.
* `Scene.received_eq`: what enters a queue is what is sent to it and admitted.
* `Scene.delivers_of_run`: membership, the notices for each session, and what becomes of them.
-/

set_option autoImplicit false

namespace SocketGate.Chat

variable {σ : Type}

/-! ### Runs -/

/-- A room and the server that its sessions are on. -/
structure Scene (σ : Type) where
  room : Room := []
  server : Server σ

/-- Something that happens. A callback is one step with all of its sends, so nothing else
happens between two of them. -/
inductive Step (σ : Type) where
  /-- The room is told about a session, and does all that it does then. -/
  | callback (callback : Callback)
  /-- Something else happens to the server, between two callbacks. -/
  | meanwhile (change : Server σ → Server σ)

/-- The callbacks among some steps. -/
def callbacks (steps : List (Step σ)) : List Callback :=
  steps.filterMap fun
    | .callback callback => some callback
    | .meanwhile _ => none

/-- A notice on its way, with the session that it goes to, as that is at the time. There is no
session if the connection has none. -/
structure Sending where
  session : Option Session
  notice : Notice

/-- What enters the queue: all the frames of the notice, or nothing. -/
def Sending.queued (sending : Sending) : List Outbound :=
  match sending.session with
  | none => []
  | some session => session.entering sending.notice.message

/-- Notices that are sent to a session one after the other. -/
def sendings (session : Option Session) : List Notice → List Sending
  | [] => []
  | notice :: notices =>
    ⟨session, notice⟩ ::
      sendings (session.map fun session => (session.send notice.message).2) notices

theorem notice_sendings (session : Option Session) (notices : List Notice) :
    (sendings session notices).map (·.notice) = notices := by
  induction notices generalizing session with
  | nil => rfl
  | cons notice notices ih => rw [sendings, List.map_cons, ih]

/-- A connection without a session takes nothing. -/
theorem queued_sendings_none (notices : List Notice) :
    (sendings none notices).flatMap (·.queued) = [] := by
  induction notices with
  | nil => rfl
  | cons notice notices ih => exact ih

theorem queued_sendings_some (session : Session) (notices : List Notice) :
    (sendings (some session) notices).flatMap (·.queued) =
      session.enteringAll (notices.map (·.message)) := by
  induction notices generalizing session with
  | nil => rfl
  | cons notice notices ih =>
    rw [sendings, List.flatMap_cons, Option.map_some, ih]
    rfl

namespace Scene

/-- What a step leads to. -/
def after (scene : Scene σ) : Step σ → Scene σ
  | .callback callback =>
    let (room, server) :=
      Server.execute (scene.room.react callback.handle callback.event) scene.server
    { room, server }
  | .meanwhile change => { scene with server := change scene.server }

/-- What some steps lead to. -/
def run (scene : Scene σ) (steps : List (Step σ)) : Scene σ := steps.foldl after scene

/-- What stands in the queue of a slot after a callback behind what waited there before. -/
def added (slot : Nat) (scene : Scene σ) : Step σ → List Outbound
  | .callback callback =>
    match scene.server.session? slot, (scene.after (.callback callback)).server.session? slot with
    | some session, some next => session.outbox.added next.outbox
    | _, _ => []
  | .meanwhile _ => []

/-- What the session in a slot receives from the room during some steps. -/
def received (slot : Nat) (scene : Scene σ) : List (Step σ) → List Outbound
  | [] => []
  | step :: steps => scene.added slot step ++ (scene.after step).received slot steps

/-- What the room sends to the session in a slot in a step. -/
def sendingsOf (slot : Nat) (scene : Scene σ) : Step σ → List Sending
  | .callback callback =>
    sendings (scene.server.session? slot) (addressed slot (scene.room.posts callback))
  | .meanwhile _ => []

/-- What the room sends to the session in a slot during some steps. -/
def sent (slot : Nat) (scene : Scene σ) : List (Step σ) → List Sending
  | [] => []
  | step :: steps => scene.sendingsOf slot step ++ (scene.after step).sent slot steps

/-! ### One callback -/

/-- A server with a hall of services tells one of its rooms about a session by a callback. -/
theorem deliver_eq_callback (site : Site Hall) (happlication : site.application = Hall.application)
    {server : Server Hall} {slot number : Nat} {room : Room} {channel : Channel}
    (hservice : server.services[number]? = some (.chat room))
    (hlive : server.connections[slot]? = some (.live number channel)) (event : Event) :
    let next := after { room, server := server.noted slot channel event }
      (.callback ⟨Server.handleOf slot channel, event⟩)
    server.deliver site slot event =
      { next.server with services := server.services.set number (.chat next.room) } := by
  intro next
  have hreact : site.application.react server.services number (Server.handleOf slot channel) event =
      ((room.react (Server.handleOf slot channel) event).map .chat).map fun service =>
        server.services.set number service := by
    rw [happlication]
    simp only [Hall.application, hservice, Service.react]
  rw [Server.deliver_eq site hlive, hreact, Server.execute_map, Server.execute_map]
  rfl

/-- The room goes on as if nobody answered, and its posts are sent. -/
theorem after_callback (scene : Scene σ) (callback : Callback) :
    scene.after (.callback callback) =
      { room := scene.room.after callback
        server := (Server.execute (.mailing ((scene.room.posts callback).map fun post =>
          (post.1, post.2.message)) (scene.room.after callback)) scene.server).2 } := by
  show Scene.mk (Server.execute (scene.room.react callback.handle callback.event) scene.server).1
    (Server.execute (scene.room.react callback.handle callback.event) scene.server).2 = _
  rw [Room.react_eq_mailing, Server.execute_mailing]

/-- A callback appends to the queues of sessions, and changes nothing else about any of them. -/
theorem session?_callback (scene : Scene σ) (callback : Callback) (slot : Nat) :
    (scene.after (.callback callback)).server.session? slot =
      (scene.server.session? slot).map fun session =>
        { session with
          outbox := session.outbox.append
            ((scene.sendingsOf slot (.callback callback)).flatMap (·.queued)) } := by
  have hsendings : scene.sendingsOf slot (.callback callback) =
      sendings (scene.server.session? slot) (addressed slot (scene.room.posts callback)) := rfl
  rw [after_callback, Server.session?_execute_mailing, addressed_map, hsendings]
  cases scene.server.session? slot with
  | none => rfl
  | some session =>
    rw [Option.map_some, Option.map_some, Session.sendAll_eq, queued_sendings_some]

theorem added_eq (slot : Nat) (scene : Scene σ) (step : Step σ) :
    scene.added slot step = (scene.sendingsOf slot step).flatMap (·.queued) := by
  cases step with
  | meanwhile change => rfl
  | callback callback =>
    dsimp only [added]
    rw [session?_callback]
    cases hsession : scene.server.session? slot with
    | none =>
      dsimp only [sendingsOf]
      rw [hsession, queued_sendings_none]
    | some session => exact Outbox.added_append _ _

/-! ### Runs -/

theorem run_append (scene : Scene σ) (before after : List (Step σ)) :
    scene.run (before ++ after) = (scene.run before).run after :=
  List.foldl_append

theorem room_run (scene : Scene σ) (steps : List (Step σ)) :
    (scene.run steps).room = scene.room.run (callbacks steps) := by
  induction steps generalizing scene with
  | nil => rfl
  | cons step steps ih =>
    show ((scene.after step).run steps).room = _
    rw [ih]
    cases step with
    | meanwhile change => rfl
    | callback callback => rw [after_callback]; rfl

/-- What enters a queue is what is sent to it and admitted. -/
theorem received_eq (slot : Nat) (scene : Scene σ) (steps : List (Step σ)) :
    scene.received slot steps = (scene.sent slot steps).flatMap (·.queued) := by
  induction steps generalizing scene with
  | nil => rfl
  | cons step steps ih => rw [received, sent, List.flatMap_append, added_eq, ih]

/-- What is sent does not depend on what becomes of it. -/
theorem notices_sent (slot : Nat) (scene : Scene σ) (steps : List (Step σ)) :
    (scene.sent slot steps).map (·.notice) = scene.room.sentTo slot (callbacks steps) := by
  induction steps generalizing scene with
  | nil => rfl
  | cons step steps ih =>
    rw [sent, List.map_append, ih]
    cases step with
    | meanwhile change => rfl
    | callback callback =>
      rw [after_callback]
      dsimp only [sendingsOf]
      rw [notice_sendings]
      rfl

/-- What a run delivers that begins with an empty room. -/
structure Delivers (scene : Scene σ) (steps : List (Step σ)) : Prop where
  /-- The members are those that opened and have not closed since, and each is there once. -/
  members : ∀ id, id ∈ (scene.run steps).room.ids ↔ Since id (callbacks steps)
  once : (scene.run steps).room.ids.Nodup
  /-- From its opening to its close a session is sent its welcome, the news that it has joined,
  and of all that is said from then on the lines that reach it, in the one order of the
  minutes. Before and after that its binary messages are answered, and nothing else is sent. -/
  attends : ∀ handle before during after,
    callbacks steps = before ++ ⟨handle, .opened⟩ :: during ++ after →
    handle.id ∉ closings during →
    (∀ callback ∈ after.head?, callback.closing? = some handle.id) →
    let guest := Room.guestName handle.id
    let entered := Room.run [] (before ++ [⟨handle, .opened⟩])
    Room.minutes [] (callbacks steps) =
      Room.minutes [] before ++
        ⟨handle.id, .welcome handle.id.text guest⟩ :: ⟨handle.id, .joined guest⟩ ::
          entered.minutes during ++
        (entered.run during).minutes after ∧
    (scene.sent handle.slot steps).map (·.notice) =
      refusals handle.id before ++
        .welcome handle.id.text guest :: .joined guest ::
          ((entered.minutes during).filter (·.reaches handle.id)).map (·.notice) ++
        refusals handle.id after
  /-- To a session that never opens nothing else is sent at all. -/
  strangers : ∀ handle, (∀ callback ∈ callbacks steps, callback.handle.Fits handle) →
    handle.id ∉ openings (callbacks steps) →
    (scene.sent handle.slot steps).map (·.notice) = refusals handle.id (callbacks steps)
  /-- A session receives each notice as a whole, if it admits it when it is sent, and else
  nothing of it. What it admits does not depend on the other sessions. -/
  received : ∀ slot, scene.received slot steps = (scene.sent slot steps).flatMap (·.queued)
  /-- What it receives comes behind everything that waits, and nothing else about it changes. -/
  appended : ∀ before callback after slot, steps = before ++ .callback callback :: after →
    ((scene.run before).after (.callback callback)).server.session? slot =
      ((scene.run before).server.session? slot).map fun session =>
        { session with
          outbox := session.outbox.append
            (((scene.run before).sendingsOf slot (.callback callback)).flatMap (·.queued)) }
  /-- The text and the close of a session that is no member, or not any more, do nothing. -/
  ignored : ∀ before callback after, callbacks steps = before ++ callback :: after →
    ¬ Since callback.handle.id before →
    (∃ text, callback.event = .received (.text text)) ∨ callback.event.isClosed = true →
    (Room.run [] before).react callback.handle callback.event = .done (Room.run [] before)

/-- However sessions with different ids and slots open, each of them once, send messages and
close, and whatever happens to the server in between, the room delivers to its members what
the minutes of the run say. -/
theorem delivers_of_run (server : Server σ) (steps : List (Step σ))
    (hfits : ∀ callback ∈ callbacks steps, ∀ other ∈ callbacks steps,
      callback.handle.Fits other.handle)
    (honce : (openings (callbacks steps)).Nodup) :
    Delivers { server } steps where
  members id := by
    rw [room_run]
    exact Room.mem_ids_run_empty _ id
  once := by
    rw [room_run]
    exact Room.nodup_ids_run (show (Room.ids []).Nodup from List.nodup_nil) _
  attends handle before during after hsplit hstays hcloses := by
    rw [notices_sent]
    refine Room.attends_of_run hsplit (fun callback hmem => ?_) honce hstays hcloses
    exact hfits callback hmem ⟨handle, .opened⟩ (by simp [hsplit])
  strangers handle hfits hnever := by
    rw [notices_sent]
    exact Room.sentTo_of_absent (Room.seats_nil handle) hfits List.not_mem_nil hnever
  received slot := received_eq slot _ steps
  appended before callback after slot _ := session?_callback _ callback slot
  ignored before callback after hsplit hstranger hevent :=
    Room.react_of_stranger (mt (Room.mem_ids_run_empty before _).mp hstranger) hevent

/-! ### Two sessions -/

/-- The server that the two are on. -/
def pair : Server Unit :=
  let channel (handle : Handle) : Channel :=
    .ofTransport {} handle.id handle.path ⟨64, 1024, 16, 1000⟩ 0
  (({ services := () } : Server Unit).adopt 0 (channel alice)).adopt 0 (channel bob)

/-- Both come in, and the first takes a name. Then the second begins to close, so it does not
receive what is said next, and its close is reported twice. -/
def visit : List (Step Unit) := [
  .callback ⟨alice, .opened⟩,
  .callback ⟨bob, .opened⟩,
  .callback ⟨alice, .received (.text "\x7b\"type\":\"set_name\",\"name\":\" Alice \"\x7d")⟩,
  .meanwhile fun server => (server.call 1 (.close .normal "")).2,
  .callback ⟨alice, .received (.text "\x7b\"type\":\"chat\",\"content\":\"hi\"\x7d")⟩,
  .callback ⟨bob, .received (.binary [1, 2, 3])⟩,
  .callback ⟨bob, .closed CloseReason.normal⟩,
  .callback ⟨bob, .closed CloseReason.normal⟩]

theorem delivers_of_run_visit :
    (∀ callback ∈ callbacks visit, ∀ other ∈ callbacks visit,
      callback.handle.Fits other.handle) ∧
    (openings (callbacks visit)).Nodup ∧ Delivers { server := pair } visit :=
  ⟨by decide, by decide, delivers_of_run pair visit (by decide) (by decide)⟩

/-- What is sent to the second session, and whether it is received. -/
example : ((Scene.mk [] pair).sent bob.slot visit).map (fun sending =>
      (sending.notice, !sending.queued.isEmpty)) =
    [(.welcome bob.id.text "guest-9abcdef0", true), (.joined "guest-9abcdef0", true),
      (.renamed "guest-12345678" "Alice", true), (.said "Alice" "hi", false),
      (.refused "binary messages are not supported", false)] := by
  decide +kernel

end Scene

end SocketGate.Chat
