import SocketGate.Chat.Room
import SocketGate.Proofs.Service.Mailing
import SocketGate.Proofs.Text.Blank

/-!
# `SocketGate.Proofs.Chat.Deed`: what one callback does in a room

A callback tells the room about one session. It comes down to one of six deeds: the session
joins, says something, takes another name, leaves, is refused something, or does nothing. The
room reads off its own state and the event which one it is (`Room.deed`), and the deed alone
decides what the room is afterwards, what is answered to the session, and what everybody is
told. Everybody means the members afterwards: whoever joins hears of it, and whoever leaves does
not.

* `Room.does_deed`: which deed it is, with all that is known then.
* `Room.react_eq_mailing`: the reaction sends the posts of the deed and does nothing else.
* `Room.nameOf?_after_of_ne`, `Room.nameOf?_after_self`: the names afterwards.
* `Room.mem_ids_after`: the members afterwards.
-/

set_option autoImplicit false

namespace SocketGate.Chat

/-- The application is told about a session. -/
structure Callback where
  handle : Handle
  event : Event

namespace Callback

/-- The session that opens. -/
def opening? (callback : Callback) : Option SessionId :=
  match callback.event with
  | .opened => some callback.handle.id
  | .received _ | .failed _ | .closed _ => none

/-- The session that closes. -/
def closing? (callback : Callback) : Option SessionId :=
  match callback.event with
  | .closed _ => some callback.handle.id
  | .opened | .received _ | .failed _ => none

end Callback

/-- What a session does in a room. -/
inductive Deed where
  | joins (name : String)
  | speaks (name content : String)
  | renames (previous current : String)
  | leaves (name : String)
  /-- It asked for something that it does not get. -/
  | refused (message : String)
  | nothing
  deriving DecidableEq

/-- Whether a notice is for everybody. The others are for one session alone. -/
def Notice.isNews : Notice → Bool
  | .joined _ | .renamed .. | .said .. | .left _ => true
  | .welcome .. | .refused _ => false

/-- The name of a session, if it is a member, when news about it have been told. -/
def Notice.nameAfter (name : Option String) : Notice → Option String
  | .joined name => some name
  | .renamed _ current => some current
  | .left _ => none
  | .welcome .. | .said .. | .refused _ => name

/-- The message that a notice is sent as. -/
def Notice.message (notice : Notice) : Message := .text notice.text

namespace Deed

/-- The room after a deed of a session. -/
def after (deed : Deed) (room : Room) (handle : Handle) : Room :=
  match deed with
  | joins name => room.insert { id := handle.id, slot := handle.slot, name }
  | renames _ current => room.rename handle.id current
  | leaves _ => room.erase handle.id
  | speaks .. | refused _ | nothing => room

/-- What is answered to the session itself. -/
def answer (deed : Deed) (id : SessionId) : Option Notice :=
  match deed with
  | joins name => some (.welcome id.text name)
  | refused message => some (.refused message)
  | speaks .. | renames .. | leaves _ | nothing => none

/-- What everybody is told. -/
def news : Deed → Option Notice
  | joins name => some (.joined name)
  | speaks name content => some (.said name content)
  | renames previous current => some (.renamed previous current)
  | leaves name => some (.left name)
  | refused _ | nothing => none

theorem isNews_of_answer {deed : Deed} {id : SessionId} {notice : Notice}
    (h : deed.answer id = some notice) : notice.isNews = false := by
  cases deed <;> cases h <;> rfl

theorem isNews_of_news {deed : Deed} {notice : Notice} (h : deed.news = some notice) :
    notice.isNews = true := by
  cases deed <;> cases h <;> rfl

end Deed

namespace Room

/-! ### Members -/

/-- The ids of the members. -/
def ids (room : Room) : List SessionId := room.map (·.id)

@[simp] theorem ids_insert (room : Room) (member : Member) :
    (room.insert member).ids = room.ids.filter (· ≠ member.id) ++ [member.id] := by
  simp only [ids, insert, List.map_append, List.map_cons, List.map_nil, List.filter_map]
  rfl

@[simp] theorem ids_rename (room : Room) (id : SessionId) (name : String) :
    (room.rename id name).ids = room.ids := by
  simp only [ids, rename, List.map_map]
  refine List.map_congr_left fun member _ => ?_
  dsimp only [Function.comp_apply]
  split <;> rfl

@[simp] theorem ids_erase (room : Room) (id : SessionId) :
    (room.erase id).ids = room.ids.filter (· ≠ id) := by
  simp only [ids, erase, List.filter_map]
  rfl

theorem isSome_nameOf? (room : Room) (id : SessionId) :
    (room.nameOf? id).isSome = true ↔ id ∈ room.ids := by
  simp [nameOf?, ids]

theorem nameOf?_eq_none_iff (room : Room) (id : SessionId) :
    room.nameOf? id = none ↔ id ∉ room.ids := by
  rw [← isSome_nameOf?, Bool.not_eq_true, Option.isSome_eq_false_iff, Option.isNone_iff_eq_none]

theorem mem_ids_of_nameOf? {room : Room} {id : SessionId} {name : String}
    (h : room.nameOf? id = some name) : id ∈ room.ids := by
  rw [← isSome_nameOf?, h]
  rfl

/-- The name of a member among those that are left by a filter. -/
theorem nameOf?_filter (room : Room) {id id' : SessionId} (hne : id' ≠ id) :
    nameOf? (room.filter (·.id ≠ id)) id' = room.nameOf? id' := by
  unfold nameOf?
  rw [List.find?_filter]
  congr 2
  funext member
  by_cases hmember : member.id = id'
  · simp [hmember, hne]
  · simp [hmember]

theorem nameOf?_insert (room : Room) (member : Member) (id : SessionId) :
    (room.insert member).nameOf? id =
      if member.id = id then some member.name else room.nameOf? id := by
  split
  · rename_i hid
    subst hid
    have hnone : (room.filter (·.id ≠ member.id)).find? (·.id = member.id) = none := by
      simp
    rw [insert, nameOf?, List.find?_append, hnone]
    simp
  · rename_i hid
    rw [← room.nameOf?_filter (Ne.symm hid), insert, nameOf?, List.find?_append, nameOf?]
    simp [hid]

theorem nameOf?_rename (room : Room) (id : SessionId) (name : String) (id' : SessionId) :
    (room.rename id name).nameOf? id' =
      if id = id' then (room.nameOf? id').map fun _ => name else room.nameOf? id' := by
  -- The id of a member stays as it is, so the same one is found as before.
  have hfind : (fun member : Member => decide (member.id = id')) ∘
      (fun member : Member => if member.id = id then { member with name } else member) =
        fun member => decide (member.id = id') := by
    funext member
    dsimp only [Function.comp_apply]
    split <;> rfl
  unfold nameOf? rename
  rw [List.find?_map, hfind, Option.map_map]
  cases hmember : room.find? (·.id = id') with
  | none => simp
  | some member =>
    have hid : member.id = id' := by simpa using List.find?_some hmember
    by_cases h : id = id'
    · simp [hid, h]
    · simp [hid, h, Ne.symm h]

theorem nameOf?_erase (room : Room) (id id' : SessionId) :
    (room.erase id).nameOf? id' = if id = id' then none else room.nameOf? id' := by
  split
  · rename_i hid
    subst hid
    rw [nameOf?_eq_none_iff, ids_erase]
    simp
  · rename_i hid
    exact room.nameOf?_filter (Ne.symm hid)

/-! ### The deed of a callback -/

/-- What the session of a callback does. -/
def deed (room : Room) (callback : Callback) : Deed :=
  match callback.event with
  | .opened => .joins (guestName callback.handle.id)
  | .failed _ => .nothing
  | .closed _ => ((room.nameOf? callback.handle.id).map .leaves).getD .nothing
  | .received (.binary _) => .refused "binary messages are not supported"
  | .received (.text content) =>
    match room.nameOf? callback.handle.id with
    | none => .nothing
    | some name =>
      match Request.ofText? content with
      | .ok (.say content) => .speaks name content
      | .ok (.setName wanted) =>
        if (Text.trim wanted).isEmpty then .refused "name must not be empty"
        else .renames name (Text.trim wanted)
      | .error fault => .refused ("invalid message: " ++ fault.message)

/-- The room after a callback. -/
def after (room : Room) (callback : Callback) : Room :=
  (room.deed callback).after room callback.handle

/-- What is sent to tell everybody. -/
def announcement (room : Room) : Option Notice → List (Nat × Notice)
  | none => []
  | some notice => room.map fun member => (member.slot, notice)

/-- What is sent in a callback, and to which slots. -/
def posts (room : Room) (callback : Callback) : List (Nat × Notice) :=
  ((room.deed callback).answer callback.handle.id).toList.map (fun notice =>
      (callback.handle.slot, notice)) ++
    (room.after callback).announcement (room.deed callback).news

/-- Why a member is refused what it asked for with a text. -/
inductive Declines : String → String → Prop where
  | empty {text wanted : String} (request : Request.ofText? text = .ok (.setName wanted))
      (blank : Text.trim wanted = "") : Declines text "name must not be empty"
  | invalid {text : String} {fault : Json.Fault} (request : Request.ofText? text = .error fault) :
      Declines text ("invalid message: " ++ fault.message)

/-- The deeds that a callback can come down to, with all that is known then. -/
inductive Does (room : Room) (callback : Callback) : Deed → Prop where
  | joins (opened : callback.event = .opened) :
      Does room callback (.joins (guestName callback.handle.id))
  | speaks {text name content : String} (received : callback.event = .received (.text text))
      (name_eq : room.nameOf? callback.handle.id = some name)
      (request : Request.ofText? text = .ok (.say content)) :
      Does room callback (.speaks name content)
  | renames {text name wanted : String} (received : callback.event = .received (.text text))
      (name_eq : room.nameOf? callback.handle.id = some name)
      (request : Request.ofText? text = .ok (.setName wanted))
      (solid : Text.trim wanted ≠ "") :
      Does room callback (.renames name (Text.trim wanted))
  | leaves {reason : CloseReason} {name : String} (closed : callback.event = .closed reason)
      (name_eq : room.nameOf? callback.handle.id = some name) :
      Does room callback (.leaves name)
  /-- Whoever sends bytes is told, member or not. -/
  | refusesBytes {bytes : Bytes} (received : callback.event = .received (.binary bytes)) :
      Does room callback (.refused "binary messages are not supported")
  | refusesText {text message : String} (received : callback.event = .received (.text text))
      (member : callback.handle.id ∈ room.ids) (declines : Declines text message) :
      Does room callback (.refused message)
  | ignoresText {text : String} (received : callback.event = .received (.text text))
      (stranger : callback.handle.id ∉ room.ids) : Does room callback .nothing
  | ignoresClose {reason : CloseReason} (closed : callback.event = .closed reason)
      (stranger : callback.handle.id ∉ room.ids) : Does room callback .nothing
  | ignoresFailure {failure : Failure} (failed : callback.event = .failed failure) :
      Does room callback .nothing

theorem does_deed (room : Room) (callback : Callback) :
    room.Does callback (room.deed callback) := by
  unfold deed
  cases hevent : callback.event with
  | opened => exact .joins hevent
  | failed failure => exact .ignoresFailure hevent
  | closed reason =>
    cases hname : room.nameOf? callback.handle.id with
    | none => exact .ignoresClose hevent ((room.nameOf?_eq_none_iff _).mp hname)
    | some name => exact .leaves hevent hname
  | received message =>
    cases message with
    | binary bytes => exact .refusesBytes hevent
    | text text =>
      cases hname : room.nameOf? callback.handle.id with
      | none => exact .ignoresText hevent ((room.nameOf?_eq_none_iff _).mp hname)
      | some name =>
        have hmember := mem_ids_of_nameOf? hname
        cases hrequest : Request.ofText? text with
        | error fault =>
          simp only [hrequest]
          exact .refusesText hevent hmember (.invalid hrequest)
        | ok request =>
          cases request with
          | say content =>
            simp only [hrequest]
            exact .speaks hevent hname hrequest
          | setName wanted =>
            simp only [hrequest]
            split
            · rename_i hblank
              exact .refusesText hevent hmember (.empty hrequest (String.isEmpty_iff.mp hblank))
            · rename_i hsolid
              exact .renames hevent hname hrequest (mt String.isEmpty_iff.mpr hsolid)

/-! ### What the room sends -/

theorem broadcast_eq_mailing (room : Room) (notice : Notice) :
    room.broadcast notice =
      .mailing ((room.announcement (some notice)).map fun post => (post.1, post.2.message))
        room := by
  rw [broadcast, Script.tell_eq_mailing, announcement, List.map_map, List.map_map]
  rfl

theorem join_eq_mailing (room : Room) (handle : Handle) :
    let name := guestName handle.id
    let next := room.insert { id := handle.id, slot := handle.slot, name }
    room.join handle = .mailing
      ((handle.slot, (Notice.welcome handle.id.text name).message) ::
        (next.announcement (some (.joined name))).map fun post => (post.1, post.2.message))
      next :=
  Script.mailing_andThen [(handle.slot, _)] _ (fun room : Room => room.broadcast _)
    (broadcast_eq_mailing _ _)

/-- The reaction to a callback sends the posts of the deed and ends with the room after it. -/
theorem react_eq_mailing (room : Room) (callback : Callback) :
    room.react callback.handle callback.event =
      .mailing ((room.posts callback).map fun post => (post.1, post.2.message))
        (room.after callback) := by
  have hdoes := room.does_deed callback
  unfold posts after
  generalize room.deed callback = deed at hdoes
  cases hdoes with
  | joins opened =>
    rw [opened]
    exact room.join_eq_mailing callback.handle
  | speaks received name_eq request =>
    rw [received]
    simp only [react, receive, name_eq, request, serve]
    exact broadcast_eq_mailing _ _
  | renames received name_eq request solid =>
    rw [received]
    simp only [react, receive, name_eq, request, serve, mt String.isEmpty_iff.mp solid]
    exact broadcast_eq_mailing _ _
  | leaves closed name_eq =>
    rw [closed]
    simp only [react, leave, name_eq]
    exact broadcast_eq_mailing _ _
  | refusesBytes received =>
    rw [received]
    rfl
  | refusesText received member declines =>
    rw [received]
    obtain ⟨name, name_eq⟩ := Option.isSome_iff_exists.mp ((room.isSome_nameOf? _).mpr member)
    cases declines with
    | empty request blank =>
      simp only [react, receive, name_eq, request, serve, blank]
      rfl
    | invalid request =>
      simp only [react, receive, name_eq, request]
      rfl
  | ignoresText received stranger =>
    rw [received]
    simp only [react, receive, (room.nameOf?_eq_none_iff _).mpr stranger]
    rfl
  | ignoresClose closed stranger =>
    rw [closed]
    simp only [react, leave, (room.nameOf?_eq_none_iff _).mpr stranger]
    rfl
  | ignoresFailure failed =>
    rw [failed]
    rfl

/-- The text and the close of a session that is no member do nothing. -/
theorem react_of_stranger {room : Room} {callback : Callback}
    (hstranger : callback.handle.id ∉ room.ids)
    (hevent : (∃ text, callback.event = .received (.text text)) ∨
      callback.event.isClosed = true) :
    room.react callback.handle callback.event = .done room := by
  rw [react_eq_mailing, posts, after]
  have hdoes := room.does_deed callback
  generalize room.deed callback = deed at hdoes
  cases hdoes with
  | joins event | refusesBytes event => simp [event, Event.isClosed] at hevent
  | speaks event name_eq | renames event name_eq | leaves event name_eq =>
    exact absurd (mem_ids_of_nameOf? name_eq) hstranger
  | refusesText event member => exact absurd member hstranger
  | ignoresText | ignoresClose | ignoresFailure => rfl

/-! ### Who is there afterwards, and under which name -/

/-- A callback changes nothing about the name of any other session. -/
theorem nameOf?_after_of_ne (room : Room) (callback : Callback) {id : SessionId}
    (hne : callback.handle.id ≠ id) : (room.after callback).nameOf? id = room.nameOf? id := by
  unfold after
  cases room.deed callback with
  | joins name => exact (room.nameOf?_insert _ id).trans (if_neg hne)
  | renames previous current => exact (room.nameOf?_rename _ current id).trans (if_neg hne)
  | leaves name => exact (room.nameOf?_erase _ id).trans (if_neg hne)
  | speaks | refused | nothing => rfl

/-- The name of the session itself is the one that the news tell. -/
theorem nameOf?_after_self (room : Room) (callback : Callback) :
    (room.after callback).nameOf? callback.handle.id =
      (room.deed callback).news.toList.foldl Notice.nameAfter
        (room.nameOf? callback.handle.id) := by
  have hdoes := room.does_deed callback
  unfold after
  generalize room.deed callback = deed at hdoes
  cases hdoes with
  | joins => exact (room.nameOf?_insert _ _).trans (if_pos rfl)
  | renames received name_eq request solid =>
    refine (room.nameOf?_rename _ _ _).trans ((if_pos rfl).trans ?_)
    rw [name_eq]
    rfl
  | leaves => exact (room.nameOf?_erase _ _).trans (if_pos rfl)
  | _ => rfl

/-- The members after a callback: whoever comes in, and whoever was there and does not go. -/
theorem mem_ids_after (room : Room) (callback : Callback) (id : SessionId) :
    id ∈ (room.after callback).ids ↔
      callback.opening? = some id ∨ (id ∈ room.ids ∧ callback.closing? ≠ some id) := by
  unfold Callback.opening? Callback.closing?
  -- Whether a session is a member shows in whether it has a name.
  by_cases hself : callback.handle.id = id
  · subst hself
    rw [← isSome_nameOf?, ← isSome_nameOf?, nameOf?_after_self]
    have hdoes := room.does_deed callback
    generalize room.deed callback = deed at hdoes
    cases hdoes with
    | joins opened => simp [opened, Deed.news, Notice.nameAfter]
    | speaks received name_eq | renames received name_eq =>
      simp [received, name_eq, Deed.news, Notice.nameAfter]
    | leaves closed => simp [closed, Deed.news, Notice.nameAfter]
    | refusesBytes received | refusesText received | ignoresText received =>
      simp [received, Deed.news]
    | ignoresClose closed stranger =>
      simp [closed, Deed.news, (room.nameOf?_eq_none_iff _).mpr stranger]
    | ignoresFailure failed => simp [failed, Deed.news]
  · rw [← isSome_nameOf?, ← isSome_nameOf?, room.nameOf?_after_of_ne callback hself]
    cases callback.event <;> simp [hself]

end Room

end SocketGate.Chat
