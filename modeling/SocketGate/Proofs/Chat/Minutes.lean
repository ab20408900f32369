import SocketGate.Proofs.Chat.Deed

/-!
# `SocketGate.Proofs.Chat.Minutes`: a room under any sequence of callbacks

The minutes of a run are everything that is said in it, in one order: the answers to single
sessions and the news for everybody, each with the session that it is about. A room does not
keep minutes, and nobody is sent all of them. But what a member is sent from its opening to its
close are the lines of the minutes that reach it, all of them and in this order. Before and
after that a session is sent nothing but the answers to its own binary messages.

Who is a member is decided by the callbacks alone: whoever was opened and not closed since.

* `Room.mem_ids_run`: the members after a run.
* `Room.sentTo_of_present`, `Room.sentTo_of_absent`: what a member is sent, and what others are.
* `Room.attends_of_run`: what a session is sent in a run in which it opens.
-/

set_option autoImplicit false

namespace SocketGate

/-- Whether two handles have the same slot exactly if they have the same id. -/
def Handle.Fits (handle other : Handle) : Prop := handle.id = other.id ↔ handle.slot = other.slot

instance (handle other : Handle) : Decidable (handle.Fits other) :=
  inferInstanceAs (Decidable (_ ↔ _))

namespace Chat

/-! ### Callbacks -/

/-- The answer to a binary message of this session. -/
def Callback.refusal? (id : SessionId) (callback : Callback) : Option Notice :=
  match callback.event with
  | .received (.binary _) =>
    if callback.handle.id = id then some (.refused "binary messages are not supported") else none
  | .received (.text _) | .opened | .failed _ | .closed _ => none

/-- The sessions that open in a run, in this order. -/
def openings (callbacks : List Callback) : List SessionId := callbacks.filterMap (·.opening?)

/-- The sessions that close in a run, in this order. -/
def closings (callbacks : List Callback) : List SessionId := callbacks.filterMap (·.closing?)

theorem mem_openings_cons (id : SessionId) (callback : Callback) (callbacks : List Callback) :
    id ∈ openings (callback :: callbacks) ↔
      callback.opening? = some id ∨ id ∈ openings callbacks := by
  simp [openings]

theorem count_openings_cons (id : SessionId) (callback : Callback) (callbacks : List Callback) :
    (openings (callback :: callbacks)).count id =
      (openings callbacks).count id + if callback.opening? = some id then 1 else 0 := by
  unfold openings
  cases h : callback.opening? with
  | none => simp [h]
  | some other => simp [h, List.count_cons]

theorem mem_closings_cons (id : SessionId) (callback : Callback) (callbacks : List Callback) :
    id ∈ closings (callback :: callbacks) ↔
      callback.closing? = some id ∨ id ∈ closings callbacks := by
  simp [closings]

/-- Who opens once opens neither before nor afterwards. -/
theorem notMem_openings {before after : List Callback} {opening : Callback} {id : SessionId}
    (hopens : opening.opening? = some id)
    (honce : (openings (before ++ opening :: after)).Nodup) :
    id ∉ openings before ∧ id ∉ openings after := by
  have hsplit : openings (before ++ opening :: after) =
      openings before ++ id :: openings after := by
    simp [openings, List.filterMap_append, hopens]
  rw [hsplit, List.nodup_middle, List.nodup_cons, List.mem_append, not_or] at honce
  exact honce.1

/-- The session has opened in a run and has not closed since. -/
def Since (id : SessionId) (callbacks : List Callback) : Prop :=
  ∃ before opening after, callbacks = before ++ opening :: after ∧
    opening.opening? = some id ∧ id ∉ closings after

theorem since_cons (id : SessionId) (callback : Callback) (callbacks : List Callback) :
    Since id (callback :: callbacks) ↔
      (callback.opening? = some id ∧ id ∉ closings callbacks) ∨ Since id callbacks := by
  constructor
  · rintro ⟨before, opening, after, hsplit, hopens, hstays⟩
    obtain ⟨rfl, hrest⟩ | ⟨front, rfl, hrest⟩ := List.cons_eq_append_iff.mp hsplit
    · obtain ⟨rfl, rfl⟩ := List.cons_eq_cons.mp hrest
      exact .inl ⟨hopens, hstays⟩
    · exact .inr ⟨front, opening, after, hrest, hopens, hstays⟩
  · rintro (⟨hopens, hstays⟩ | ⟨before, opening, after, rfl, hopens, hstays⟩)
    · exact ⟨[], callback, callbacks, rfl, hopens, hstays⟩
    · exact ⟨callback :: before, opening, after, rfl, hopens, hstays⟩

/-- The answers to the binary messages of a session in a run. -/
def refusals (id : SessionId) (callbacks : List Callback) : List Notice :=
  callbacks.filterMap (·.refusal? id)

theorem refusals_cons (id : SessionId) (callback : Callback) (callbacks : List Callback) :
    refusals id (callback :: callbacks) =
      (callback.refusal? id).toList ++ refusals id callbacks := by
  unfold refusals
  cases h : callback.refusal? id <;> simp [h]

/-! ### The minutes -/

/-- A line of the minutes. -/
structure Line where
  /-- The session whose callback it comes from. -/
  about : SessionId
  notice : Notice
  deriving DecidableEq

/-- Whether a line is for a member: it is news, or the answer to this member. -/
def Line.reaches (id : SessionId) (line : Line) : Bool :=
  line.notice.isNews || line.about = id

namespace Room

/-- What is said in a callback. -/
def lines (room : Room) (callback : Callback) : List Line :=
  (((room.deed callback).answer callback.handle.id).toList ++
    (room.deed callback).news.toList).map fun notice => ⟨callback.handle.id, notice⟩

/-- The room after some callbacks. -/
def run (room : Room) (callbacks : List Callback) : Room := callbacks.foldl after room

/-- What is said in some callbacks. -/
def minutes (room : Room) : List Callback → List Line
  | [] => []
  | callback :: callbacks => room.lines callback ++ (room.after callback).minutes callbacks

/-- What is sent to the session in a slot in some callbacks. -/
def sentTo (slot : Nat) (room : Room) : List Callback → List Notice
  | [] => []
  | callback :: callbacks =>
    addressed slot (room.posts callback) ++ sentTo slot (room.after callback) callbacks

theorem run_append (room : Room) (before after : List Callback) :
    room.run (before ++ after) = (room.run before).run after :=
  List.foldl_append

theorem minutes_append (room : Room) (before after : List Callback) :
    room.minutes (before ++ after) = room.minutes before ++ (room.run before).minutes after := by
  induction before generalizing room with
  | nil => rfl
  | cons callback before ih =>
    rw [List.cons_append, minutes, minutes, ih, List.append_assoc]
    rfl

theorem sentTo_append (slot : Nat) (room : Room) (before after : List Callback) :
    room.sentTo slot (before ++ after) =
      room.sentTo slot before ++ (room.run before).sentTo slot after := by
  induction before generalizing room with
  | nil => rfl
  | cons callback before ih =>
    rw [List.cons_append, sentTo, sentTo, ih, List.append_assoc]
    rfl

/-! ### Who is a member -/

/-- The members after a run: whoever opened in it and did not close since, and whoever was
there before and did not close at all. -/
theorem mem_ids_run (room : Room) (callbacks : List Callback) (id : SessionId) :
    id ∈ (room.run callbacks).ids ↔
      Since id callbacks ∨ (id ∈ room.ids ∧ id ∉ closings callbacks) := by
  induction callbacks generalizing room with
  | nil => simp [run, Since, closings]
  | cons callback callbacks ih =>
    show id ∈ ((room.after callback).run callbacks).ids ↔ _
    rw [ih, mem_ids_after, since_cons, mem_closings_cons]
    tauto

/-- The members after a run that begins with an empty room. -/
theorem mem_ids_run_empty (callbacks : List Callback) (id : SessionId) :
    id ∈ (run [] callbacks).ids ↔ Since id callbacks := by
  rw [mem_ids_run]
  exact or_iff_left fun h => List.not_mem_nil h.1

theorem nodup_ids_after {room : Room} (h : room.ids.Nodup) (callback : Callback) :
    (room.after callback).ids.Nodup := by
  unfold after
  cases room.deed callback with
  | joins name =>
    rw [Deed.after, ids_insert]
    simp [List.nodup_append, h.filter]
  | renames previous current => exact (room.ids_rename _ current).symm ▸ h
  | leaves name => exact (room.ids_erase _).symm ▸ h.filter _
  | speaks | refused | nothing => exact h

/-- Each session is a member at most once. -/
theorem nodup_ids_run {room : Room} (h : room.ids.Nodup) (callbacks : List Callback) :
    (room.run callbacks).ids.Nodup := by
  induction callbacks generalizing room with
  | nil => exact h
  | cons callback callbacks ih => exact ih (nodup_ids_after h callback)

/-! ### Slots -/

/-- No member is taken for the session of a handle by its slot, and none stands in the room
twice. -/
structure Seats (room : Room) (handle : Handle) : Prop where
  nodup : room.ids.Nodup
  slots : ∀ member ∈ room, member.id = handle.id ↔ member.slot = handle.slot

theorem seats_nil (handle : Handle) : Seats [] handle where
  nodup := List.nodup_nil
  slots := fun _ h => absurd h List.not_mem_nil

theorem Seats.after {room : Room} {handle : Handle} (h : room.Seats handle)
    {callback : Callback} (hcallback : callback.handle.Fits handle) :
    (room.after callback).Seats handle where
  nodup := nodup_ids_after h.nodup callback
  slots := by
    unfold Room.after
    intro member hmember
    cases hdeed : room.deed callback with
    | joins name =>
      rw [hdeed, Deed.after, insert, List.mem_append, List.mem_singleton] at hmember
      obtain hold | rfl := hmember
      · exact h.slots member (List.mem_filter.mp hold).1
      · exact hcallback
    | renames previous current =>
      rw [hdeed, Deed.after, rename, List.mem_map] at hmember
      obtain ⟨old, hold, rfl⟩ := hmember
      split <;> exact h.slots old hold
    | leaves name =>
      rw [hdeed, Deed.after, erase] at hmember
      exact h.slots member (List.mem_filter.mp hmember).1
    | speaks | refused | nothing =>
      rw [hdeed] at hmember
      exact h.slots member hmember

theorem Seats.run {room : Room} {handle : Handle} (h : room.Seats handle)
    {callbacks : List Callback} (hcallbacks : ∀ callback ∈ callbacks, callback.handle.Fits handle) :
    (room.run callbacks).Seats handle := by
  induction callbacks generalizing room with
  | nil => exact h
  | cons callback callbacks ih =>
    obtain ⟨hcallback, hcallbacks⟩ := List.forall_mem_cons.mp hcallbacks
    exact ih (h.after hcallback) hcallbacks

/-- News reach the session in a slot once if it is a member, and else not at all. -/
theorem addressed_announcement {room : Room} {handle : Handle} (hseats : room.Seats handle)
    (news : Option Notice) :
    addressed handle.slot (room.announcement news) =
      if handle.id ∈ room.ids then news.toList else [] := by
  obtain ⟨hnodup, hslots⟩ := hseats
  cases news with
  | none => simp [announcement, addressed]
  | some notice =>
    induction room with
    | nil => simp [announcement, addressed, ids]
    | cons member room ih =>
      obtain ⟨hnew, hnodup⟩ := List.nodup_cons.mp hnodup
      obtain ⟨hmember, hslots⟩ := List.forall_mem_cons.mp hslots
      have hcons : addressed handle.slot (announcement (member :: room) (some notice)) =
          (if member.slot = handle.slot then [notice] else []) ++
            addressed handle.slot (announcement room (some notice)) := by
        by_cases hslot : member.slot = handle.slot <;> simp [announcement, addressed, hslot]
      rw [hcons, ih hnodup hslots]
      by_cases hid : member.id = handle.id
      · -- The member is the session itself, and then it is nowhere else in the room.
        rw [if_pos (hmember.mp hid), if_neg (hid ▸ hnew), if_pos (by simp [ids, hid])]
        rfl
      · have hids : handle.id ∈ ids (member :: room) ↔ handle.id ∈ ids room := by
          simp [ids, Ne.symm hid]
        rw [if_neg (mt hmember.mpr hid)]
        simp only [hids, List.nil_append]

/-! ### What a callback sends -/

section Callback

variable {room : Room} {handle : Handle} {callback : Callback}

/-- To the session in a slot goes the answer if the callback is its own, and the news if it is
a member afterwards. -/
theorem addressed_posts (hseats : room.Seats handle) (hcallback : callback.handle.Fits handle) :
    addressed handle.slot (room.posts callback) =
      (if callback.handle.id = handle.id then
        ((room.deed callback).answer callback.handle.id).toList else []) ++
      if handle.id ∈ (room.after callback).ids then (room.deed callback).news.toList else [] := by
  rw [posts, addressed_append, addressed_map_mk, addressed_announcement (hseats.after hcallback)]
  unfold Handle.Fits at hcallback
  simp only [hcallback]

/-- A member is sent what reaches it of the lines of a callback. -/
theorem addressed_posts_of_present (hseats : room.Seats handle)
    (hcallback : callback.handle.Fits handle) (hpresent : handle.id ∈ (room.after callback).ids) :
    addressed handle.slot (room.posts callback) =
      ((room.lines callback).filter (·.reaches handle.id)).map (·.notice) := by
  rw [addressed_posts hseats hcallback, if_pos hpresent, lines, List.map_append,
    List.filter_append, List.map_append]
  congr 1
  · cases h : (room.deed callback).answer callback.handle.id with
    | none => simp
    | some notice =>
      by_cases hid : callback.handle.id = handle.id <;>
        simp [Line.reaches, Deed.isNews_of_answer h, hid]
  · cases h : (room.deed callback).news with
    | none => rfl
    | some notice => simp [Line.reaches, Deed.isNews_of_news h]

/-- Whoever is no member is sent the answers to its own binary messages. -/
theorem addressed_posts_of_absent (hseats : room.Seats handle)
    (hcallback : callback.handle.Fits handle) (habsent : handle.id ∉ (room.after callback).ids) :
    addressed handle.slot (room.posts callback) = (callback.refusal? handle.id).toList := by
  rw [addressed_posts hseats hcallback, if_neg habsent, List.append_nil]
  -- No news reach it. Of the answers only that to bytes does not make or presume a member.
  by_cases hid : callback.handle.id = handle.id
  · rw [if_pos hid]
    rw [mem_ids_after, not_or, not_and_not_right] at habsent
    have hdoes := room.does_deed callback
    generalize room.deed callback = deed at hdoes
    cases hdoes with
    | joins opened => exact absurd (by simp [Callback.opening?, opened, hid]) habsent.1
    | refusesBytes received => simp [Callback.refusal?, received, hid, Deed.answer]
    | refusesText received member =>
      have hclosing := habsent.2 (hid ▸ member)
      simp [Callback.closing?, received] at hclosing
    | speaks event | renames event | leaves event | ignoresText event | ignoresClose event
    | ignoresFailure event => simp [Callback.refusal?, event, Deed.answer]
  · rw [if_neg hid]
    unfold Callback.refusal?
    split <;> simp [hid]

end Callback

/-! ### What a run sends -/

section Run

variable {room : Room} {handle : Handle} {callbacks : List Callback}

/-- A member that does not close is sent the lines that reach it, all of them and in order. -/
theorem sentTo_of_present (hseats : room.Seats handle)
    (hcallbacks : ∀ callback ∈ callbacks, callback.handle.Fits handle)
    (hpresent : handle.id ∈ room.ids) (hstays : handle.id ∉ closings callbacks) :
    room.sentTo handle.slot callbacks =
      ((room.minutes callbacks).filter (·.reaches handle.id)).map (·.notice) := by
  induction callbacks generalizing room with
  | nil => rfl
  | cons callback callbacks ih =>
    obtain ⟨hcallback, hcallbacks⟩ := List.forall_mem_cons.mp hcallbacks
    rw [mem_closings_cons, not_or] at hstays
    have hafter : handle.id ∈ (room.after callback).ids :=
      (room.mem_ids_after callback _).mpr (.inr ⟨hpresent, hstays.1⟩)
    rw [sentTo, addressed_posts_of_present hseats hcallback hafter,
      ih (hseats.after hcallback) hcallbacks hafter hstays.2, minutes, List.filter_append,
      List.map_append]

/-- Whoever is no member and does not open is sent the answers to its own binary messages. -/
theorem sentTo_of_absent (hseats : room.Seats handle)
    (hcallbacks : ∀ callback ∈ callbacks, callback.handle.Fits handle)
    (habsent : handle.id ∉ room.ids) (hstays : handle.id ∉ openings callbacks) :
    room.sentTo handle.slot callbacks = refusals handle.id callbacks := by
  induction callbacks generalizing room with
  | nil => rfl
  | cons callback callbacks ih =>
    obtain ⟨hcallback, hcallbacks⟩ := List.forall_mem_cons.mp hcallbacks
    rw [mem_openings_cons, not_or] at hstays
    have hafter : handle.id ∉ (room.after callback).ids := by
      rw [mem_ids_after]
      tauto
    rw [sentTo, addressed_posts_of_absent hseats hcallback hafter,
      ih (hseats.after hcallback) hcallbacks hafter hstays.2, refusals_cons]

/-- So is whoever closes first thing. -/
theorem sentTo_of_closing (hseats : room.Seats handle)
    (hcallbacks : ∀ callback ∈ callbacks, callback.handle.Fits handle)
    (hcloses : ∀ callback ∈ callbacks.head?, callback.closing? = some handle.id)
    (hstays : handle.id ∉ openings callbacks) :
    room.sentTo handle.slot callbacks = refusals handle.id callbacks := by
  cases callbacks with
  | nil => rfl
  | cons callback callbacks =>
    obtain ⟨hcallback, hcallbacks⟩ := List.forall_mem_cons.mp hcallbacks
    rw [mem_openings_cons, not_or] at hstays
    have hclosing : callback.closing? = some handle.id := hcloses callback rfl
    have hafter : handle.id ∉ (room.after callback).ids := by
      rw [mem_ids_after]
      tauto
    rw [sentTo, addressed_posts_of_absent hseats hcallback hafter,
      sentTo_of_absent (hseats.after hcallback) hcallbacks hafter hstays.2, refusals_cons]

/-- What a session is sent that comes in: its welcome, the news that it has joined, and then
the lines that reach it. -/
theorem sentTo_of_opening (hseats : room.Seats handle)
    (hcallbacks : ∀ callback ∈ callbacks, callback.handle.Fits handle)
    (hstays : handle.id ∉ closings callbacks) :
    room.sentTo handle.slot (⟨handle, .opened⟩ :: callbacks) =
      .welcome handle.id.text (guestName handle.id) :: .joined (guestName handle.id) ::
        (((room.after ⟨handle, .opened⟩).minutes callbacks).filter
          (·.reaches handle.id)).map (·.notice) := by
  have hfits : handle.Fits handle := iff_of_true rfl rfl
  have hafter : handle.id ∈ (room.after ⟨handle, .opened⟩).ids :=
    (room.mem_ids_after _ _).mpr (.inl rfl)
  rw [sentTo, addressed_posts_of_present hseats hfits hafter,
    sentTo_of_present (hseats.after hfits) hcallbacks hafter hstays]
  simp [lines, deed, Deed.answer, Deed.news, Line.reaches]

/-- A run in which a session opens, from an empty room on: what is said in it, and what the
session is sent. -/
theorem attends_of_run {before during after : List Callback}
    (hsplit : callbacks = before ++ ⟨handle, .opened⟩ :: during ++ after)
    (hcallbacks : ∀ callback ∈ callbacks, callback.handle.Fits handle)
    (honce : (openings callbacks).Nodup) (hstays : handle.id ∉ closings during)
    (hcloses : ∀ callback ∈ after.head?, callback.closing? = some handle.id) :
    let entered := run [] (before ++ [⟨handle, .opened⟩])
    minutes [] callbacks =
      minutes [] before ++
        ⟨handle.id, .welcome handle.id.text (guestName handle.id)⟩ ::
          ⟨handle.id, .joined (guestName handle.id)⟩ :: entered.minutes during ++
        (entered.run during).minutes after ∧
    sentTo handle.slot [] callbacks =
      refusals handle.id before ++
        .welcome handle.id.text (guestName handle.id) :: .joined (guestName handle.id) ::
          ((entered.minutes during).filter (·.reaches handle.id)).map (·.notice) ++
        refusals handle.id after := by
  intro entered
  subst hsplit
  have hentered : entered = (run [] before).after ⟨handle, .opened⟩ :=
    run_append [] before [⟨handle, .opened⟩]
  obtain ⟨hfront, hafter⟩ := List.forall_mem_append.mp hcallbacks
  obtain ⟨hbefore, hmiddle⟩ := List.forall_mem_append.mp hfront
  obtain ⟨-, hduring⟩ := List.forall_mem_cons.mp hmiddle
  have hempty := seats_nil handle
  -- The run is taken in three parts, and each part begins with the room that the last one leaves.
  constructor
  · rw [minutes_append, minutes_append, run_append, hentered]
    rfl
  · rw [List.append_assoc, List.cons_append] at honce
    obtain ⟨hfirst, hlast⟩ := notMem_openings (by rfl) honce
    rw [openings, List.filterMap_append, List.mem_append, not_or] at hlast
    rw [sentTo_append, sentTo_append, sentTo_of_absent hempty hbefore List.not_mem_nil hfirst,
      sentTo_of_opening (hempty.run hbefore) hduring hstays,
      sentTo_of_closing (hempty.run hfront) hafter hcloses hlast.2, hentered]

end Run

end Room

/-! ### Two sessions -/

/-- A session in the first slot. -/
def alice : Handle := ⟨0, ⟨0x1234567800000000, 1⟩, "/chat"⟩

/-- A session in the second slot. -/
def bob : Handle := ⟨1, ⟨0x9abcdef000000000, 2⟩, "/chat"⟩

end Chat

end SocketGate
