import SocketGate.Proofs.Chat.Minutes

/-!
# `SocketGate.Proofs.Chat.Names`: who is who

The news about a session tell a story that hangs together. It joins as a guest, under a name
made from its id. Whatever is told about it afterwards is told under the name that it has at
that time, and a change of the name tells the old one and the new one. When it leaves, that is
the last of it. So whoever reads the news knows the name of every member at every time, and it
is the name that the room has for it.

A room reads the name of a member before it reads the request, and tells the news after it has
changed the name. The invariant that carries the story through a run is that it goes on under
the name that is in the room.

* `Room.newsAbout_lines`: a callback brings news about its own session only.
* `Room.nameOf?_run`: the name of a session is what the news about it end with.
* `Room.stories_of_run`: the news about a session are one story for each time it opens.
* `Room.names_of_run`: these stories, and what never changes a name.
-/

set_option autoImplicit false

namespace SocketGate.Chat

/-! ### Stories -/

/-- The news about a session among some lines. -/
def newsAbout (id : SessionId) (lines : List Line) : List Notice :=
  (lines.filter fun line => line.about = id && line.notice.isNews).map (·.notice)

theorem newsAbout_append (id : SessionId) (before after : List Line) :
    newsAbout id (before ++ after) = newsAbout id before ++ newsAbout id after := by
  simp [newsAbout]

/-- What may be told from now on about a member that has this name. -/
inductive Chain : String → List Notice → Prop where
  | stays (name : String) : Chain name []
  | leaves (name : String) : Chain name [.left name]
  | speaks {name : String} {rest : List Notice} (content : String) (chain : Chain name rest) :
      Chain name (.said name content :: rest)
  /-- The new name has characters, and no white space at either end. -/
  | renames {current : String} {rest : List Notice} (previous : String) (solid : current ≠ "")
      (trimmed : Text.IsTrimmed current) (chain : Chain current rest) :
      Chain previous (.renamed previous current :: rest)

/-- What may be told about a session from one opening to the next: it joins as a guest. -/
inductive Story (guest : String) : List Notice → Prop where
  | joins {rest : List Notice} (chain : Chain guest rest) : Story guest (.joined guest :: rest)

/-- How the story goes on of a session that has this name, if it is a member. -/
def Continues (name : Option String) (rest : List Notice) : Prop :=
  match name with
  | none => rest = []
  | some name => Chain name rest

theorem continues_nil (name : Option String) : Continues name [] := by
  cases name with
  | none => rfl
  | some name => exact .stays name

namespace Room

/-! ### One callback -/

/-- The news of a callback are about its own session. -/
theorem newsAbout_lines (room : Room) (callback : Callback) (id : SessionId) :
    newsAbout id (room.lines callback) =
      if callback.handle.id = id then (room.deed callback).news.toList else [] := by
  rw [lines, List.map_append, newsAbout_append]
  have hleft : newsAbout id (((room.deed callback).answer callback.handle.id).toList.map
      fun notice => ⟨callback.handle.id, notice⟩) = [] := by
    cases h : (room.deed callback).answer callback.handle.id with
    | none => rfl
    | some notice => simp [newsAbout, Deed.isNews_of_answer h]
  rw [hleft, List.nil_append]
  cases h : (room.deed callback).news with
  | none => simp [newsAbout]
  | some notice =>
    by_cases hid : callback.handle.id = id <;> simp [newsAbout, Deed.isNews_of_news h, hid]

/-- A callback changes the name of a session just as the news about that session say. -/
theorem nameOf?_after (room : Room) (callback : Callback) (id : SessionId) :
    (room.after callback).nameOf? id =
      (newsAbout id (room.lines callback)).foldl Notice.nameAfter (room.nameOf? id) := by
  rw [newsAbout_lines]
  by_cases hid : callback.handle.id = id
  · subst hid
    rw [if_pos rfl, nameOf?_after_self]
  · rw [if_neg hid, nameOf?_after_of_ne _ _ hid]
    rfl

/-- A refusal leaves the room as it is. -/
theorem after_of_refused {room : Room} {callback : Callback} {message : String}
    (h : ⟨callback.handle.id, .refused message⟩ ∈ room.lines callback) :
    room.after callback = room := by
  unfold lines at h
  unfold after
  cases hdeed : room.deed callback with
  | refused | speaks | nothing => rfl
  | joins | renames | leaves => simp [hdeed, Deed.answer, Deed.news] at h

/-- So does a text that is no request, or that asks for an empty name. -/
theorem after_of_malformed {room : Room} {callback : Callback} {text : String}
    (hreceived : callback.event = .received (.text text))
    (hrequest : (∃ fault, Request.ofText? text = .error fault) ∨
      (∃ wanted, Request.ofText? text = .ok (.setName wanted) ∧ Text.trim wanted = "")) :
    room.after callback = room := by
  have hdoes := room.does_deed callback
  unfold after
  generalize room.deed callback = deed at hdoes
  cases hdoes with
  | joins event | leaves event => simp [hreceived] at event
  | renames event name_eq request solid =>
    rw [hreceived] at event
    cases event
    obtain ⟨fault, hfault⟩ | ⟨wanted, hwanted, hblank⟩ := hrequest
    · rw [hfault] at request
      cases request
    · rw [hwanted] at request
      cases request
      exact absurd hblank solid
  | _ => rfl

/-! ### Runs -/

/-- The name of a session is what the news about it end with. -/
theorem nameOf?_run (room : Room) (callbacks : List Callback) (id : SessionId) :
    (room.run callbacks).nameOf? id =
      (newsAbout id (room.minutes callbacks)).foldl Notice.nameAfter (room.nameOf? id) := by
  induction callbacks generalizing room with
  | nil => rfl
  | cons callback callbacks ih =>
    show ((room.after callback).run callbacks).nameOf? id = _
    rw [ih, nameOf?_after, minutes, newsAbout_append, List.foldl_append]

/-- In a run the story of a session goes on under the name that it has in the room, and a new
one begins whenever it opens. -/
theorem stories_of_run (room : Room) (callbacks : List Callback) (id : SessionId) :
    ∃ (rest : List Notice) (stories : List (List Notice)),
      newsAbout id (room.minutes callbacks) = rest ++ stories.flatten ∧
      Continues (room.nameOf? id) rest ∧ stories.length = (openings callbacks).count id ∧
      ∀ story ∈ stories, Story (guestName id) story := by
  induction callbacks generalizing room with
  | nil => exact ⟨[], [], rfl, continues_nil _, rfl, fun _ h => absurd h List.not_mem_nil⟩
  | cons callback callbacks ih =>
    obtain ⟨rest, stories, hnews, hrest, hlength, hstories⟩ := ih (room.after callback)
    rw [minutes, newsAbout_append, newsAbout_lines, hnews, count_openings_cons, ← hlength]
    by_cases hid : callback.handle.id = id
    · subst hid
      rw [nameOf?_after_self] at hrest
      rw [if_pos rfl]
      have hdoes := room.does_deed callback
      generalize room.deed callback = deed at hdoes hrest ⊢
      cases hdoes with
      | joins opened =>
        -- A new story begins here, and that of a member that opens again has come to its end.
        refine ⟨[], (.joined (guestName callback.handle.id) :: rest) :: stories, rfl,
          continues_nil _, ?_, List.forall_mem_cons.mpr ⟨.joins hrest, hstories⟩⟩
        simp [Callback.opening?, opened]
      | speaks event name_eq =>
        rw [name_eq] at hrest ⊢
        exact ⟨_ :: rest, stories, rfl, .speaks _ hrest, by simp [Callback.opening?, event],
          hstories⟩
      | renames event name_eq request solid =>
        rw [name_eq]
        exact ⟨_ :: rest, stories, rfl, .renames _ solid (Text.isTrimmed_ofList _) hrest,
          by simp [Callback.opening?, event], hstories⟩
      | leaves event name_eq =>
        rw [name_eq]
        obtain rfl : rest = [] := hrest
        exact ⟨[_], stories, rfl, .leaves _, by simp [Callback.opening?, event], hstories⟩
      | refusesBytes event | refusesText event | ignoresText event | ignoresClose event
      | ignoresFailure event =>
        exact ⟨rest, stories, rfl, hrest, by simp [Callback.opening?, event], hstories⟩
    · rw [room.nameOf?_after_of_ne callback hid] at hrest
      have hother : callback.opening? ≠ some id := by
        unfold Callback.opening?
        split <;> simp [hid]
      rw [if_neg hid, if_neg hother]
      exact ⟨rest, stories, rfl, hrest, rfl, hstories⟩

/-- In an empty room there is no story to go on with. -/
theorem stories_of_empty (callbacks : List Callback) (id : SessionId) :
    ∃ stories : List (List Notice), newsAbout id (minutes [] callbacks) = stories.flatten ∧
      stories.length = (openings callbacks).count id ∧
      ∀ story ∈ stories, Story (guestName id) story := by
  obtain ⟨rest, stories, hnews, hrest, hstories⟩ := stories_of_run [] callbacks id
  obtain rfl : rest = [] := hrest
  exact ⟨stories, hnews, hstories⟩

/-! ### Every run -/

/-- What holds of the names in a run that begins with an empty room. -/
structure Named (callbacks : List Callback) : Prop where
  /-- The room sends the posts of each callback and goes on as the callbacks say. -/
  reacts : ∀ before callback after, callbacks = before ++ callback :: after →
    (run [] before).react callback.handle callback.event =
      .mailing (((run [] before).posts callback).map fun post => (post.1, post.2.message))
        (run [] (before ++ [callback]))
  /-- Whenever a session opens it joins as a guest. Then it says things and changes its name,
  and leaves at most once, always under the name told last. Before it opens nothing is told. -/
  stories : ∀ id, ∃ stories : List (List Notice),
    newsAbout id (minutes [] callbacks) = stories.flatten ∧
    stories.length = (openings callbacks).count id ∧
    ∀ story ∈ stories, Story ("guest-" ++ String.ofList (id.text.toList.take 8)) story
  /-- So a session that opens once has one story. -/
  story : ∀ id, (openings callbacks).count id = 1 →
    Story ("guest-" ++ String.ofList (id.text.toList.take 8)) (newsAbout id (minutes [] callbacks))
  /-- The name told last is the one that the room has for it. -/
  known : ∀ id, (run [] callbacks).nameOf? id =
    (newsAbout id (minutes [] callbacks)).foldl Notice.nameAfter none
  /-- A callback that is answered by a refusal leaves the room as it is. -/
  refused : ∀ before callback after message, callbacks = before ++ callback :: after →
    ⟨callback.handle.id, .refused message⟩ ∈ (run [] before).lines callback →
    run [] (before ++ [callback]) = run [] before
  /-- So does a text that is no request, or that asks for an empty name. -/
  malformed : ∀ before callback after text, callbacks = before ++ callback :: after →
    callback.event = .received (.text text) →
    (∃ fault, Request.ofText? text = .error fault) ∨
      (∃ wanted, Request.ofText? text = .ok (.setName wanted) ∧ Text.trim wanted = "") →
    run [] (before ++ [callback]) = run [] before
  /-- A callback of one session leaves the names of the others as they are. -/
  others : ∀ before callback after id, callbacks = before ++ callback :: after →
    callback.handle.id ≠ id →
    (run [] (before ++ [callback])).nameOf? id = (run [] before).nameOf? id

/-- Whatever a room is told about any sessions, the names in its news hang together. -/
theorem names_of_run (callbacks : List Callback) : Named callbacks where
  reacts before callback after _ := by
    rw [run_append]
    exact react_eq_mailing _ callback
  stories id := stories_of_empty callbacks id
  story id hopens := by
    obtain ⟨stories, hnews, hlength, hstories⟩ := stories_of_empty callbacks id
    obtain ⟨story, rfl⟩ := List.length_eq_one_iff.mp (hlength.trans hopens)
    rw [hnews, List.flatten_cons, List.flatten_nil, List.append_nil]
    exact hstories story (List.mem_singleton.mpr rfl)
  known id := nameOf?_run [] callbacks id
  refused before callback after message _ hmem := by
    rw [run_append]
    exact after_of_refused hmem
  malformed before callback after text _ hreceived hrequest := by
    rw [run_append]
    exact after_of_malformed hreceived hrequest
  others before callback after id _ hne := by
    rw [run_append]
    exact nameOf?_after_of_ne _ callback hne

/-- A session takes a name, asks for an empty one, says something and leaves. -/
example : newsAbout alice.id (minutes [] [
      ⟨alice, .opened⟩,
      ⟨bob, .opened⟩,
      ⟨alice, .received (.text "\x7b\"type\":\"set_name\",\"name\":\" Alice \"\x7d")⟩,
      ⟨alice, .received (.text "\x7b\"type\":\"set_name\",\"name\":\" \"\x7d")⟩,
      ⟨alice, .received (.text "\x7b\"type\":\"chat\",\"content\":\"bye\"\x7d")⟩,
      ⟨alice, .closed CloseReason.normal⟩,
      ⟨alice, .closed CloseReason.normal⟩]) =
    [.joined "guest-12345678", .renamed "guest-12345678" "Alice", .said "Alice" "bye",
      .left "Alice"] := by
  decide +kernel

end Room

end SocketGate.Chat
