import SocketGate.Message.Assembler
import SocketGate.Proofs.Bytes

/-!
# `SocketGate.Proofs.Message.Assembly`: messages come together as they were cut

`Assembler.collect` pushes frames into an assembler, one after the other, and stops at the
first violation. `Carries` says that a sequence of frames holds some messages: each message
is there as all its fragments in a row, and control frames stand only between messages.

* `Assembler.collect_fragments`: the fragments of one message give that message.
* `Assembler.collect_of_carries`: a sequence that carries messages gives exactly these.
* `Assembler.collect_prefix`: the first frames of such a sequence give the first messages.
-/

set_option autoImplicit false

namespace SocketGate

namespace Assembler

/-! ### Several frames -/

/-- The messages that some frames complete, up to the first violation, if there is one, and
the assembler after them. -/
def collect (assembler : Assembler) :
    List Frame → List Message × Option Violation × Assembler
  | [] => ([], none, assembler)
  | frame :: frames =>
    match assembler.push frame with
    | (.error violation, assembler) => ([], some violation, assembler)
    | (.ok message, assembler) =>
      let (messages, violation, last) := assembler.collect frames
      (message.toList ++ messages, violation, last)

theorem collect_of_push {assembler after : Assembler} {frame : Frame}
    {message : Option Message} (frames : List Frame)
    (h : assembler.push frame = (.ok message, after)) :
    assembler.collect (frame :: frames) =
      (message.toList ++ (after.collect frames).1, (after.collect frames).2) := by
  rw [collect, h]

/-- Frames that bring no violation are followed by the others. -/
theorem collect_append {assembler after : Assembler} {messages : List Message}
    (frames more : List Frame) (h : assembler.collect frames = (messages, none, after)) :
    assembler.collect (frames ++ more) =
      (messages ++ (after.collect more).1, (after.collect more).2) := by
  induction frames generalizing assembler messages with
  | nil =>
    cases h
    rfl
  | cons frame frames ih =>
    cases hpush : assembler.push frame with
    | mk result middle =>
      cases result with
      | error violation => simp [collect, hpush] at h
      | ok message =>
        rw [collect_of_push frames hpush] at h
        have hrest : middle.collect frames = ((middle.collect frames).1, none, after) := by
          rw [Prod.mk.injEq] at h
          rw [← h.2]
        rw [List.cons_append, collect_of_push _ hpush, ih hrest, ← List.append_assoc]
        rw [Prod.mk.injEq] at h
        rw [h.1]

/-- The first frames of a sequence without a violation bring none, and give the first
messages. -/
theorem collect_prefix {assembler : Assembler} {frames first : List Frame}
    (h : (assembler.collect frames).2.1 = none) (hfirst : first <+: frames) :
    (assembler.collect first).2.1 = none ∧
      (assembler.collect first).1 <+: (assembler.collect frames).1 := by
  induction first generalizing assembler frames with
  | nil => exact ⟨rfl, List.nil_prefix⟩
  | cons frame first ih =>
    obtain ⟨rest, rfl⟩ := hfirst
    cases hpush : assembler.push frame with
    | mk result middle =>
      cases result with
      | error violation => simp [collect, hpush] at h
      | ok message =>
        rw [List.cons_append, collect_of_push _ hpush] at h ⊢
        rw [collect_of_push _ hpush]
        obtain ⟨hviolation, hprefix⟩ := ih h (List.prefix_append first rest)
        exact ⟨hviolation, (List.prefix_append_right_inj _).mpr hprefix⟩

/-! ### One message -/

/-- The frames of a message after the first one. -/
def continuations : List Bytes → List Frame
  | [] => []
  | [piece] => [{ fin := true, opcode := .continuation, mask := none, payload := piece }]
  | piece :: next :: pieces =>
    { fin := false, opcode := .continuation, mask := none, payload := piece } ::
      continuations (next :: pieces)

/-- Only the last one of the continuations is final. -/
theorem mapIdx_eq_continuations (pieces : List Bytes) :
    pieces.mapIdx (fun index payload => ({
        fin := index + 1 = pieces.length
        opcode := .continuation
        mask := none
        payload } : Frame)) = continuations pieces := by
  induction pieces with
  | nil => rfl
  | cons piece pieces ih =>
    simp only [List.mapIdx_cons, List.length_cons, Nat.add_right_cancel_iff] at ih ⊢
    rw [ih]
    cases pieces with
    | nil => rfl
    | cons next pieces => rfl

/-- The frames of a message: one that starts it, and continuations. -/
theorem fragments_eq (message : Message) (limit : Nat) (piece : Bytes) (pieces : List Bytes)
    (h : message.pieces limit = piece :: pieces) :
    message.fragments limit =
      { fin := pieces.isEmpty, opcode := message.opcode, mask := none, payload := piece } ::
        continuations pieces := by
  rw [Message.fragments, h]
  -- Index zero has the opcode of the message, and the others have that of a continuation.
  simp only [List.mapIdx_cons, List.length_cons, Nat.add_right_cancel_iff, if_true,
    Nat.add_one_ne_zero, if_false, mapIdx_eq_continuations]
  cases pieces <;> rfl

/-- Every message has a piece. -/
theorem pieces_ne_nil (message : Message) (limit : Nat) : message.pieces limit ≠ [] := by
  rw [Message.pieces]
  split
  · exact List.cons_ne_nil _ _
  · rename_i hne
    exact hne

/-- No frame of a message is masked or a control frame, or has a longer payload than the
limit, or than one byte where the limit is zero. -/
theorem of_mem_fragments (message : Message) (limit : Nat) (frame : Frame)
    (h : frame ∈ message.fragments limit) :
    frame.mask = none ∧ frame.opcode.isControl = false ∧ frame.payload.length ≤ max 1 limit := by
  obtain ⟨index, hindex, rfl⟩ := List.mem_mapIdx.mp h
  refine ⟨rfl, ?_, ?_⟩
  · dsimp only
    split
    · cases message <;> rfl
    · rfl
  · -- The payload is one of the pieces.
    have hpiece : (message.pieces limit)[index] ∈ message.pieces limit := List.getElem_mem hindex
    generalize (message.pieces limit)[index] = piece at hpiece
    rw [Message.pieces] at hpiece
    split at hpiece
    · rw [List.mem_singleton.mp hpiece]
      exact Nat.zero_le _
    · exact Bytes.length_le_of_mem_chunks limit message.payload piece hpiece

/-- The pieces of a message, one after the other, are its payload. -/
theorem flatten_pieces (message : Message) (limit : Nat) :
    (message.pieces limit).flatten = message.payload := by
  have hflatten := Bytes.flatten_chunks limit message.payload
  rw [Message.pieces]
  split
  · rename_i hempty
    rw [hempty] at hflatten
    exact hflatten
  · exact hflatten

/-- The continuations of a message in progress complete it. -/
theorem collect_continuations (assembler : Assembler) (begun : Begun) (pieces : List Bytes)
    (message : Message) (hpending : assembler.pending = some begun) (hne : pieces ≠ [])
    (hsize : begun.payload.length + pieces.flatten.length ≤ assembler.limit)
    (hfinish : begun.type.finish (begun.payload ++ pieces.flatten) = .ok message) :
    assembler.collect (continuations pieces) =
      ([message], none, { assembler with pending := none }) := by
  -- What has begun grows by one piece in each round. So the bounds and the end of the message
  -- are stated for what has begun and the pieces together.
  induction pieces generalizing assembler begun with
  | nil => exact absurd rfl hne
  | cons piece pieces ih =>
    rw [List.flatten_cons, List.length_append] at hsize
    have hfits : ¬ assembler.limit < begun.payload.length + piece.length := by omega
    cases pieces with
    | nil =>
      have hpush : assembler.push (⟨true, .continuation, none, piece⟩ : Frame) =
          (.ok (some message), { assembler with pending := none }) := by
        rw [List.flatten_singleton] at hfinish
        simp only [push, pushContinuation, hpending, hfits, if_false, if_true, hfinish]
        rfl
      rw [continuations, collect_of_push _ hpush]
      rfl
    | cons next pieces =>
      have hpush : assembler.push (⟨false, .continuation, none, piece⟩ : Frame) =
          (.ok none, { assembler with
            pending := some { begun with payload := begun.payload ++ piece } }) := by
        simp only [push, pushContinuation, hpending, hfits, if_false, Bool.false_eq_true]
      have hrest := ih { assembler with
          pending := some { begun with payload := begun.payload ++ piece } }
        { begun with payload := begun.payload ++ piece } rfl (List.cons_ne_nil _ _)
        (by rw [List.length_append, Nat.add_assoc]; exact hsize)
        (by rw [List.append_assoc]; exact hfinish)
      rw [continuations, collect_of_push _ hpush, hrest]
      rfl

/-- The type of a message by the opcode of its first frame. -/
def typeOf : Message → MessageType
  | .text _ => .text
  | .binary _ => .binary

/-- The payload of a message makes that message. -/
theorem finish_typeOf (message : Message) :
    (typeOf message).finish message.payload = .ok message := by
  cases message with
  | text content =>
    simp only [typeOf, Message.payload, MessageType.finish, Bytes.toText?_ofText]
  | binary content => rfl

/-- A frame with the opcode of a message starts a message of its type. -/
theorem push_first (assembler : Assembler) (message : Message) (fin : Bool) (piece : Bytes) :
    assembler.push (⟨fin, message.opcode, none, piece⟩ : Frame) =
      assembler.pushStart (typeOf message) fin piece := by
  cases message <;> rfl

/-- The fragments of one message give that message, however it was cut. -/
theorem collect_fragments (assembler : Assembler) (message : Message) (limit : Nat)
    (hpending : assembler.pending = none) (hsize : message.payload.length ≤ assembler.limit) :
    assembler.collect (message.fragments limit) = ([message], none, assembler) := by
  have hflatten := flatten_pieces message limit
  have hfinish := finish_typeOf message
  cases hpieces : message.pieces limit with
  | nil => exact absurd hpieces (pieces_ne_nil message limit)
  | cons piece pieces =>
    rw [hpieces, List.flatten_cons] at hflatten
    rw [← hflatten, List.length_append] at hsize
    have hfits : ¬ assembler.limit < piece.length := by omega
    rw [fragments_eq message limit piece pieces hpieces]
    cases pieces with
    | nil =>
      -- The first frame is the only one, and it is final.
      have hpush : assembler.push (⟨true, message.opcode, none, piece⟩ : Frame) =
          (.ok (some message), assembler) := by
        rw [List.flatten_nil, List.append_nil] at hflatten
        rw [hflatten] at hfits
        rw [push_first]
        simp only [pushStart, hpending, Option.isSome_none, Bool.false_eq_true, if_false, hflatten,
          hfits, if_true, hfinish]
        rfl
      rw [List.isEmpty_nil, collect_of_push _ hpush]
      rfl
    | cons next pieces =>
      -- The first frame begins the message, and its continuations complete it.
      have hpush : assembler.push (⟨false, message.opcode, none, piece⟩ : Frame) =
          (.ok none, { assembler with
            pending := some { type := typeOf message, payload := piece } }) := by
        rw [push_first]
        simp only [pushStart, hpending, Option.isSome_none, Bool.false_eq_true, if_false, hfits]
      have hrest := collect_continuations { assembler with
          pending := some { type := typeOf message, payload := piece } }
        { type := typeOf message, payload := piece } (next :: pieces) message rfl
        (List.cons_ne_nil _ _) hsize (by rw [hflatten]; exact hfinish)
      rw [List.isEmpty_cons, collect_of_push _ hpush, hrest]
      simp [← hpending]

/-! ### Several messages -/

/-- The frames hold the messages: each one is there as all its fragments in a row, and
control frames stand only between messages. -/
inductive Carries (limit : Nat) : List Frame → List Message → Prop where
  /-- There is nothing yet. -/
  | nil : Carries limit [] []
  /-- A message follows, cut into frames with payloads of at most `limit` bytes. -/
  | message {frames : List Frame} {messages : List Message} (message : Message)
      (before : Carries limit frames messages) :
      Carries limit (frames ++ message.fragments limit) (messages ++ [message])
  /-- A control frame follows. -/
  | control {frames : List Frame} {messages : List Message} (frame : Frame)
      (isControl : frame.opcode.isControl) (before : Carries limit frames messages) :
      Carries limit (frames ++ [frame]) messages

/-- Control frames may follow at any time between two messages. -/
theorem Carries.controls {limit : Nat} {frames : List Frame} {messages : List Message}
    (h : Carries limit frames messages) (more : List Frame)
    (hcontrol : ∀ frame ∈ more, frame.opcode.isControl) :
    Carries limit (frames ++ more) messages := by
  induction more generalizing frames with
  | nil => rwa [List.append_nil]
  | cons frame more ih =>
    rw [List.append_cons]
    exact ih (h.control frame (hcontrol frame List.mem_cons_self))
      fun later hlater => hcontrol later (List.mem_cons_of_mem frame hlater)

/-- A control frame changes nothing. -/
theorem push_control (assembler : Assembler) (frame : Frame) (h : frame.opcode.isControl) :
    assembler.push frame = (.ok none, assembler) := by
  unfold push
  cases hopcode : frame.opcode <;> simp_all [Opcode.isControl]

/-- Frames that hold messages give exactly these messages, and nothing is left in
progress. -/
theorem collect_of_carries {limit : Nat} {frames : List Frame} {messages : List Message}
    (h : Carries limit frames messages) (assembler : Assembler)
    (hpending : assembler.pending = none)
    (hsize : ∀ message ∈ messages, message.payload.length ≤ assembler.limit) :
    assembler.collect frames = (messages, none, assembler) := by
  induction h with
  | nil => rfl
  | message message before ih =>
    have hbefore := ih fun m hm => hsize m (List.mem_append_left _ hm)
    have hlast := hsize message (List.mem_append_right _ List.mem_cons_self)
    rw [collect_append _ _ hbefore, collect_fragments assembler message limit hpending hlast]
  | control frame isControl before ih =>
    rw [collect_append _ _ (ih hsize), collect_of_push [] (push_control assembler frame isControl)]
    simp [collect]

end Assembler

end SocketGate
