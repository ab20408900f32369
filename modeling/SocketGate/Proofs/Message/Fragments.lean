import SocketGate.Proofs.Message.Pieces

/-!
# `SocketGate.Proofs.Message.Fragments`: a message is cut without a loss

A message is cut into frames of one size, and only the last one may be smaller. The frame at
each place is known in full: it begins a whole number of sizes into the payload
(`Message.fragments_eq_map`). All that is said about the number of frames, their lengths, opcodes
and flags is read off this form.

Cutting by indices is a walk from the front that adds the size to an index in each round.
`Message.frames?` is this walk with numbers of 64 bits, and it has no answer if a sum is not one
of them. A size of 64 bits alone could lead there. But a payload that fits into one frame is not
walked through, so the size is below the length in every round.

* `Message.frames?_eq`: the walk has an answer, and it is the fragments.
* `Message.pushAll_fragments`: the fragments put together again are the message.
* `Message.fragments_partition`: the fragments one by one, and the message out of them.
-/

set_option autoImplicit false

namespace SocketGate.Message

open Assembler

/-! ### The frame at each place -/

/-- How many frames a message is cut into. -/
def fragmentCount (message : Message) (limit : Nat) : Nat :=
  max 1 ((message.payload.length + max 1 limit - 1) / max 1 limit)

/-- The frame at this place: it begins a whole number of sizes into the payload. -/
def fragmentAt (message : Message) (limit index : Nat) : Frame where
  fin := index + 1 = message.fragmentCount limit
  opcode := if index = 0 then message.opcode else .continuation
  mask := none
  payload := (message.payload.drop (index * max 1 limit)).take (max 1 limit)

theorem fragments_eq_map (message : Message) (limit : Nat) :
    message.fragments limit =
      (List.range (message.fragmentCount limit)).map (message.fragmentAt limit) := by
  have hpieces : message.pieces limit = (List.range (message.fragmentCount limit)).map
      fun index => (message.payload.drop (index * max 1 limit)).take (max 1 limit) := by
    rw [pieces, Bytes.chunks_eq, fragmentCount]
    cases hcount : (message.payload.length + max 1 limit - 1) / max 1 limit with
    | zero =>
      -- Only an empty payload has no pieces, and then the one empty piece stands in.
      have hempty : message.payload = [] := by
        have hlt := (Nat.div_eq_zero_iff_lt (by omega)).mp hcount
        exact List.length_eq_zero_iff.mp (by omega)
      simp [hempty]
    | succ count =>
      rw [Nat.max_eq_right (Nat.succ_le_succ (Nat.zero_le count)), List.range_succ_eq_map,
        List.map_cons]
  apply List.ext_getElem
  · simp [fragments, hpieces]
  · intro index hindex hindex'
    simp [fragments, hpieces, fragmentAt]

theorem getElem_fragments (message : Message) (limit index : Nat)
    (h : index < (message.fragments limit).length) :
    (message.fragments limit)[index] = message.fragmentAt limit index := by
  simp [fragments_eq_map]

theorem length_fragments (message : Message) (limit : Nat) :
    (message.fragments limit).length = message.fragmentCount limit := by
  rw [fragments_eq_map, List.length_map, List.length_range]

/-- A frame is there for each whole number of sizes inside the payload. -/
theorem lt_fragmentCount_iff (message : Message) (limit index : Nat) (hne : message.payload ≠ []) :
    index < message.fragmentCount limit ↔ index * max 1 limit < message.payload.length := by
  have hpos : 0 < message.payload.length := List.length_pos_iff.mpr hne
  have hcount : 0 < (message.payload.length + max 1 limit - 1) / max 1 limit :=
    Nat.div_pos (by omega) (by omega)
  rw [fragmentCount, Nat.max_eq_right hcount, Nat.lt_iff_add_one_le,
    Nat.le_div_iff_mul_le (by omega), Nat.succ_mul]
  omega

/-- A payload that fits into one frame is in one frame. -/
theorem fragmentCount_of_fits (message : Message) (limit : Nat)
    (hfits : message.payload.length ≤ max 1 limit) : message.fragmentCount limit = 1 := by
  have htwo : (message.payload.length + max 1 limit - 1) / max 1 limit < 2 :=
    (Nat.div_lt_iff_lt_mul (by omega)).mpr (by omega)
  rw [fragmentCount, Nat.max_eq_left (Nat.le_of_lt_succ htwo)]

/-! ### Indices -/

/-- The frame with the bytes of a message from `start` up to `stop`. -/
def frameBetween (message : Message) (start stop : Nat) : Frame where
  fin := stop = message.payload.length
  opcode := if start = 0 then message.opcode else .continuation
  mask := none
  payload := (message.payload.drop start).take (stop - start)

/-- The frames from the byte at `start` on, by indices into the payload. All indices are numbers
of 64 bits, and where a sum is none there is no answer. -/
def framesFrom? (message : Message) (limit start : Nat) : Option (List Frame) :=
  if start < message.payload.length then
    if start + max 1 limit < 2 ^ 64 then
      let stop := min (start + max 1 limit) message.payload.length
      (message.framesFrom? limit stop).map (message.frameBetween start stop :: ·)
    else none
  else some []
termination_by message.payload.length - start

/-- The frames of a message, by indices into its payload. A payload that fits into one frame is
not walked through. -/
def frames? (message : Message) (limit : Nat) : Option (List Frame) :=
  if message.payload.length ≤ max 1 limit then
    some [Frame.ofPayload message.opcode message.payload]
  else message.framesFrom? limit 0

/-- The indices of one round are those of a fragment. -/
theorem frameBetween_eq (message : Message) (limit index : Nat)
    (hindex : index * max 1 limit < message.payload.length) :
    message.frameBetween (index * max 1 limit)
      (min (index * max 1 limit + max 1 limit) message.payload.length) =
        message.fragmentAt limit index := by
  have hne : message.payload ≠ [] := List.ne_nil_of_length_pos (by omega)
  have hlt := (message.lt_fragmentCount_iff limit index hne).mpr hindex
  have hnext := message.lt_fragmentCount_iff limit (index + 1) hne
  rw [Nat.succ_mul] at hnext
  have hfin : min (index * max 1 limit + max 1 limit) message.payload.length =
      message.payload.length ↔ index + 1 = message.fragmentCount limit := by
    omega
  have hfirst : index * max 1 limit = 0 ↔ index = 0 := by
    rw [Nat.mul_eq_zero]
    omega
  have htake : (message.payload.drop (index * max 1 limit)).take
      (min (index * max 1 limit + max 1 limit) message.payload.length - index * max 1 limit) =
        (message.payload.drop (index * max 1 limit)).take (max 1 limit) := by
    rw [List.take_eq_take_iff, List.length_drop]
    omega
  simp only [frameBetween, fragmentAt, hfin, hfirst, htake]

/-- The walk over the indices gives the fragments from the one at `index` on. -/
theorem framesFrom?_eq (message : Message) (limit index : Nat)
    (hsize : message.payload.length < 2 ^ 63) (hlong : max 1 limit < message.payload.length) :
    message.framesFrom? limit (min (index * max 1 limit) message.payload.length) =
      some ((message.fragments limit).drop index) := by
  have hne : message.payload ≠ [] := List.ne_nil_of_length_pos (by omega)
  -- The induction is on the bytes that are left.
  induction hleft : message.payload.length - index * max 1 limit using Nat.strongRecOn
    generalizing index with
  | ind left ih =>
    have hlt := message.lt_fragmentCount_iff limit index hne
    rw [← length_fragments] at hlt
    by_cases hindex : index * max 1 limit < message.payload.length
    · have hstart : min (index * max 1 limit) message.payload.length = index * max 1 limit :=
        Nat.min_eq_left (Nat.le_of_lt hindex)
      have hnext : (index + 1) * max 1 limit = index * max 1 limit + max 1 limit :=
        Nat.succ_mul _ _
      have hrest := ih _ (by omega) (index + 1) rfl
      rw [hnext] at hrest
      -- The index and the size are both below the length, so their sum has 64 bits.
      rw [hstart, framesFrom?, if_pos hindex, if_pos (by omega)]
      dsimp only
      rw [frameBetween_eq _ _ _ hindex, hrest, List.drop_eq_getElem_cons (hlt.mpr hindex),
        getElem_fragments]
      rfl
    · rw [framesFrom?, if_neg (by omega), List.drop_eq_nil_of_le]
      exact Nat.le_of_not_lt (mt hlt.mp hindex)

/-- No index of a payload shorter than `2 ^ 63` bytes leaves 64 bits, whatever the size of the
frames is. -/
theorem frames?_eq (message : Message) (limit : Nat) (hsize : message.payload.length < 2 ^ 63) :
    message.frames? limit = some (message.fragments limit) := by
  rw [frames?]
  split
  · rename_i hshort
    have hcount := message.fragmentCount_of_fits limit hshort
    rw [fragments_eq_map, hcount]
    simp [fragmentAt, hcount, Frame.ofPayload, List.take_of_length_le hshort]
  · rename_i hlong
    have hwalk := message.framesFrom?_eq limit 0 hsize (Nat.lt_of_not_le hlong)
    rwa [Nat.zero_mul, Nat.zero_min, List.drop_zero] at hwalk

/-! ### Putting the fragments together -/

/-- The frames after the first one carry their pieces. -/
theorem cut_continuations (pieces : List Bytes) (hne : pieces ≠ []) :
    Cut .continuation pieces (continuations pieces) := by
  induction pieces with
  | nil => exact absurd rfl hne
  | cons piece pieces ih =>
    cases pieces with
    | nil => exact .last ⟨true, .continuation, none, piece⟩ rfl rfl
    | cons next pieces =>
      exact .more ⟨false, .continuation, none, piece⟩ rfl rfl (ih (List.cons_ne_nil _ _))

/-- The fragments of a message carry its pieces. -/
theorem cut_fragments (message : Message) (limit : Nat) :
    Cut (typeOf message).opcode (message.pieces limit) (message.fragments limit) := by
  have hopcode : message.opcode = (typeOf message).opcode := by cases message <;> rfl
  cases hpieces : message.pieces limit with
  | nil => exact absurd hpieces (pieces_ne_nil message limit)
  | cons piece pieces =>
    rw [fragments_eq message limit piece pieces hpieces]
    cases pieces with
    | nil => exact .last ⟨true, message.opcode, none, piece⟩ hopcode rfl
    | cons next pieces =>
      exact .more ⟨false, message.opcode, none, piece⟩ hopcode rfl
        (cut_continuations (next :: pieces) (List.cons_ne_nil _ _))

/-- An assembler that holds nothing gives nothing before the last fragment, and then the
message. -/
theorem pushAll_fragments (message : Message) (limit : Nat) (assembler : Assembler)
    (hpending : assembler.pending = none) (hfits : message.payload.length ≤ assembler.limit) :
    assembler.pushAll (message.fragments limit) =
      (List.replicate ((message.fragments limit).length - 1) (.ok none) ++ [.ok (some message)],
        assembler) := by
  have hflatten := flatten_pieces message limit
  have hpush := pushAll_of_fits (message.cut_fragments limit) assembler hpending
    (by rwa [hflatten])
  rw [hpush, hflatten, finish_typeOf]
  rfl

/-- The length of the frame at each place. -/
theorem length_fragmentAt (message : Message) (limit index : Nat) :
    (message.fragmentAt limit index).payload.length =
      min (max 1 limit) (message.payload.length - index * max 1 limit) := by
  rw [fragmentAt, List.length_take, List.length_drop]

/-- The payloads of the fragments are the pieces, so together they are the payload. -/
theorem flatMap_payload_fragments (message : Message) (limit : Nat) :
    (message.fragments limit).flatMap (·.payload) = message.payload := by
  have hpieces : (message.fragments limit).map (·.payload) = message.pieces limit := by
    apply List.ext_getElem <;> simp [fragments]
  rw [List.flatMap_def, hpieces, flatten_pieces]

/-- A message is cut exactly, for every size of the frames, where a size of zero counts as one.
In order:

- the walk over the indices ends and never leaves 64 bits, for every payload that can be held,
  which is shorter than `2 ^ 63` bytes;
- there are as many frames as the payload takes, and one if it is empty;
- their payloads, one after the other, are the payload;
- no frame is masked; the first one has the opcode of the message and the others are
  continuations; the last one is final, and no other; each frame but the last is full, the last
  one is not longer, and none is empty unless the message is;
- an assembler that holds nothing and has room for the message gives nothing before the last
  frame, and then the message, wherever the cuts are. -/
theorem fragments_partition (message : Message) (limit : Nat) :
    let size := max 1 limit
    let frames := message.fragments limit
    (message.payload.length < 2 ^ 63 → message.frames? limit = some frames) ∧
    frames.length = max 1 ((message.payload.length + size - 1) / size) ∧
    frames.flatMap (·.payload) = message.payload ∧
    (∀ index (h : index < frames.length),
      frames[index].mask = none ∧
      frames[index].opcode = (if index = 0 then message.opcode else .continuation) ∧
      (frames[index].fin = true ↔ index + 1 = frames.length) ∧
      (index + 1 < frames.length → frames[index].payload.length = size) ∧
      frames[index].payload.length ≤ size ∧
      (message.payload ≠ [] → frames[index].payload ≠ [])) ∧
    ∀ assembler : Assembler, assembler.pending = none →
      message.payload.length ≤ assembler.limit →
        assembler.pushAll frames =
          (List.replicate (frames.length - 1) (.ok none) ++ [.ok (some message)], assembler) := by
  intro size frames
  have hlength : frames.length = message.fragmentCount limit := message.length_fragments limit
  refine ⟨message.frames?_eq limit, hlength, ?_, ?_, message.pushAll_fragments limit⟩
  · exact message.flatMap_payload_fragments limit
  · intro index hindex
    have hframe : frames[index] = message.fragmentAt limit index :=
      message.getElem_fragments limit index hindex
    rw [hframe]
    rw [hlength] at hindex ⊢
    have hpayload := message.length_fragmentAt limit index
    refine ⟨rfl, rfl, decide_eq_true_iff, fun hmore => ?_, ?_, fun hne hempty => ?_⟩
    · -- Where one more frame follows, the payload goes on behind this one.
      have hne : message.payload ≠ [] := by
        intro hnil
        rw [message.fragmentCount_of_fits limit (by simp [hnil])] at hmore
        omega
      have hnext := (message.lt_fragmentCount_iff limit (index + 1) hne).mp hmore
      rw [Nat.succ_mul] at hnext
      rw [hpayload]
      exact Nat.min_eq_left (by omega)
    · rw [hpayload]
      exact Nat.min_le_left _ _
    · have hinside := (message.lt_fragmentCount_iff limit index hne).mp hindex
      rw [hempty, List.length_nil] at hpayload
      omega

/-- A text of two characters, each of two bytes, in frames of three bytes: the cut is inside the
second character. -/
example :
    (text "éé").fragments 3 =
      [⟨false, .text, none, [0xC3, 0xA9, 0xC3]⟩, ⟨true, .continuation, none, [0xA9]⟩] := by
  decide +kernel

end SocketGate.Message
