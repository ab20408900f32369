import SocketGate.Proofs.Message.Assembly

/-!
# `SocketGate.Proofs.Message.Pieces`: a message does not show how it was cut

A payload can come in one final frame, or in pieces: one frame that starts the message and then
continuations, of which the last one is final, with control frames between them. `Cut` says
that some frames carry a payload in this way. An assembler that holds nothing gives the same
in both cases, whether the payload fits, is not the UTF-8 form of a text, or is too long. The
pieces may be empty and may end inside a character: only the whole is looked at.

`Assembler.pushAll` does not stop at a violation, so it also shows what comes after one.

* `Assembler.push_whole`: what a payload gives that comes in one frame.
* `Assembler.pushAll_of_fits`: pieces that fit give nothing, and the last one gives the message.
* `Assembler.pushAll_of_overflow`: the first piece that exceeds the limit is refused, and all
  that come after it belong to no message.
* `Assembler.pushAll_of_cut`: pieces and the whole give the same.
-/

set_option autoImplicit false

namespace SocketGate

/-- The opcode of the frame that starts a message of this type. -/
def MessageType.opcode : MessageType → Opcode
  | .text => .text
  | .binary => .binary

/-- The message in progress with one more piece. -/
def Begun.extend (begun : Begun) (piece : Bytes) : Begun :=
  { begun with payload := begun.payload ++ piece }

@[simp] theorem Begun.length_extend (begun : Begun) (piece : Bytes) :
    (begun.extend piece).payload.length = begun.payload.length + piece.length :=
  List.length_append

namespace Assembler

/-- What a frame gives: a message if it completes one, or a violation. -/
abbrev Outcome := Except Violation (Option Message)

/-- What each of some frames gives, and the assembler after them. -/
def pushAll (assembler : Assembler) : List Frame → List Outcome × Assembler
  | [] => ([], assembler)
  | frame :: frames =>
    let (outcome, assembler) := assembler.push frame
    let (outcomes, last) := assembler.pushAll frames
    (outcome :: outcomes, last)

theorem pushAll_of_push {assembler after : Assembler} {frame : Frame} {outcome : Outcome}
    (frames : List Frame) (h : assembler.push frame = (outcome, after)) :
    assembler.pushAll (frame :: frames) =
      (outcome :: (after.pushAll frames).1, (after.pushAll frames).2) := by
  rw [pushAll, h]

/-! ### Frames that carry a payload in pieces -/

/-- The frames carry these pieces, one each and one at least. The first one has this opcode, the
others are continuations, and only the last one is final. Control frames stand anywhere before
the last one. -/
inductive Cut : Opcode → List Bytes → List Frame → Prop where
  /-- The last piece. -/
  | last {opcode : Opcode} (frame : Frame) (own : frame.opcode = opcode)
      (fin : frame.fin = true) : Cut opcode [frame.payload] [frame]
  /-- A piece, and more to come. -/
  | more {opcode : Opcode} {pieces : List Bytes} {frames : List Frame} (frame : Frame)
      (own : frame.opcode = opcode) (fin : frame.fin = false)
      (rest : Cut .continuation pieces frames) :
      Cut opcode (frame.payload :: pieces) (frame :: frames)
  /-- A control frame in between. -/
  | control {opcode : Opcode} {pieces : List Bytes} {frames : List Frame} (frame : Frame)
      (isControl : frame.opcode.isControl) (rest : Cut opcode pieces frames) :
      Cut opcode pieces (frame :: frames)

theorem Cut.ne_nil {opcode : Opcode} {pieces : List Bytes} {frames : List Frame}
    (h : Cut opcode pieces frames) : frames ≠ [] := by
  cases h <;> exact List.cons_ne_nil _ _

/-- Nothing is given until the last frame, which gives this. -/
def atLast (frames : List Frame) (outcome : Outcome) : List Outcome :=
  List.replicate (frames.length - 1) (.ok none) ++ [outcome]

theorem atLast_cons (frame : Frame) {frames : List Frame} (h : frames ≠ []) (outcome : Outcome) :
    atLast (frame :: frames) outcome = .ok none :: atLast frames outcome := by
  have hlength : (frame :: frames).length - 1 = (frames.length - 1) + 1 := by
    have hpos := List.length_pos_iff.mpr h
    rw [List.length_cons]
    omega
  rw [atLast, hlength, List.replicate_succ, List.cons_append, atLast]

/-- How many bytes of messages some frames bring. -/
def load (frames : List Frame) : Nat :=
  ((frames.filter (·.opcode.isData)).flatMap (·.payload)).length

theorem load_control (frame : Frame) (frames : List Frame) (h : frame.opcode.isControl) :
    load (frame :: frames) = load frames := by
  simp [load, Opcode.isData, h]

theorem load_data (frame : Frame) (frames : List Frame) (h : frame.opcode.isControl = false) :
    load (frame :: frames) = frame.payload.length + load frames := by
  simp [load, Opcode.isData, h]

/-- What a frame gives that belongs to no message, unless it starts one. -/
def stray (frame : Frame) : Outcome :=
  if frame.opcode.isControl then .ok none else .error .strayContinuation

/-- With `held` bytes in progress, the first frame that takes the message above the limit is
refused, the frames before it give nothing, and those after it belong to no message. -/
def Overflows (limit held : Nat) (frames : List Frame) (outcomes : List Outcome) : Prop :=
  ∃ before frame after, frames = before ++ frame :: after ∧ frame.opcode.isControl = false ∧
    held + load before ≤ limit ∧ limit < held + load before + frame.payload.length ∧
    outcomes = before.map (fun _ => .ok none) ++
      .error (.oversizedMessage (held + load before + frame.payload.length) limit) ::
        after.map stray

/-- A control frame comes first. -/
theorem Overflows.control {limit held : Nat} {frames : List Frame} {outcomes : List Outcome}
    (frame : Frame) (hcontrol : frame.opcode.isControl)
    (h : Overflows limit held frames outcomes) :
    Overflows limit held (frame :: frames) (.ok none :: outcomes) := by
  obtain ⟨before, excess, after, rfl, hdata, hfits, hexceeds, rfl⟩ := h
  refine ⟨frame :: before, excess, after, rfl, hdata, ?_, ?_, ?_⟩
  · rwa [load_control frame before hcontrol]
  · rwa [load_control frame before hcontrol]
  · rw [load_control frame before hcontrol]
    rfl

/-- A piece that fits comes first. -/
theorem Overflows.data {limit held : Nat} {frames : List Frame} {outcomes : List Outcome}
    (frame : Frame) (hdata : frame.opcode.isControl = false)
    (h : Overflows limit (held + frame.payload.length) frames outcomes) :
    Overflows limit held (frame :: frames) (.ok none :: outcomes) := by
  obtain ⟨before, excess, after, rfl, hexcess, hfits, hexceeds, rfl⟩ := h
  refine ⟨frame :: before, excess, after, rfl, hexcess, ?_, ?_, ?_⟩
  · rw [load_data frame before hdata]
    omega
  · rw [load_data frame before hdata]
    omega
  · rw [load_data frame before hdata, ← Nat.add_assoc]
    rfl

/-- Nothing that overflows gives a message. -/
theorem Overflows.no_message {limit held : Nat} {frames : List Frame} {outcomes : List Outcome}
    (h : Overflows limit held frames outcomes) (message : Message) :
    .ok (some message) ∉ outcomes := by
  obtain ⟨before, excess, after, -, -, -, -, rfl⟩ := h
  intro hmem
  rcases List.mem_append.mp hmem with hbefore | hrest
  · obtain ⟨frame, -, heq⟩ := List.mem_map.mp hbefore
    cases heq
  · rcases List.mem_cons.mp hrest with heq | hafter
    · cases heq
    · obtain ⟨frame, -, heq⟩ := List.mem_map.mp hafter
      unfold stray at heq
      split at heq <;> cases heq

/-! ### The frames after the first piece -/

/-- Without a message in progress, continuations are refused. -/
theorem pushAll_stray {pieces : List Bytes} {frames : List Frame}
    (h : Cut .continuation pieces frames) (assembler : Assembler)
    (hpending : assembler.pending = none) :
    assembler.pushAll frames = (frames.map stray, assembler) := by
  have hdata (frame : Frame) (hopcode : frame.opcode = .continuation) :
      assembler.push frame = (stray frame, assembler) := by
    simp [push, pushContinuation, stray, hopcode, hpending, Opcode.isControl]
  generalize hcontinuation : Opcode.continuation = opcode at h
  induction h with
  | last frame own fin => rw [pushAll_of_push [] (hdata frame (own.trans hcontinuation.symm))]; rfl
  | more frame own fin rest ih =>
    rw [pushAll_of_push _ (hdata frame (own.trans hcontinuation.symm)), ih rfl]
    rfl
  | control frame isControl rest ih =>
    rw [pushAll_of_push _ (push_control assembler frame isControl), ih hcontinuation,
      List.map_cons, stray, if_pos isControl]

/-- A continuation that fits is put behind what has begun. -/
theorem push_continuation_of_fits {assembler : Assembler} {begun : Begun} {frame : Frame}
    (hopcode : frame.opcode = .continuation) (hpending : assembler.pending = some begun)
    (hfits : begun.payload.length + frame.payload.length ≤ assembler.limit) :
    assembler.push frame =
      if frame.fin then
        ((begun.type.finish (begun.payload ++ frame.payload)).map some,
          { assembler with pending := none })
      else
        (.ok none, { assembler with pending := some (begun.extend frame.payload) }) := by
  simp only [push, hopcode, pushContinuation, hpending, if_neg (Nat.not_lt.mpr hfits)]
  rfl

/-- A continuation that does not fit ends what has begun. -/
theorem push_continuation_of_exceeds {assembler : Assembler} {begun : Begun} {frame : Frame}
    (hopcode : frame.opcode = .continuation) (hpending : assembler.pending = some begun)
    (hexceeds : assembler.limit < begun.payload.length + frame.payload.length) :
    assembler.push frame =
      (.error (.oversizedMessage (begun.payload.length + frame.payload.length) assembler.limit),
        { assembler with pending := none }) := by
  simp only [push, hopcode, pushContinuation, hpending, if_pos hexceeds]

/-- The pieces that follow what has begun complete it, if all of them fit. -/
theorem pushAll_of_begun {pieces : List Bytes} {frames : List Frame}
    (h : Cut .continuation pieces frames) (assembler : Assembler) (begun : Begun)
    (hpending : assembler.pending = some begun)
    (hfits : begun.payload.length + pieces.flatten.length ≤ assembler.limit) :
    assembler.pushAll frames =
      (atLast frames ((begun.type.finish (begun.payload ++ pieces.flatten)).map some),
        { assembler with pending := none }) := by
  generalize hcontinuation : Opcode.continuation = opcode at h
  -- What has begun grows with each piece, so it is a variable of the induction.
  induction h generalizing assembler begun with
  | last frame own fin =>
    rw [List.flatten_singleton] at hfits ⊢
    have hpush := push_continuation_of_fits (own.trans hcontinuation.symm) hpending hfits
    rw [fin, if_pos rfl] at hpush
    rw [pushAll_of_push [] hpush]
    rfl
  | @more opcode pieces frames frame own fin rest ih =>
    rw [List.flatten_cons, List.length_append] at hfits
    have hpush := push_continuation_of_fits (own.trans hcontinuation.symm) hpending (by omega)
    rw [fin, if_neg (by decide)] at hpush
    have hlength : (begun.extend frame.payload).payload.length + pieces.flatten.length ≤
        assembler.limit := by
      rw [Begun.length_extend]
      omega
    have hrest := ih { assembler with pending := some (begun.extend frame.payload) } _ rfl
      hlength rfl
    rw [pushAll_of_push _ hpush, atLast_cons frame rest.ne_nil, hrest, List.flatten_cons,
      ← List.append_assoc]
    rfl
  | control frame isControl rest ih =>
    rw [pushAll_of_push _ (push_control assembler frame isControl), atLast_cons frame rest.ne_nil,
      ih assembler begun hpending hfits hcontinuation]

/-- The pieces that follow what has begun overflow, if they do not all fit. -/
theorem overflows_of_begun {pieces : List Bytes} {frames : List Frame}
    (h : Cut .continuation pieces frames) (assembler : Assembler) (begun : Begun)
    (hpending : assembler.pending = some begun)
    (hbegun : begun.payload.length ≤ assembler.limit)
    (hexceeds : assembler.limit < begun.payload.length + pieces.flatten.length) :
    Overflows assembler.limit begun.payload.length frames (assembler.pushAll frames).1 ∧
      (assembler.pushAll frames).2 = { assembler with pending := none } := by
  have hexcess (frame : Frame) (frames : List Frame) (hopcode : frame.opcode = .continuation)
      (assembler : Assembler) (begun : Begun) (hpending : assembler.pending = some begun)
      (hbegun : begun.payload.length ≤ assembler.limit)
      (hexceeds : assembler.limit < begun.payload.length + frame.payload.length)
      (hrest : ({ assembler with pending := none } : Assembler).pushAll frames =
        (frames.map stray, { assembler with pending := none })) :
      Overflows assembler.limit begun.payload.length (frame :: frames)
          (assembler.pushAll (frame :: frames)).1 ∧
        (assembler.pushAll (frame :: frames)).2 = { assembler with pending := none } := by
    rw [pushAll_of_push _ (push_continuation_of_exceeds hopcode hpending hexceeds), hrest]
    exact ⟨⟨[], frame, frames, rfl, by rw [hopcode]; rfl, hbegun, hexceeds, rfl⟩, rfl⟩
  generalize hcontinuation : Opcode.continuation = opcode at h
  induction h generalizing assembler begun with
  | last frame own fin =>
    rw [List.flatten_singleton] at hexceeds
    exact hexcess frame [] (own.trans hcontinuation.symm) assembler begun hpending hbegun hexceeds
      rfl
  | @more opcode pieces frames frame own fin rest ih =>
    have hopcode := own.trans hcontinuation.symm
    by_cases hfits : begun.payload.length + frame.payload.length ≤ assembler.limit
    · have hpush := push_continuation_of_fits hopcode hpending hfits
      rw [fin, if_neg (by decide)] at hpush
      rw [List.flatten_cons, List.length_append] at hexceeds
      have hlength : assembler.limit <
          (begun.extend frame.payload).payload.length + pieces.flatten.length := by
        rw [Begun.length_extend]
        omega
      obtain ⟨hexcessflows, hlast⟩ := ih
        { assembler with pending := some (begun.extend frame.payload) } _ rfl
        (by rwa [Begun.length_extend]) hlength rfl
      rw [pushAll_of_push _ hpush]
      rw [Begun.length_extend] at hexcessflows
      exact ⟨hexcessflows.data frame (by rw [hopcode]; rfl), hlast⟩
    · exact hexcess frame frames hopcode assembler begun hpending hbegun (Nat.lt_of_not_le hfits)
        (pushAll_stray rest _ rfl)
  | control frame isControl rest ih =>
    obtain ⟨hexcessflows, hlast⟩ := ih assembler begun hpending hbegun hexceeds hcontinuation
    rw [pushAll_of_push _ (push_control assembler frame isControl)]
    exact ⟨hexcessflows.control frame isControl, hlast⟩

/-! ### From the first piece on -/

/-- A frame with the opcode of a type starts a message of that type. -/
theorem push_start (assembler : Assembler) (type : MessageType) {frame : Frame}
    (h : frame.opcode = type.opcode) :
    assembler.push frame = assembler.pushStart type frame.fin frame.payload := by
  cases type <;> simp [push, h, MessageType.opcode]

theorem push_start_of_fits {assembler : Assembler} {type : MessageType} {frame : Frame}
    (hopcode : frame.opcode = type.opcode) (hpending : assembler.pending = none)
    (hfits : frame.payload.length ≤ assembler.limit) :
    assembler.push frame =
      if frame.fin then ((type.finish frame.payload).map some, assembler)
      else (.ok none, { assembler with pending := some { type, payload := frame.payload } }) := by
  rw [push_start assembler type hopcode, pushStart, hpending, if_neg (by simp),
    if_neg (Nat.not_lt.mpr hfits)]

theorem push_start_of_exceeds {assembler : Assembler} {type : MessageType} {frame : Frame}
    (hopcode : frame.opcode = type.opcode) (hpending : assembler.pending = none)
    (hexceeds : assembler.limit < frame.payload.length) :
    assembler.push frame =
      (.error (.oversizedMessage frame.payload.length assembler.limit), assembler) := by
  rw [push_start assembler type hopcode, pushStart, hpending, if_neg (by simp), if_pos hexceeds]

/-- The whole payload of a message in one frame. -/
def whole (type : MessageType) (mask : Option MaskKey) (payload : Bytes) : Frame :=
  { fin := true, opcode := type.opcode, mask, payload }

/-- What a whole payload gives: the message, unless it is too long, or a text is not there. -/
theorem push_whole (assembler : Assembler) (type : MessageType) (mask : Option MaskKey)
    (payload : Bytes) (hpending : assembler.pending = none) :
    assembler.push (whole type mask payload) =
      (if assembler.limit < payload.length then
          .error (.oversizedMessage payload.length assembler.limit)
        else (type.finish payload).map some, assembler) := by
  have hwhole : (whole type mask payload).opcode = type.opcode := rfl
  by_cases hexceeds : assembler.limit < payload.length
  · rw [if_pos hexceeds]
    exact push_start_of_exceeds hwhole hpending hexceeds
  · rw [if_neg hexceeds]
    exact push_start_of_fits hwhole hpending (Nat.le_of_not_lt hexceeds)

/-- Pieces that fit give nothing before the last one, which gives the message. -/
theorem pushAll_of_fits {type : MessageType} {pieces : List Bytes} {frames : List Frame}
    (h : Cut type.opcode pieces frames) (assembler : Assembler)
    (hpending : assembler.pending = none) (hfits : pieces.flatten.length ≤ assembler.limit) :
    assembler.pushAll frames =
      (atLast frames ((type.finish pieces.flatten).map some), assembler) := by
  have hsame : ({ assembler with pending := none } : Assembler) = assembler := by rw [← hpending]
  generalize hopcode : type.opcode = opcode at h
  induction h with
  | last frame own fin =>
    rw [List.flatten_singleton] at hfits ⊢
    have hpush := push_start_of_fits (own.trans hopcode.symm) hpending hfits
    rw [fin, if_pos rfl] at hpush
    rw [pushAll_of_push [] hpush]
    rfl
  | more frame own fin rest ih =>
    rw [List.flatten_cons, List.length_append] at hfits
    have hpush := push_start_of_fits (own.trans hopcode.symm) hpending (by omega)
    rw [fin, if_neg (by decide)] at hpush
    have hrest := pushAll_of_begun rest
      { assembler with pending := some { type, payload := frame.payload } }
      { type, payload := frame.payload } rfl hfits
    rw [pushAll_of_push _ hpush, atLast_cons frame rest.ne_nil, hrest, List.flatten_cons]
    exact congrArg (Prod.mk _) hsame
  | control frame isControl rest ih =>
    rw [pushAll_of_push _ (push_control assembler frame isControl), atLast_cons frame rest.ne_nil,
      ih hfits hopcode]

/-- Pieces that do not all fit overflow. -/
theorem pushAll_of_overflow {type : MessageType} {pieces : List Bytes} {frames : List Frame}
    (h : Cut type.opcode pieces frames) (assembler : Assembler)
    (hpending : assembler.pending = none) (hexceeds : assembler.limit < pieces.flatten.length) :
    Overflows assembler.limit 0 frames (assembler.pushAll frames).1 ∧
      (assembler.pushAll frames).2 = assembler := by
  have hsame : ({ assembler with pending := none } : Assembler) = assembler := by rw [← hpending]
  have hdata (frame : Frame) (hown : frame.opcode = type.opcode) :
      frame.opcode.isControl = false := by
    rw [hown]
    cases type <;> rfl
  have hexcess (frame : Frame) (frames : List Frame) (hown : frame.opcode = type.opcode)
      (hexceeds : assembler.limit < frame.payload.length)
      (hrest : assembler.pushAll frames = (frames.map stray, assembler)) :
      Overflows assembler.limit 0 (frame :: frames) (assembler.pushAll (frame :: frames)).1 ∧
        (assembler.pushAll (frame :: frames)).2 = assembler := by
    rw [pushAll_of_push _ (push_start_of_exceeds hown hpending hexceeds), hrest]
    refine ⟨⟨[], frame, frames, rfl, hdata frame hown, Nat.zero_le _, ?_, ?_⟩, rfl⟩
    · simpa [load] using hexceeds
    · simp [load]
  generalize hopcode : type.opcode = opcode at h
  induction h with
  | last frame own fin =>
    rw [List.flatten_singleton] at hexceeds
    exact hexcess frame [] (own.trans hopcode.symm) hexceeds rfl
  | @more opcode pieces frames frame own fin rest ih =>
    have hown := own.trans hopcode.symm
    by_cases hfits : frame.payload.length ≤ assembler.limit
    · have hpush := push_start_of_fits hown hpending hfits
      rw [fin, if_neg (by decide)] at hpush
      rw [List.flatten_cons, List.length_append] at hexceeds
      obtain ⟨hexcessflows, hlast⟩ := overflows_of_begun rest
        { assembler with pending := some { type, payload := frame.payload } }
        { type, payload := frame.payload } rfl hfits hexceeds
      rw [pushAll_of_push _ hpush]
      refine ⟨Overflows.data frame (hdata frame hown) ?_, hlast.trans hsame⟩
      rwa [Nat.zero_add]
    · exact hexcess frame frames hown (Nat.lt_of_not_le hfits) (pushAll_stray rest _ hpending)
  | control frame isControl rest ih =>
    obtain ⟨hexcessflows, hlast⟩ := ih hexceeds hopcode
    rw [pushAll_of_push _ (push_control assembler frame isControl)]
    exact ⟨hexcessflows.control frame isControl, hlast⟩

/-- A payload that comes in pieces gives what it gives as a whole, to an assembler that holds
nothing. In order:

- neither way anything is left in progress;
- if the payload fits, nothing is given before the last piece, and then the same;
- this is the text or the byte string that the payload is, or a violation if a text is
  expected and the payload is not the UTF-8 form of one;
- if the payload is too long, it is refused in one frame; in pieces, the first piece that
  exceeds the limit is refused with the number of bytes up to there;
- after that the pieces belong to no message, and neither way a message is ever given. -/
theorem pushAll_of_cut (assembler : Assembler) (type : MessageType) (pieces : List Bytes)
    (frames : List Frame) (mask : Option MaskKey) (hpending : assembler.pending = none)
    (hcut : Cut type.opcode pieces frames) :
    let payload := pieces.flatten
    let single := assembler.push (whole type mask payload)
    let cut := assembler.pushAll frames
    (single.2 = assembler ∧ cut.2 = assembler) ∧
    (payload.length ≤ assembler.limit →
      cut.1 = List.replicate (frames.length - 1) (.ok none) ++ [single.1] ∧
      (type = .binary → single.1 = .ok (some (.binary payload))) ∧
      (type = .text →
        (∀ content, payload = Bytes.ofText content → single.1 = .ok (some (.text content))) ∧
        ((∀ content, payload ≠ Bytes.ofText content) → single.1 = .error .invalidText))) ∧
    (assembler.limit < payload.length →
      single.1 = .error (.oversizedMessage payload.length assembler.limit) ∧
      Overflows assembler.limit 0 frames cut.1 ∧
      ∀ message, .ok (some message) ∉ cut.1) := by
  intro payload single cut
  have hsingle : single = _ := push_whole assembler type mask payload hpending
  by_cases hexceeds : assembler.limit < payload.length
  · obtain ⟨hexcessflows, hlast⟩ := pushAll_of_overflow hcut assembler hpending hexceeds
    rw [if_pos hexceeds] at hsingle
    refine ⟨⟨by rw [hsingle], hlast⟩, fun hfits => absurd hexceeds (Nat.not_lt.mpr hfits),
      fun _ => ⟨by rw [hsingle], hexcessflows, hexcessflows.no_message⟩⟩
  · have hfits := Nat.le_of_not_lt hexceeds
    have hpieces : cut = _ := pushAll_of_fits hcut assembler hpending hfits
    rw [if_neg hexceeds] at hsingle
    refine ⟨⟨by rw [hsingle], by rw [hpieces]⟩, fun _ => ⟨?_, ?_, ?_⟩,
      fun h => absurd h hexceeds⟩
    · rw [hpieces, hsingle]
      rfl
    · rintro rfl
      rw [hsingle]
      rfl
    · rintro rfl
      rw [hsingle]
      refine ⟨fun content hcontent => ?_, fun hnone => ?_⟩
      · simp only [MessageType.finish, hcontent, Bytes.toText?_ofText]
        rfl
      · have hinvalid : Bytes.toText? payload = none := by
          cases htext : Bytes.toText? payload with
          | none => rfl
          | some content => exact absurd (Bytes.ofText_of_toText? htext).symm (hnone content)
        simp only [MessageType.finish, hinvalid]
        rfl

/-- A text of one character, cut inside it, with a ping between the pieces and an empty piece. One
byte less, and it is no message. -/
theorem pushAll_of_cut_insideCharacter :
    let frames : List Frame :=
      [⟨false, .text, none, [0xC3]⟩, .ping [7], ⟨false, .continuation, none, []⟩,
        ⟨true, .continuation, none, [0xA9]⟩]
    Cut MessageType.text.opcode [[0xC3], [], [0xA9]] frames ∧
      (pushAll { limit := 2 } frames).1 =
        [.ok none, .ok none, .ok none, .ok (some (.text "é"))] ∧
      ∀ message, .ok (some message) ∉ (pushAll { limit := 1 } frames).1 := by
  intro frames
  have hcut : Cut MessageType.text.opcode [[0xC3], [], [0xA9]] frames :=
    .more ⟨false, .text, none, [0xC3]⟩ rfl rfl <| .control (.ping [7]) rfl <|
      .more ⟨false, .continuation, none, []⟩ rfl rfl <|
        .last ⟨true, .continuation, none, [0xA9]⟩ rfl rfl
  obtain ⟨-, hfits, -⟩ := pushAll_of_cut { limit := 2 } .text _ frames none rfl hcut
  obtain ⟨-, -, hexceeds⟩ := pushAll_of_cut { limit := 1 } .text _ frames none rfl hcut
  obtain ⟨hgiven, -, htext⟩ := hfits (by decide)
  refine ⟨hcut, hgiven.trans ?_, (hexceeds (by decide)).2.2⟩
  rw [(htext rfl).1 "é" (by decide +kernel)]
  rfl

end Assembler

end SocketGate
