import SocketGate.Proofs.Http.Layout

/-!
# `SocketGate.Proofs.Http.Extent`: how far a request head reaches into its stream

Whatever comes of a head, at most 16384 bytes are taken off the front of the stream, and no others
have a say in it. With so many bytes there is an answer, and so it does not matter whether the
stream goes on behind them, ends there or fails there.

`Source.Within` says of a reader that it keeps to a limit, and how much of the limit its value
leaves to the next reader. Readers one after the other share a limit in this way
(`Within.andThen`). A reader that keeps to a limit and takes what it reads off the front
(`Source.Firm`) finds the same in any two streams with the same front (`Source.found_eq`).

* `Request.within_read`: a head keeps to 16384 bytes.
* `Request.extent_of_read`: what a head takes off its stream, and what it depends on.
-/

set_option autoImplicit false

namespace SocketGate

/-! ### Readers with a limit -/

namespace Source

/-- A reader takes at most so many bytes off the front of a stream, and waits for no more than
that. A value leaves the rest of them to what is read behind it. -/
structure Within {α : Type} (limit : Nat) (left : α → Nat) (read : Source → Reading α) : Prop where
  /-- No other bytes are taken. -/
  front : ∀ source outcome after, read source = some (outcome, after) →
    ∃ used, source.bytes = used ++ after.bytes ∧ used.length ≤ limit
  /-- What a value leaves has not been taken. -/
  left : ∀ source value after, read source = some (.ok value, after) →
    source.bytes.length + left value ≤ limit + after.bytes.length
  /-- No other bytes are waited for. -/
  answers : ∀ source, (source.ending = .unfinished → limit ≤ source.bytes.length) →
    (read source).isSome

/-- Nothing is read. -/
theorem Within.pure {α : Type} {limit : Nat} {left : α → Nat} {outcome : Except IoFault α}
    (h : ∀ value, outcome = .ok value → left value ≤ limit) :
    Within limit left fun source => some (outcome, source) where
  front source found after hread := by
    cases hread
    exact ⟨[], rfl, Nat.zero_le limit⟩
  left source value after hread := by
    cases hread
    have hvalue := h value rfl
    omega
  answers source hanswer := rfl

/-- Nothing is read, and nothing is left for another reader. -/
theorem Within.rest {α : Type} (limit : Nat) (outcome : Except IoFault α) :
    Within limit (fun _ => 0) fun source => some (outcome, source) :=
  .pure fun _ _ => Nat.zero_le limit

/-- What is read behind a value has what the value leaves. -/
theorem Within.andThen {α β : Type} {limit : Nat} {left : α → Nat} {spare : β → Nat}
    {read : Source → Reading α} {next : α → Source → Reading β} (h : Within limit left read)
    (hfirm : Firm read) (hnext : ∀ value, Within (left value) spare (next value)) :
    Within limit spare fun source => (read source).andThen next where
  front source outcome after hread := by
    cases hfirst : read source with
    | none => simp [hfirst, Reading.andThen] at hread
    | some found =>
      obtain ⟨first, middle⟩ := found
      obtain ⟨used, hused, hlimit⟩ := h.front source first middle hfirst
      rw [hfirst] at hread
      cases first with
      | error fault =>
        cases hread
        exact ⟨used, hused, hlimit⟩
      | ok value =>
        have hleft := h.left source value middle hfirst
        obtain ⟨more, hmore, hspare⟩ := (hnext value).front middle outcome after hread
        refine ⟨used ++ more, by rw [hused, hmore, List.append_assoc], ?_⟩
        rw [hused, List.length_append] at hleft
        rw [List.length_append]
        omega
  left source value after hread := by
    obtain ⟨found, middle, hfirst, hrest⟩ := Reading.andThen_eq_ok_iff.mp hread
    have hleft := h.left source found middle hfirst
    have hspare := (hnext found).left middle value after hrest
    omega
  answers source hanswer := by
    obtain ⟨⟨first, middle⟩, hfirst⟩ := Option.isSome_iff_exists.mp (h.answers source hanswer)
    rw [hfirst]
    cases first with
    | error fault => rfl
    | ok value =>
      have hleft := h.left source value middle hfirst
      have hending := hfirm.ending source value middle hfirst
      refine (hnext value).answers middle fun hunfinished => ?_
      have hlimit := hanswer (hending ▸ hunfinished)
      omega

/-- What a reader finds in a stream: the outcome, and how many bytes it takes off. -/
def found {α : Type} (read : Source → Reading α) (source : Source) :
    Option (Except IoFault α × Nat) :=
  (read source).map fun (outcome, after) =>
    (outcome, source.bytes.length - after.bytes.length)

/-- The first bytes of a stream, and what comes after them if there are fewer. -/
def front (limit : Nat) (source : Source) : Bytes × Option Ending :=
  (source.bytes.take limit, if source.bytes.length < limit then some source.ending else none)

/-- The rest of a stream has no say once the limit has been reached. -/
theorem found_take {α : Type} {limit : Nat} {left : α → Nat} {read : Source → Reading α}
    (h : Within limit left read) (hfirm : Firm read) {source : Source}
    (hlength : limit ≤ source.bytes.length) :
    found read source = found read ⟨source.bytes.take limit, .unfinished⟩ := by
  -- The front has an answer by itself, which stays the same when the rest comes behind it.
  have hanswer : (read ⟨source.bytes.take limit, .unfinished⟩).isSome := by
    refine h.answers _ fun _ => ?_
    rw [List.length_take]
    omega
  obtain ⟨⟨outcome, after⟩, hread⟩ := Option.isSome_iff_exists.mp hanswer
  obtain ⟨-, hextend⟩ := hfirm.extend _ outcome after rfl hread
  have hwhole : source = (⟨source.bytes.take limit, .unfinished⟩ : Source).extend
      (source.bytes.drop limit) source.ending := by
    rw [extend, List.take_append_drop]
  have hsource : read source =
      some (outcome, after.extend (source.bytes.drop limit) source.ending) :=
    (congrArg read hwhole).trans (hextend (source.bytes.drop limit) source.ending)
  have htaken : source.bytes.length - (after.bytes ++ source.bytes.drop limit).length =
      (source.bytes.take limit).length - after.bytes.length := by
    rw [List.length_append, List.length_take, List.length_drop]
    omega
  simp only [found, hread, hsource, Option.map_some, extend, htaken]

/-- Two streams with the same front are the same to a reader with this limit. -/
theorem found_eq {α : Type} {limit : Nat} {left : α → Nat} {read : Source → Reading α}
    (h : Within limit left read) (hfirm : Firm read) {source other : Source}
    (hfront : source.front limit = other.front limit) : found read source = found read other := by
  obtain ⟨htake, hending⟩ := Prod.mk.inj hfront
  by_cases hshort : source.bytes.length < limit
  · -- A stream that is shorter than its front is no other stream.
    rw [if_pos hshort] at hending
    by_cases hother : other.bytes.length < limit
    · rw [if_pos hother] at hending
      rw [List.take_of_length_le (Nat.le_of_lt hshort),
        List.take_of_length_le (Nat.le_of_lt hother)] at htake
      have hsame : source = other := by
        cases source
        cases other
        cases htake
        cases hending
        rfl
      rw [hsame]
    · rw [if_neg hother] at hending
      cases hending
  · by_cases hother : other.bytes.length < limit
    · rw [if_neg hshort, if_pos hother] at hending
      cases hending
    · rw [found_take h hfirm (Nat.le_of_not_lt hshort),
        found_take h hfirm (Nat.le_of_not_lt hother), htake]

/-- A line keeps to its limit. -/
theorem within_takeLine (limit : Nat) :
    Within limit (fun line => limit - line.length) (takeLine limit) where
  front source outcome after hread := by
    cases lineTaken_of_takeLine hread with
    | whole line rest ending feed fits =>
      refine ⟨line ++ [0x0A], by simp, ?_⟩
      rw [List.length_append, List.length_singleton]
      omega
    | cut line rest ending feed full => exact ⟨line, rfl, Nat.le_of_eq full⟩
    | short line feed fits => exact ⟨line, by simp, Nat.le_of_lt fits⟩
    | broken line fault feed fits => exact ⟨line, by simp, Nat.le_of_lt fits⟩
  left source value after hread := by
    cases lineTaken_of_takeLine hread with
    | whole line rest ending feed fits =>
      simp only [List.length_append, List.length_cons, List.length_nil]
      omega
    | cut line rest ending feed full =>
      simp only [List.length_append]
      omega
    | short line feed fits =>
      simp only [List.length_nil]
      omega
  answers source hanswer := isSome_takeLine hanswer

end Source

/-! ### Heads -/

namespace Http

open Source (Firm Within)

theorem within_readHeadLine (limit : Nat) : Within limit (·.2) (readHeadLine limit) := by
  rw [readHeadLine_eq]
  refine (Source.within_takeLine limit).andThen (Source.firm_takeLine limit) fun line => .pure ?_
  intro value hvalue
  cases hline : headLine limit line with
  | error fault => simp [hline, Except.map] at hvalue
  | ok text =>
    rw [hline] at hvalue
    cases hvalue
    exact Nat.le_refl _

/-- A header line and what is read behind it share a limit. -/
theorem within_readHeaderLine {limit : Nat} {headers : List (String × String)}
    {next : Nat → String × String → Source → Source.Reading (List (String × String))}
    (h : ∀ left header, Within left (fun _ => 0) (next left header)) :
    Within limit (fun _ => 0) (readHeaderLine limit headers next) := by
  refine (within_readHeadLine limit).andThen (firm_readHeadLine limit) fun (text, left) => ?_
  dsimp only
  cases readHeader? text with
  | error fault => exact .rest left _
  | ok found =>
    cases found with
    | none => exact .rest left _
    | some header => exact h left header

theorem within_readHeaders (room limit : Nat) (headers : List (String × String)) :
    Within limit (fun _ => 0) (readHeaders room limit headers) := by
  induction room generalizing limit headers with
  | zero =>
    rw [readHeaders_eq]
    exact within_readHeaderLine fun left header => .rest left _
  | succ room ih =>
    rw [readHeaders_eq]
    exact within_readHeaderLine fun left header => ih left (header :: headers)

theorem within_readRequest (text : String) (limit : Nat) :
    Within limit (fun _ => 0) (readRequest text limit) := by
  unfold readRequest
  by_cases hempty : text.isEmpty
  · simp only [hempty, if_true]
    exact .rest limit _
  · simp only [hempty]
    cases requestLine? text with
    | none => exact .rest limit _
    | some line =>
      exact (within_readHeaders maxHeaders limit []).andThen (firm_readHeaders maxHeaders limit [])
        fun headers => .rest 0 _

namespace Request

theorem within_read : Within maxHead (fun _ => 0) read := by
  rw [read_eq]
  exact (within_readHeadLine maxHead).andThen (firm_readHeadLine maxHead)
    fun found => within_readRequest found.1 found.2

/-- There is no request only in a stream that has ended before its first byte. -/
theorem eq_nothing_of_read {source after : Source} (h : read source = some (.ok none, after)) :
    source = ⟨[], .ended⟩ := by
  rw [read_eq] at h
  obtain ⟨⟨first, left⟩, middle, hread, hnone⟩ := Source.Reading.andThen_eq_ok_iff.mp h
  unfold readRequest at hnone
  by_cases hempty : first.isEmpty
  · exact (headLineRead_of_readHeadLine hread).of_empty (by simpa using hempty)
  · rw [if_neg hempty] at hnone
    cases hparts : requestLine? first with
    | none => simp [hparts] at hnone
    | some parts =>
      simp only [hparts] at hnone
      obtain ⟨headers, behind, hheaders, hrequest⟩ := Source.Reading.andThen_eq_ok_iff.mp hnone
      cases hrequest

/-- What a head takes off its stream, and what it depends on. At most 16384 bytes are taken off
the front, with so many there is an answer, and the answer is the same for any two streams with
the same first 16384 bytes. No request means that the stream has ended without a byte. A request
has at most 100 headers and takes exactly its lines, up to the first blank one, and whatever
stands behind them is left without having a say. -/
theorem extent_of_read (source : Source) :
    (∀ outcome after, read source = some (outcome, after) →
      ∃ used, source.bytes = used ++ after.bytes ∧ used.length ≤ 16384) ∧
    ((source.ending = .unfinished → 16384 ≤ source.bytes.length) → (read source).isSome) ∧
    (∀ other, source.front 16384 = other.front 16384 →
      Source.found read source = Source.found read other) ∧
    (∀ after, read source = some (.ok none, after) → source = ⟨[], .ended⟩) ∧
    (∀ request after, read source = some (.ok (some request), after) →
      request.headers.length ≤ 100 ∧
      ∃ head : HeadText request,
        source.bytes = head.bytes ++ after.bytes ∧
        (∀ line ∈ head.lines, stripLineEnd line ≠ "") ∧ stripLineEnd head.blank = "" ∧
        ∀ rest ending, read ⟨head.bytes ++ rest, ending⟩ =
          some (.ok (some request), ⟨rest, ending⟩)) := by
  refine ⟨within_read.front source, within_read.answers source,
    fun other => Source.found_eq within_read firm_read, fun after => eq_nothing_of_read, ?_⟩
  intro request after hread
  obtain ⟨head, hsource⟩ := headText_of_read hread
  exact ⟨head.room, head, congrArg Source.bytes hsource, head.filled, head.isBlank.blank,
    read_of_headText head⟩

end Request

end Http

end SocketGate
