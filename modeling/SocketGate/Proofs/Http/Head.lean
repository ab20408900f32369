import SocketGate.Http.Head

/-!
# `SocketGate.Proofs.Http.Head`: request heads that come in pieces

A request head is read as soon as it is there, and what arrives later does not change what
has been read. So it does not matter how much of a stream has arrived by then: the request is
that of the whole stream, and the bytes behind it stay unread.

`Source.Firm` says this of a reader. It holds for a line (`Source.firm_takeLine`), for the
header lines (`Http.firm_readHeaders`) and for a whole head (`Http.Request.firm_read`).
-/

set_option autoImplicit false

namespace SocketGate

namespace Source

/-- The source when these bytes have arrived too and this comes after them. -/
def extend (source : Source) (more : Bytes) (ending : Ending) : Source where
  bytes := source.bytes ++ more
  ending := ending

/-- A reader takes what it reads off the front of a stream, whatever comes behind that. -/
structure Firm {α : Type} (read : Source → Reading α) : Prop where
  /-- What is read before the end of the stream is known is read off the whole stream too. -/
  extend : ∀ source outcome after, source.ending = .unfinished →
    read source = some (outcome, after) → after.ending = .unfinished ∧
      ∀ more ending, read (source.extend more ending) = some (outcome, after.extend more ending)
  /-- The end of the stream is still to be met. -/
  ending : ∀ source value after, read source = some (.ok value, after) →
    after.ending = source.ending

/-- Nothing is read. -/
theorem Firm.pure {α : Type} (outcome : Except IoFault α) :
    Firm fun source => some (outcome, source) where
  extend source result after hending hread := by
    cases hread
    exact ⟨hending, fun more ending => rfl⟩
  ending source value after hread := by
    cases hread
    rfl

/-- Go on with what has been read, unless that has failed. -/
def Reading.andThen {α β : Type} (reading : Reading α) (next : α → Source → Reading β) :
    Reading β :=
  match reading with
  | none => none
  | some (.error fault, source) => some (.error fault, source)
  | some (.ok value, source) => next value source

/-- A value comes of two readers one after the other if each of them gives one. -/
theorem Reading.andThen_eq_ok_iff {α β : Type} {reading : Reading α}
    {next : α → Source → Reading β} {value : β} {after : Source} :
    reading.andThen next = some (.ok value, after) ↔
      ∃ found middle, reading = some (.ok found, middle) ∧
        next found middle = some (.ok value, after) := by
  constructor
  · intro h
    cases reading with
    | none => cases h
    | some read =>
      obtain ⟨outcome, middle⟩ := read
      cases outcome with
      | error fault => cases h
      | ok found => exact ⟨found, middle, rfl, h⟩
  · rintro ⟨found, middle, rfl, h⟩
    exact h

theorem Firm.andThen {α β : Type} {read : Source → Reading α} {next : α → Source → Reading β}
    (h : Firm read) (hnext : ∀ value, Firm (next value)) :
    Firm fun source => (read source).andThen next where
  extend source outcome after hending hread := by
    cases hfirst : read source with
    | none => simp [hfirst, Reading.andThen] at hread
    | some found =>
      obtain ⟨first, middle⟩ := found
      obtain ⟨hmiddle, hmore⟩ := h.extend source first middle hending hfirst
      rw [hfirst] at hread
      cases first with
      | error fault =>
        cases hread
        exact ⟨hmiddle, fun more ending => by rw [hmore]; rfl⟩
      | ok value =>
        obtain ⟨hafter, hrest⟩ := (hnext value).extend middle outcome after hmiddle hread
        exact ⟨hafter, fun more ending => by rw [hmore]; exact hrest more ending⟩
  ending source value after hread := by
    cases hfirst : read source with
    | none => simp [hfirst, Reading.andThen] at hread
    | some found =>
      obtain ⟨first, middle⟩ := found
      rw [hfirst] at hread
      cases first with
      | error fault => cases hread
      | ok found =>
        have hmiddle := h.ending source found middle hfirst
        exact ((hnext found).ending middle value after hread).trans hmiddle

/-! ### Lines -/

theorem firm_takeLine (limit : Nat) : Firm (takeLine limit) where
  extend source outcome after hending hread := by
    have hwindow (more : Bytes) : (source.bytes ++ more).take limit =
        source.bytes.take limit ++ more.take (limit - source.bytes.length) := List.take_append
    unfold takeLine at hread
    dsimp only at hread
    split at hread
    · -- The line feed is there, and the first one counts.
      rename_i hline
      cases hread
      refine ⟨hending, fun more ending => ?_⟩
      have hsame : ((source.bytes ++ more).take limit).takeWhile (· ≠ 0x0A) =
          (source.bytes.take limit).takeWhile (· ≠ 0x0A) := by
        rw [hwindow, List.takeWhile_append, if_neg (Nat.ne_of_lt hline)]
      have hlength : (source.bytes.take limit).length ≤
          ((source.bytes ++ more).take limit).length := by
        rw [hwindow, List.length_append]
        omega
      have hinside : ((source.bytes.take limit).takeWhile (· ≠ 0x0A)).length + 1 ≤
          source.bytes.length := by
        have hshort := List.length_take_le limit source.bytes
        rw [List.length_take] at hline
        omega
      simp only [takeLine, Source.extend, hsame, if_pos (Nat.lt_of_lt_of_le hline hlength),
        List.drop_append_of_le_length hinside]
    · rename_i hnoline
      split at hread
      · -- The limit has been reached, and more bytes are not looked at.
        rename_i hfull
        cases hread
        refine ⟨hending, fun more ending => ?_⟩
        have hlimit : limit ≤ source.bytes.length := by
          rw [List.length_take] at hfull
          omega
        have hsame : (source.bytes ++ more).take limit = source.bytes.take limit :=
          List.take_append_of_le_length hlimit
        simp only [takeLine, Source.extend, hsame, if_neg hnoline, if_pos hfull,
          List.drop_append_of_le_length hlimit]
      · rw [hending] at hread
        cases hread
  ending source value after hread := by
    unfold takeLine at hread
    dsimp only at hread
    split at hread
    · cases hread
      rfl
    · split at hread
      · cases hread
        rfl
      · split at hread <;> cases hread
        rfl

end Source

/-! ### Heads -/

namespace Http

open Source (Firm)

theorem readHeadLine_eq (limit : Nat) :
    readHeadLine limit = fun source => (source.takeLine limit).andThen fun line source =>
      some ((headLine limit line).map fun text => (text, limit - line.length), source) := by
  funext source
  unfold readHeadLine Source.Reading.andThen
  split <;> rename_i htake <;> simp only [htake]

theorem firm_readHeadLine (limit : Nat) : Firm (readHeadLine limit) := by
  rw [readHeadLine_eq]
  exact (Source.firm_takeLine limit).andThen fun line => .pure _

/-- Read a header line, and go on with `next` after a header. -/
def readHeaderLine (limit : Nat) (headers : List (String × String))
    (next : Nat → String × String → Source → Source.Reading (List (String × String)))
    (source : Source) : Source.Reading (List (String × String)) :=
  (readHeadLine limit source).andThen fun (text, limit) source =>
    match readHeader? text with
    | .error fault => some (.error fault, source)
    | .ok none => some (.ok headers.reverse, source)
    | .ok (some header) => next limit header source

/-- What a line brings about depends on the line alone, until another one is read. -/
theorem firm_readHeaderLine {limit : Nat} {headers : List (String × String)}
    {next : Nat → String × String → Source → Source.Reading (List (String × String))}
    (h : ∀ limit header, Firm (next limit header)) :
    Firm (readHeaderLine limit headers next) := by
  refine (firm_readHeadLine limit).andThen fun (text, limit) => ?_
  dsimp only
  cases readHeader? text with
  | error fault => exact .pure _
  | ok found =>
    cases found with
    | none => exact .pure _
    | some header => exact h limit header

theorem readHeaders_eq (room limit : Nat) (headers : List (String × String)) :
    readHeaders room limit headers = readHeaderLine limit headers fun limit header source =>
      match room with
      | 0 => some (.error (malformed "too many headers"), source)
      | room + 1 => readHeaders room limit (header :: headers) source := by
  funext source
  rw [readHeaders]
  unfold readHeaderLine Source.Reading.andThen
  cases readHeadLine limit source with
  | none => rfl
  | some found =>
    obtain ⟨outcome, after⟩ := found
    cases outcome with
    | error fault => rfl
    | ok found =>
      obtain ⟨text, left⟩ := found
      cases hheader : readHeader? text with
      | error fault => simp only [hheader]
      | ok header => cases header <;> cases room <;> simp only [hheader]

theorem firm_readHeaders (room limit : Nat) (headers : List (String × String)) :
    Firm (readHeaders room limit headers) := by
  induction room generalizing limit headers with
  | zero =>
    rw [readHeaders_eq]
    exact firm_readHeaderLine fun limit header => .pure _
  | succ room ih =>
    rw [readHeaders_eq]
    exact firm_readHeaderLine fun limit header => ih limit (header :: headers)

/-- Go on behind the request line. -/
def readRequest (text : String) (limit : Nat) (source : Source) :
    Source.Reading (Option Request) :=
  if text.isEmpty then some (.ok none, source)
  else match requestLine? text with
    | none => some (.error (malformed "malformed request line"), source)
    | some (method, target, version) =>
      (readHeaders maxHeaders limit [] source).andThen fun headers source =>
        some (.ok (some { method, target, version, headers }), source)

theorem firm_readRequest (text : String) (limit : Nat) : Firm (readRequest text limit) := by
  unfold readRequest
  by_cases hempty : text.isEmpty
  · simp only [hempty, if_true]
    exact .pure _
  · simp only [hempty]
    cases requestLine? text with
    | none => exact .pure _
    | some line => exact (firm_readHeaders maxHeaders limit []).andThen fun headers => .pure _

theorem read_eq : Request.read = fun source =>
    (readHeadLine maxHead source).andThen fun found => readRequest found.1 found.2 := by
  funext source
  unfold Request.read readRequest Source.Reading.andThen
  cases readHeadLine maxHead source with
  | none => rfl
  | some found =>
    obtain ⟨outcome, after⟩ := found
    cases outcome with
    | error fault => rfl
    | ok found =>
      obtain ⟨text, left⟩ := found
      by_cases hempty : text.isEmpty
      · simp only [hempty, if_true]
      · simp only [hempty]
        cases requestLine? text with
        | none => rfl
        | some line =>
          dsimp only
          cases readHeaders maxHeaders left [] after with
          | none => rfl
          | some found =>
            obtain ⟨outcome, rest⟩ := found
            cases outcome <;> rfl

theorem Request.firm_read : Firm Request.read := by
  rw [read_eq]
  exact (firm_readHeadLine maxHead).andThen fun found => firm_readRequest found.1 found.2

end Http

end SocketGate
