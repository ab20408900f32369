import Mathlib.Data.List.Basic
import Mathlib.Data.List.TakeWhile
import SocketGate.Proofs.Bytes
import SocketGate.Proofs.Http.Head
import SocketGate.Proofs.Text.Utf8

/-!
# `SocketGate.Proofs.Http.Line`: the lines of a head

A line of a head is a text whose only line feed is its last character. `LineTaken` lists what can
come of taking a line off a stream: it is there, or the limit cuts it off, or the stream ends or
fails inside it. Only the first of these is a line of a head, and besides it only the end of a
stream without any byte is no failure.

* `Source.lineTaken_of_takeLine`: what comes of taking a line, in four cases.
* `Http.headLine_eq_ok_iff`: which bytes are read as a text.
* `Http.readHeadLine_eq_ok_iff`: which lines are read, and how far that reaches.
-/

set_option autoImplicit false

namespace SocketGate

/-! ### Taking a line -/

namespace Source

/-- A line that ends within the limit is taken off with its line feed. -/
theorem takeLine_of_line {limit : Nat} {line : Bytes} (rest : Bytes) (ending : Ending)
    (hline : 0x0A ∉ line) (hlimit : line.length + 1 ≤ limit) :
    takeLine limit ⟨line ++ 0x0A :: rest, ending⟩ =
      some (.ok (line ++ [0x0A]), ⟨rest, ending⟩) := by
  obtain ⟨more, hmore⟩ : ∃ more, limit = line.length + (more + 1) :=
    ⟨limit - line.length - 1, by omega⟩
  have hwindow : (line ++ 0x0A :: rest).take limit = line ++ 0x0A :: rest.take more := by
    rw [hmore, List.take_length_add_append, List.take_succ_cons]
  have hfront : (line ++ 0x0A :: rest.take more).takeWhile (· ≠ 0x0A) = line := by
    have hall : ∀ byte ∈ line, decide (byte ≠ 0x0A) = true := by
      intro byte hbyte
      rw [decide_eq_true_eq]
      rintro rfl
      exact hline hbyte
    rw [List.takeWhile_append_of_pos hall]
    simp
  have hshort : line.length < (line ++ 0x0A :: rest.take more).length := by
    rw [List.length_append, List.length_cons]
    omega
  have hdrop : (line ++ 0x0A :: rest).drop (line.length + 1) = rest := by
    rw [List.drop_length_add_append]
    rfl
  simp only [takeLine, hwindow, hfront, if_pos hshort, hdrop]

/-- A line feed within the limit is the end of a line that fits. -/
theorem exists_line_of_mem {limit : Nat} {bytes : Bytes} (h : 0x0A ∈ bytes.take limit) :
    ∃ line rest, bytes = line ++ 0x0A :: rest ∧ 0x0A ∉ line ∧ line.length < limit := by
  obtain ⟨line, rest, hwindow, hfeed⟩ := List.eq_append_cons_of_mem h
  refine ⟨line, rest ++ bytes.drop limit, ?_, hfeed, ?_⟩
  · calc bytes = bytes.take limit ++ bytes.drop limit := (List.take_append_drop limit bytes).symm
      _ = line ++ 0x0A :: (rest ++ bytes.drop limit) := by
        rw [hwindow, List.append_assoc, List.cons_append]
  · have hlength := congrArg List.length hwindow
    rw [List.length_take, List.length_append, List.length_cons] at hlength
    omega

/-- Without a line feed within the limit, the limit or the end of the stream decides. -/
theorem takeLine_of_no_line {limit : Nat} {source : Source}
    (h : 0x0A ∉ source.bytes.take limit) :
    takeLine limit source =
      if limit ≤ source.bytes.length then
        some (.ok (source.bytes.take limit), ⟨source.bytes.drop limit, source.ending⟩)
      else match source.ending with
        | .unfinished => none
        | .ended => some (.ok source.bytes, ⟨[], .ended⟩)
        | .failed fault => some (.error fault, ⟨[], .ended⟩) := by
  have hall : (source.bytes.take limit).takeWhile (· ≠ 0x0A) = source.bytes.take limit := by
    rw [List.takeWhile_eq_self_iff]
    intro byte hbyte
    rw [decide_eq_true_eq]
    rintro rfl
    exact h hbyte
  unfold takeLine
  simp only [hall, if_neg (Nat.lt_irrefl _), List.length_take]
  by_cases hfull : limit ≤ source.bytes.length
  · rw [if_pos (by omega), if_pos hfull]
  · rw [if_neg (by omega), if_neg hfull, List.take_of_length_le (by omega)]
    cases hending : source.ending <;> rfl

/-- What comes of taking a line off a stream. -/
inductive LineTaken (limit : Nat) : Source → Except IoFault Bytes → Source → Prop where
  /-- The line is there. -/
  | whole (line rest : Bytes) (ending : Ending) (feed : 0x0A ∉ line) (fits : line.length < limit) :
      LineTaken limit ⟨line ++ 0x0A :: rest, ending⟩ (.ok (line ++ [0x0A])) ⟨rest, ending⟩
  /-- The limit cuts it off. -/
  | cut (line rest : Bytes) (ending : Ending) (feed : 0x0A ∉ line) (full : line.length = limit) :
      LineTaken limit ⟨line ++ rest, ending⟩ (.ok line) ⟨rest, ending⟩
  /-- The stream ends inside it, or before it. -/
  | short (line : Bytes) (feed : 0x0A ∉ line) (fits : line.length < limit) :
      LineTaken limit ⟨line, .ended⟩ (.ok line) ⟨[], .ended⟩
  /-- The stream fails inside it. -/
  | broken (line : Bytes) (fault : IoFault) (feed : 0x0A ∉ line) (fits : line.length < limit) :
      LineTaken limit ⟨line, .failed fault⟩ (.error fault) ⟨[], .ended⟩

/-- Every line that is taken is one of these. -/
theorem lineTaken_of_takeLine {limit : Nat} {source after : Source}
    {outcome : Except IoFault Bytes} (h : takeLine limit source = some (outcome, after)) :
    LineTaken limit source outcome after := by
  obtain ⟨bytes, ending⟩ := source
  by_cases hline : 0x0A ∈ bytes.take limit
  · obtain ⟨line, rest, rfl, hfeed, hfits⟩ := exists_line_of_mem hline
    rw [takeLine_of_line rest ending hfeed hfits] at h
    cases h
    exact .whole line rest ending hfeed hfits
  · rw [takeLine_of_no_line hline] at h
    by_cases hfull : limit ≤ bytes.length
    · rw [if_pos hfull] at h
      cases h
      have hlength : (bytes.take limit).length = limit := List.length_take_of_le hfull
      have hcut := LineTaken.cut (bytes.take limit) (bytes.drop limit) ending hline hlength
      rwa [List.take_append_drop] at hcut
    · rw [if_neg hfull] at h
      rw [List.take_of_length_le (by omega)] at hline
      cases ending with
      | unfinished => cases h
      | ended =>
        cases h
        exact .short bytes hline (by omega)
      | failed fault =>
        cases h
        exact .broken bytes fault hline (by omega)

/-- A line is waited for only while the stream goes on and the limit has not been reached. -/
theorem isSome_takeLine {limit : Nat} {source : Source}
    (h : source.ending = .unfinished → limit ≤ source.bytes.length) :
    (takeLine limit source).isSome := by
  obtain ⟨bytes, ending⟩ := source
  by_cases hline : 0x0A ∈ bytes.take limit
  · obtain ⟨line, rest, rfl, hfeed, hfits⟩ := exists_line_of_mem hline
    rw [takeLine_of_line rest ending hfeed hfits]
    rfl
  · rw [takeLine_of_no_line hline]
    by_cases hfull : limit ≤ bytes.length
    · rw [if_pos hfull]
      rfl
    · rw [if_neg hfull]
      cases ending with
      | unfinished => exact absurd (h rfl) hfull
      | ended => rfl
      | failed fault => rfl

end Source

/-! ### Texts of one line -/

namespace Text

/-- A text whose only line feed is its last character. -/
def IsLine (line : String) : Prop := ∃ front, '\n' ∉ front.toList ∧ line = front ++ "\n"

theorem IsLine.ne_empty {line : String} (h : IsLine line) : line ≠ "" := by
  obtain ⟨front, -, rfl⟩ := h
  simp

/-- The bytes of a line end in the only line feed among them. -/
theorem IsLine.ofText {line : String} (h : IsLine line) :
    ∃ front, 0x0A ∉ front ∧ Bytes.ofText line = front ++ [0x0A] := by
  obtain ⟨front, hfront, rfl⟩ := h
  exact ⟨Bytes.ofText front, Bytes.lineFeed_mem_ofText hfront, Bytes.ofText_append front "\n"⟩

/-- A text whose bytes are those of a line is a line. -/
theorem isLine_of_ofText {text : String} {front : Bytes} (hfront : 0x0A ∉ front)
    (h : Bytes.ofText text = front ++ [0x0A]) : IsLine text := by
  have hmem : '\n' ∈ text.toList := by
    by_contra hnone
    exact Bytes.lineFeed_mem_ofText hnone (by simp [h])
  obtain ⟨before, behind, hchars, hbefore⟩ := List.eq_append_cons_of_mem hmem
  have htext : text = String.ofList before ++ "\n" ++ String.ofList behind := by
    apply String.toList_inj.mp
    simp [hchars]
  have hbytes : front ++ 0x0A :: [] =
      Bytes.ofText (String.ofList before) ++ 0x0A :: Bytes.ofText (String.ofList behind) := by
    rw [← h, htext]
    simp only [Bytes.ofText_append, List.append_assoc]
    rfl
  -- The first line feed of the bytes is that of the text, and nothing comes after it.
  obtain ⟨-, -, hbehind⟩ :=
    (List.append_cons_inj_of_notMem hfront List.not_mem_nil).mp hbytes
  have hempty : String.ofList behind = "" := Bytes.ofText_injective hbehind.symm
  refine ⟨String.ofList before, by simpa using hbefore, ?_⟩
  rw [htext, hempty, String.append_empty]

end Text

/-! ### Lines of a head -/

namespace Http

/-- A line is read as the text that it is. -/
theorem headLine_ofText {line : String} (h : Text.IsLine line) (limit : Nat) :
    headLine limit (Bytes.ofText line) = .ok line := by
  obtain ⟨front, -, hbytes⟩ := h.ofText
  have hlast : (Bytes.ofText line).getLast? = some 0x0A := by rw [hbytes, List.getLast?_concat]
  rw [headLine, if_pos hlast, Text.Utf8.fault?_ofText, Bytes.toText?_ofText]
  rfl

/-- Only UTF-8 is read as a text, and only with a line feed at its end unless there is nothing at
all. -/
theorem ofText_of_headLine {limit : Nat} {line : Bytes} {text : String}
    (h : headLine limit line = .ok text) :
    Bytes.ofText text = line ∧ (line.getLast? = some 0x0A ∨ line = [] ∧ limit ≠ 0) := by
  unfold headLine at h
  cases hfault : Text.Utf8.fault? line with
  | some fault => simp [hfault] at h
  | none =>
    obtain ⟨found, rfl⟩ := (Text.Utf8.fault?_eq_none_iff line).mp hfault
    simp only [hfault, Bytes.toText?_ofText, Option.getD_some] at h
    by_cases hlast : (Bytes.ofText found).getLast? = some 0x0A
    · rw [if_pos hlast] at h
      cases h
      exact ⟨rfl, .inl hlast⟩
    · rw [if_neg hlast] at h
      by_cases hfull : (Bytes.ofText found).length = limit
      · simp [hfull] at h
      · rw [if_neg hfull] at h
        by_cases hnone : (Bytes.ofText found).isEmpty
        · rw [if_pos hnone] at h
          cases h
          have hempty := List.isEmpty_iff.mp hnone
          rw [hempty] at hfull ⊢
          exact ⟨rfl, .inr ⟨rfl, fun hzero => hfull hzero.symm⟩⟩
        · rw [if_neg hnone] at h
          cases h

/-- A line that fits is read, and its length is taken off the limit. -/
theorem readHeadLine_of_line {line : String} (h : Text.IsLine line) (left : Nat) (rest : Bytes)
    (ending : Ending) :
    readHeadLine ((Bytes.ofText line).length + left) ⟨Bytes.ofText line ++ rest, ending⟩ =
      some (.ok (line, left), ⟨rest, ending⟩) := by
  obtain ⟨front, hfront, hbytes⟩ := h.ofText
  have htake : Source.takeLine ((Bytes.ofText line).length + left)
      ⟨Bytes.ofText line ++ rest, ending⟩ = some (.ok (Bytes.ofText line), ⟨rest, ending⟩) := by
    have hfits : front.length + 1 ≤ (front ++ [(0x0A : UInt8)]).length + left := by
      rw [List.length_append, List.length_singleton]
      omega
    rw [hbytes, List.append_assoc, List.singleton_append]
    exact Source.takeLine_of_line rest ending hfront hfits
  simp only [readHeadLine, htake, headLine_ofText h, Nat.add_sub_cancel_left]
  rfl

/-- What a line of a head is read off: the line, or a stream that has ended. -/
inductive HeadLineRead : (limit : Nat) → Source → (line : String) → (left : Nat) → Source → Prop
    where
  | line {line : String} (isLine : Text.IsLine line) (left : Nat) (rest : Bytes)
      (ending : Ending) :
      HeadLineRead ((Bytes.ofText line).length + left) ⟨Bytes.ofText line ++ rest, ending⟩ line
        left ⟨rest, ending⟩
  | nothing (left : Nat) : HeadLineRead left ⟨[], .ended⟩ "" left ⟨[], .ended⟩

/-- Nothing else is read as a line. -/
theorem headLineRead_of_readHeadLine {limit left : Nat} {source after : Source} {line : String}
    (h : readHeadLine limit source = some (.ok (line, left), after)) :
    HeadLineRead limit source line left after := by
  rw [readHeadLine_eq] at h
  obtain ⟨bytes, middle, htake, hline⟩ := Source.Reading.andThen_eq_ok_iff.mp h
  cases hfound : headLine limit bytes with
  | error fault => simp [hfound, Except.map] at hline
  | ok text =>
    simp only [hfound, Except.map] at hline
    cases hline
    obtain ⟨htext, hend⟩ := ofText_of_headLine hfound
    -- A failure of the stream is no line, so three of the four cases are left.
    cases Source.lineTaken_of_takeLine htake with
    | whole front rest ending feed fits =>
      have hlimit : limit = (Bytes.ofText line).length + (limit - (front ++ [0x0A]).length) := by
        rw [htext, List.length_append, List.length_singleton]
        omega
      have hread := HeadLineRead.line (Text.isLine_of_ofText feed htext)
        (limit - (front ++ [0x0A]).length) rest ending
      rw [← hlimit, htext, List.append_assoc, List.singleton_append] at hread
      exact hread
    | cut front rest ending feed full =>
      -- A line that the limit cuts off has no line feed, and is not empty either.
      rcases hend with hlast | ⟨rfl, hpositive⟩
      · exact absurd (List.mem_of_getLast? hlast) feed
      · exact absurd full.symm hpositive
    | short front feed fits =>
      rcases hend with hlast | ⟨rfl, -⟩
      · exact absurd (List.mem_of_getLast? hlast) feed
      · obtain rfl : line = "" := Bytes.ofText_injective htext
        exact .nothing limit

/-- A line with something on it is no end of a stream. -/
theorem HeadLineRead.of_ne_empty {limit left : Nat} {source after : Source} {line : String}
    (h : HeadLineRead limit source line left after) (hline : line ≠ "") :
    Text.IsLine line ∧ limit = (Bytes.ofText line).length + left ∧
      source = ⟨Bytes.ofText line ++ after.bytes, after.ending⟩ := by
  cases h with
  | line isLine left rest ending => exact ⟨isLine, rfl, rfl⟩
  | nothing left => exact absurd rfl hline

/-- A line with nothing on it is the end of a stream. -/
theorem HeadLineRead.of_empty {limit left : Nat} {source after : Source} {line : String}
    (h : HeadLineRead limit source line left after) (hline : line = "") :
    source = ⟨[], .ended⟩ := by
  cases h with
  | line isLine left rest ending => exact absurd hline isLine.ne_empty
  | nothing left => rfl

end Http

end SocketGate
