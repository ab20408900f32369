import SocketGate.Http.Response
import SocketGate.Proofs.Text.Utf8

/-!
# `SocketGate.Proofs.Http.Response`: the lines of a response head

A response head is written line by line, and read by cutting it at each CR LF. The two agree if no
line has a line feed in it. A carriage return does no harm, not even at the end of a line, since it
is no CR LF without a line feed behind it.

* `cutLines_append`: a piece without a line feed ends at the next CR LF.
* `cutLines_responseHead`: the lines of a response head.
-/

set_option autoImplicit false

namespace SocketGate.Http

/-- The pieces of a byte string between the CR LFs in it: one piece more than there are such
pairs. -/
def cutLines : Bytes → List Bytes
  | [] => [[]]
  | 0x0D :: 0x0A :: rest => [] :: cutLines rest
  | byte :: rest =>
    match cutLines rest with
    | [] => [[byte]]
    | piece :: pieces => (byte :: piece) :: pieces

/-- A byte without a line feed behind it is part of the first piece. -/
theorem cutLines_cons {byte : UInt8} {rest piece : Bytes} {pieces : List Bytes}
    (hbehind : ∀ next ∈ rest.head?, next ≠ 0x0A) (hrest : cutLines rest = piece :: pieces) :
    cutLines (byte :: rest) = (byte :: piece) :: pieces := by
  rw [cutLines, hrest]
  rintro more - rfl
  exact hbehind 0x0A rfl rfl

/-- A piece without a line feed ends at the next CR LF. -/
theorem cutLines_append {line : Bytes} (rest : Bytes) (h : 0x0A ∉ line) :
    cutLines (line ++ 0x0D :: 0x0A :: rest) = line :: cutLines rest := by
  induction line with
  | nil => rfl
  | cons byte line ih =>
    rw [List.mem_cons, not_or] at h
    -- What is behind the byte is a byte of the line, or the carriage return.
    refine cutLines_cons ?_ (ih h.2)
    intro next hnext
    cases line with
    | nil =>
      obtain rfl : 0x0D = next := Option.some.inj hnext
      decide
    | cons other line =>
      obtain rfl : other = next := Option.some.inj hnext
      rintro rfl
      exact h.2 List.mem_cons_self

/-- A response head begins with its first line. -/
theorem responseHead_cons (line : String) (lines : List String) :
    responseHead (line :: lines) = Bytes.ofText line ++ 0x0D :: 0x0A :: responseHead lines := by
  rw [responseHead, List.map_cons, String.join_cons, String.append_assoc, Bytes.ofText_append,
    Bytes.ofText_append, List.append_assoc]
  rfl

/-- A response head is cut into its lines, the empty line behind them, and nothing behind that. -/
theorem cutLines_responseHead {lines : List String} (h : ∀ line ∈ lines, '\n' ∉ line.toList) :
    cutLines (responseHead lines) = (lines ++ ["", ""]).map Bytes.ofText := by
  induction lines with
  | nil => rfl
  | cons line lines ih =>
    have hline := Bytes.lineFeed_mem_ofText (h line List.mem_cons_self)
    have hrest := ih fun other hother => h other (List.mem_cons_of_mem line hother)
    rw [responseHead_cons, cutLines_append _ hline, hrest]
    rfl

/-- No line feed is left in the lines of a response head. -/
theorem lineFeed_notMem_of_mem_cutLines {lines : List String}
    (h : ∀ line ∈ lines, '\n' ∉ line.toList) :
    ∀ piece ∈ cutLines (responseHead lines), 0x0A ∉ piece := by
  rw [cutLines_responseHead h]
  intro piece hpiece
  obtain ⟨line, hline, rfl⟩ := List.mem_map.mp hpiece
  apply Bytes.lineFeed_mem_ofText
  rcases List.mem_append.mp hline with hgiven | hempty
  · exact h line hgiven
  · obtain rfl : line = "" := by simpa using hempty
    decide

end SocketGate.Http
