import Mathlib.Data.List.Forall2
import SocketGate.Proofs.Http.Line
import SocketGate.Proofs.Text.Blank

/-!
# `SocketGate.Proofs.Http.Layout`: the lines of a request head

A request head is a request line, a line for every header, and a line on which nothing is left
once the carriage returns and line feeds at its end are taken off. `HeadText` holds such lines
for a request. A request is read exactly if its lines stand at the front of the stream, and what
stands behind them is left as it is, whatever it is.

* `readHeaders_of_lines` and `lines_of_readHeaders`: the header lines, both ways.
* `Request.read_of_headText` and `Request.headText_of_read`: the whole head, both ways.
-/

set_option autoImplicit false

namespace SocketGate.Http

/-! ### Kinds of lines -/

/-- A line that holds a header. -/
structure IsHeaderLine (header : String × String) (line : String) : Prop where
  isLine : Text.IsLine line
  filled : stripLineEnd line ≠ ""
  holds : readHeader (stripLineEnd line) = .ok header

/-- A line on which nothing is left without its end. -/
structure IsBlankLine (line : String) : Prop where
  isLine : Text.IsLine line
  blank : stripLineEnd line = ""

theorem IsHeaderLine.readHeader? {header : String × String} {line : String}
    (h : IsHeaderLine header line) : Http.readHeader? line = .ok (some header) := by
  simp [Http.readHeader?, h.isLine.ne_empty, h.filled, h.holds]
  rfl

theorem IsBlankLine.readHeader? {line : String} (h : IsBlankLine line) :
    Http.readHeader? line = .ok none := by
  simp [Http.readHeader?, h.isLine.ne_empty, h.blank]

/-- There is no header on nothing at all. -/
theorem ne_empty_of_readHeader? {line : String} {found : Option (String × String)}
    (h : readHeader? line = .ok found) : line ≠ "" := by
  rintro rfl
  simp [readHeader?] at h

theorem isHeaderLine_of_readHeader? {header : String × String} {line : String}
    (hline : Text.IsLine line) (h : readHeader? line = .ok (some header)) :
    IsHeaderLine header line := by
  by_cases hblank : stripLineEnd line = ""
  · simp [readHeader?, hline.ne_empty, hblank] at h
  · refine ⟨hline, hblank, ?_⟩
    cases hread : readHeader (stripLineEnd line) with
    | error fault => simp [readHeader?, hline.ne_empty, hblank, hread, Except.map] at h
    | ok found => simpa [readHeader?, hline.ne_empty, hblank, hread, Except.map] using h

theorem isBlankLine_of_readHeader? {line : String} (hline : Text.IsLine line)
    (h : readHeader? line = .ok none) : IsBlankLine line := by
  by_cases hblank : stripLineEnd line = ""
  · exact ⟨hline, hblank⟩
  · cases hread : readHeader (stripLineEnd line) <;>
      simp [readHeader?, hline.ne_empty, hblank, hread, Except.map] at h

/-- A header has no line feed, since its line has no other than the last character. -/
theorem IsHeaderLine.lineFeed_notMem {header : String × String} {line : String}
    (h : IsHeaderLine header line) : '\n' ∉ header.1.toList ∧ '\n' ∉ header.2.toList := by
  obtain ⟨front, hfront, rfl⟩ := h.isLine
  have hstrip : '\n' ∉ (stripLineEnd (front ++ "\n")).toList := by
    have hend : ∀ c ∈ ['\n'], (c == '\r' || c == '\n') = true := by simp
    obtain ⟨tail, htail, -⟩ :=
      Text.exists_dropEndWhile (fun c => c == '\r' || c == '\n') front.toList
    rw [stripLineEnd, String.toList_ofList, String.toList_append,
      show "\n".toList = ['\n'] from rfl, Text.dropEndWhile_append _ _ hend]
    intro hmem
    rw [htail] at hfront
    exact hfront (List.mem_append_left tail hmem)
  have hholds := h.holds
  unfold readHeader at hholds
  cases hsplit : Text.splitOnce? ':' (stripLineEnd (front ++ "\n")) with
  | none => simp [hsplit] at hholds
  | some parts =>
    obtain ⟨name, value⟩ := parts
    simp only [hsplit, Except.ok.injEq] at hholds
    rw [Text.eq_of_splitOnce? hsplit, List.mem_append, List.mem_cons, not_or, not_or] at hstrip
    rw [← hholds]
    exact ⟨fun hmem => hstrip.1 (Text.mem_of_mem_trim hmem),
      fun hmem => hstrip.2.2 (Text.mem_of_mem_trim hmem)⟩

/-! ### Header lines -/

/-- The bytes of some lines. -/
def linesBytes (lines : List String) : Bytes := lines.flatMap Bytes.ofText

@[simp] theorem linesBytes_cons (line : String) (lines : List String) :
    linesBytes (line :: lines) = Bytes.ofText line ++ linesBytes lines := rfl

/-- The headers on some lines with a blank line behind them are read, behind those that were read
before, and what stands behind the blank line is left. -/
theorem readHeaders_of_lines {found : List (String × String)} {lines : List String}
    {blank : String} (h : List.Forall₂ IsHeaderLine found lines) (hblank : IsBlankLine blank)
    (room left : Nat) (before : List (String × String)) (rest : Bytes) (ending : Ending)
    (hroom : found.length ≤ room) :
    readHeaders room ((linesBytes (lines ++ [blank])).length + left) before
        ⟨linesBytes (lines ++ [blank]) ++ rest, ending⟩ =
      some (.ok (before.reverse ++ found), ⟨rest, ending⟩) := by
  -- The limit is what the lines still to come take, and what is left behind the blank one.
  induction h generalizing room before with
  | nil =>
    have hread := readHeadLine_of_line hblank.isLine left rest ending
    rw [List.nil_append, readHeaders, linesBytes, List.flatMap_singleton, hread]
    simp only [hblank.readHeader?, List.append_nil]
  | @cons header line found lines hheader hlines ih =>
    obtain ⟨more, rfl⟩ : ∃ more, room = more + 1 :=
      ⟨room - 1, by rw [List.length_cons] at hroom; omega⟩
    have hread := readHeadLine_of_line hheader.isLine
      ((linesBytes (lines ++ [blank])).length + left) (linesBytes (lines ++ [blank]) ++ rest) ending
    rw [List.cons_append, linesBytes_cons, List.length_append, Nat.add_assoc, List.append_assoc,
      readHeaders, hread]
    simp only [hheader.readHeader?]
    rw [ih more (header :: before) (Nat.le_of_succ_le_succ hroom), List.reverse_cons,
      List.append_assoc, List.singleton_append]

/-- What is read of the headers begins with a line. -/
theorem line_of_readHeaderLine {limit : Nat} {before headers : List (String × String)}
    {next : Nat → String × String → Source → Source.Reading (List (String × String))}
    {source after : Source}
    (h : readHeaderLine limit before next source = some (.ok headers, after)) :
    ∃ line left middle, Text.IsLine line ∧ limit = (Bytes.ofText line).length + left ∧
      source = ⟨Bytes.ofText line ++ middle.bytes, middle.ending⟩ ∧
      (IsBlankLine line ∧ headers = before.reverse ∧ after = middle ∨
        ∃ header, IsHeaderLine header line ∧
          next left header middle = some (.ok headers, after)) := by
  obtain ⟨⟨line, left⟩, middle, hread, hnext⟩ := Source.Reading.andThen_eq_ok_iff.mp h
  cases hheader : readHeader? line with
  | error fault => simp [hheader] at hnext
  | ok found =>
    obtain ⟨hline, hlimit, hsource⟩ :=
      (headLineRead_of_readHeadLine hread).of_ne_empty (ne_empty_of_readHeader? hheader)
    refine ⟨line, left, middle, hline, hlimit, hsource, ?_⟩
    cases found with
    | none =>
      simp only [hheader, Option.some.injEq, Prod.mk.injEq, Except.ok.injEq] at hnext
      exact .inl ⟨isBlankLine_of_readHeader? hline hheader, hnext.1.symm, hnext.2.symm⟩
    | some header =>
      simp only [hheader] at hnext
      exact .inr ⟨header, isHeaderLine_of_readHeader? hline hheader, hnext⟩

/-- Nothing else is read as headers. -/
theorem lines_of_readHeaders {room limit : Nat} {before headers : List (String × String)}
    {source after : Source}
    (h : readHeaders room limit before source = some (.ok headers, after)) :
    ∃ found lines blank left, headers = before.reverse ++ found ∧
      List.Forall₂ IsHeaderLine found lines ∧ IsBlankLine blank ∧ found.length ≤ room ∧
      limit = (linesBytes (lines ++ [blank])).length + left ∧
      source = ⟨linesBytes (lines ++ [blank]) ++ after.bytes, after.ending⟩ := by
  induction room generalizing limit before source with
  | zero =>
    rw [readHeaders_eq] at h
    obtain ⟨line, left, middle, hline, rfl, rfl, ⟨hblank, rfl, rfl⟩ | ⟨header, -, hnext⟩⟩ :=
      line_of_readHeaderLine h
    · exact ⟨[], [], line, left, by simp, .nil, hblank, Nat.le_refl _, by simp [linesBytes],
        by simp [linesBytes]⟩
    · simp at hnext
  | succ room ih =>
    rw [readHeaders_eq] at h
    obtain ⟨line, left, middle, hline, rfl, rfl, ⟨hblank, rfl, rfl⟩ | ⟨header, hheader, hnext⟩⟩ :=
      line_of_readHeaderLine h
    · exact ⟨[], [], line, left, by simp, .nil, hblank, Nat.zero_le _, by simp [linesBytes],
        by simp [linesBytes]⟩
    · obtain ⟨found, lines, blank, behind, rfl, hlines, hblank, hroom, rfl, rfl⟩ := ih hnext
      refine ⟨header :: found, line :: lines, blank, behind, ?_, .cons hheader hlines, hblank,
        Nat.succ_le_succ hroom, ?_, ?_⟩
      · rw [List.reverse_cons, List.append_assoc, List.singleton_append]
      · rw [List.cons_append, linesBytes_cons, List.length_append, Nat.add_assoc]
      · rw [List.cons_append, linesBytes_cons, List.append_assoc]

/-! ### Heads -/

/-- The lines of a request head. -/
structure HeadText (request : Request) where
  /-- The request line. -/
  first : String
  /-- The lines of the headers. -/
  lines : List String
  /-- The line behind them. -/
  blank : String
  isFirst : Text.IsLine first
  parts : requestLine? first = some (request.method, request.target, request.version)
  headers : List.Forall₂ IsHeaderLine request.headers lines
  isBlank : IsBlankLine blank
  room : request.headers.length ≤ 100
  size : (linesBytes (first :: lines ++ [blank])).length ≤ 16384

namespace HeadText

variable {request : Request}

/-- The bytes of a head. -/
def bytes (head : HeadText request) : Bytes :=
  linesBytes (head.first :: head.lines ++ [head.blank])

/-- No line of a header is blank. -/
theorem filled (head : HeadText request) : ∀ line ∈ head.lines, stripLineEnd line ≠ "" := by
  have hlines := head.headers.flip.imp fun line header h => And.intro h.filled h
  exact ((List.forall₂_and_left _ _).mp hlines).1

/-- No header has a line feed. -/
theorem lineFeed_notMem (head : HeadText request) : ∀ header ∈ request.headers,
    '\n' ∉ header.1.toList ∧ '\n' ∉ header.2.toList := by
  have hlines := head.headers.imp fun header line h => And.intro h.lineFeed_notMem h
  exact ((List.forall₂_and_left _ _).mp hlines).1

end HeadText

namespace Request

/-- A request is read off its lines, and what stands behind them is left. -/
theorem read_of_headText {request : Request} (head : HeadText request) (rest : Bytes)
    (ending : Ending) :
    read ⟨head.bytes ++ rest, ending⟩ = some (.ok (some request), ⟨rest, ending⟩) := by
  obtain ⟨first, lines, blank, hfirst, hparts, hheaders, hblank, hroom, hsize⟩ := head
  obtain ⟨spare, hspare⟩ : ∃ spare, maxHead =
      (Bytes.ofText first).length + ((linesBytes (lines ++ [blank])).length + spare) := by
    rw [List.cons_append, linesBytes_cons, List.length_append] at hsize
    exact ⟨16384 - (Bytes.ofText first).length - (linesBytes (lines ++ [blank])).length, by
      rw [maxHead]
      omega⟩
  have hread := readHeadLine_of_line hfirst ((linesBytes (lines ++ [blank])).length + spare)
    (linesBytes (lines ++ [blank]) ++ rest) ending
  have hlines := readHeaders_of_lines hheaders hblank maxHeaders spare [] rest ending hroom
  have hfilled : first.isEmpty = false := by simpa using hfirst.ne_empty
  simp only [read, HeadText.bytes, List.cons_append, linesBytes_cons, List.append_assoc, hspare,
    hread, hfilled, hparts, hlines, List.reverse_nil, List.nil_append]
  rfl

/-- A request is its request line and what is read behind that. -/
theorem parts_of_readRequest {request : Request} {first : String} {left : Nat}
    {source after : Source} (h : readRequest first left source = some (.ok (some request), after)) :
    first ≠ "" ∧ requestLine? first = some (request.method, request.target, request.version) ∧
      readHeaders maxHeaders left [] source = some (.ok request.headers, after) := by
  unfold readRequest at h
  by_cases hempty : first.isEmpty
  · simp [hempty] at h
  · rw [if_neg hempty] at h
    refine ⟨by simpa using hempty, ?_⟩
    cases hparts : requestLine? first with
    | none => simp [hparts] at h
    | some parts =>
      simp only [hparts] at h
      obtain ⟨headers, middle, hheaders, hrequest⟩ := Source.Reading.andThen_eq_ok_iff.mp h
      cases hrequest
      exact ⟨rfl, hheaders⟩

/-- Nothing else is read as a request. -/
theorem headText_of_read {request : Request} {source after : Source}
    (h : read source = some (.ok (some request), after)) :
    ∃ head : HeadText request, source = ⟨head.bytes ++ after.bytes, after.ending⟩ := by
  rw [read_eq] at h
  obtain ⟨⟨first, left⟩, middle, hread, hrequest⟩ := Source.Reading.andThen_eq_ok_iff.mp h
  obtain ⟨hempty, hparts, hheaders⟩ := parts_of_readRequest hrequest
  obtain ⟨hfirst, hlimit, rfl⟩ := (headLineRead_of_readHeadLine hread).of_ne_empty hempty
  obtain ⟨found, lines, blank, spare, hfound, hlines, hblank, hroom, rfl, rfl⟩ :=
    lines_of_readHeaders hheaders
  obtain rfl : request.headers = found := hfound
  have hsize : (linesBytes (first :: lines ++ [blank])).length ≤ 16384 := by
    rw [List.cons_append, linesBytes_cons, List.length_append]
    rw [maxHead] at hlimit
    omega
  refine ⟨⟨first, lines, blank, hfirst, hparts, hlines, hblank, hroom, hsize⟩, ?_⟩
  rw [HeadText.bytes, List.cons_append, linesBytes_cons, List.append_assoc]

end Request

end SocketGate.Http
