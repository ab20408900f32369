import SocketGate.Proofs.Http.Layout
import SocketGate.Proofs.Text.Blank

/-!
# `SocketGate.Proofs.Http.RoundTrip`: request heads are read back as they were written

`Request.toBytes` writes a request head: the request line, a line for every header, and an empty
line, each ended by CR LF. `Request.Plain` says what is asked of the parts of a request so that
they can be told apart in the lines, and that the head is within the limits. A carriage return
may stand inside a header, its value may have colons, and both parts of it may be empty.

Heads that stand one after the other are read one after the other, and nothing behind the last
one is touched.

* `Http.isHeaderLine_headerLine`: a header comes back from its line.
* `Http.Request.exists_headText`: the lines of a request.
* `Http.Request.read_toBytes`: a head comes back from its bytes.
* `Http.Request.readMany_toBytes`: and so do any number of them.
-/

set_option autoImplicit false

namespace SocketGate

namespace Http

/-! ### Lines -/

/-- A line of a head as it stands in a stream. -/
def lineBytes (line : String) : Bytes := Bytes.ofText (line ++ "\r\n")

/-- A text without a line feed is a line with CR LF behind it. -/
theorem isLine_crlf {line : String} (h : '\n' ∉ line.toList) : Text.IsLine (line ++ "\r\n") := by
  refine ⟨line ++ "\r", by simpa using h, ?_⟩
  rw [show "\r\n" = "\r" ++ "\n" from rfl, ← String.append_assoc]

/-- What stands at the end of a line is no part of it. -/
theorem stripLineEnd_of_last {line : String}
    (h : ∀ c ∈ line.toList.getLast?, Text.isBlank c = false) :
    stripLineEnd (line ++ "\r\n") = line := by
  have hends : ∀ c ∈ line.toList.getLast?, (c == '\r' || c == '\n') = false := by
    intro c hc
    have hblank := h c hc
    rw [Bool.or_eq_false_iff, beq_eq_false_iff_ne, beq_eq_false_iff_ne]
    constructor <;> rintro rfl <;> exact absurd hblank (by decide)
  have hlineEnd : ∀ c ∈ "\r\n".toList, (c == '\r' || c == '\n') = true := by simp
  rw [stripLineEnd, String.toList_append, Text.dropEndWhile_append _ _ hlineEnd,
    Text.dropEndWhile_of_last hends, String.ofList_toList]

/-! ### Headers -/

/-- A header can be told apart in its line. -/
structure PlainHeader (header : String × String) : Prop where
  name : Text.IsTrimmed header.1
  value : Text.IsTrimmed header.2
  noLineFeed : '\n' ∉ header.1.toList ∧ '\n' ∉ header.2.toList
  noColon : ':' ∉ header.1.toList

instance (header : String × String) : Decidable (PlainHeader header) :=
  decidable_of_iff (Text.IsTrimmed header.1 ∧ Text.IsTrimmed header.2 ∧
      ('\n' ∉ header.1.toList ∧ '\n' ∉ header.2.toList) ∧ ':' ∉ header.1.toList)
    ⟨fun h => ⟨h.1, h.2.1, h.2.2.1, h.2.2.2⟩, fun h => ⟨h.name, h.value, h.noLineFeed, h.noColon⟩⟩

/-- The line of a header. -/
def headerLine (header : String × String) : String := header.1 ++ ":" ++ header.2

/-- A header comes back from its line. -/
theorem readHeader?_headerLine {header : String × String} (h : PlainHeader header) :
    readHeader? (headerLine header ++ "\r\n") = .ok (some header) := by
  have hnonempty : (headerLine header ++ "\r\n").isEmpty = false := by
    simp [headerLine]
  have hline : (headerLine header).isEmpty = false := by
    simp [headerLine]
  -- The line ends in the value, or in the colon if the value is empty.
  have hlast : ∀ c ∈ (headerLine header).toList.getLast?, Text.isBlank c = false := by
    intro c hc
    rw [headerLine, String.toList_append, List.getLast?_append] at hc
    cases hvalue : header.2.toList.getLast? with
    | some last =>
      rw [hvalue] at hc
      exact h.value.last c (by rw [hvalue]; exact hc)
    | none =>
      rw [hvalue, String.toList_append, List.getLast?_append] at hc
      obtain rfl : ':' = c := Option.some.inj hc
      decide
  have hsplit : Text.splitOnce? ':' (headerLine header) = some (header.1, header.2) :=
    Text.splitOnce?_append header.2 h.noColon
  rw [readHeader?, hnonempty, if_neg (by decide), stripLineEnd_of_last hlast]
  simp only [hline, readHeader, hsplit, Text.trim_of_trimmed h.name, Text.trim_of_trimmed h.value]
  rfl

/-- The empty line is the end of the headers. -/
theorem readHeader?_empty : readHeader? ("" ++ "\r\n") = .ok none := by
  decide

/-- The header lines of a head and the empty line behind them. -/
def headerBytes (headers : List (String × String)) : Bytes :=
  headers.flatMap (lineBytes ∘ headerLine) ++ lineBytes ""

/-- A header stands on its line. -/
theorem isHeaderLine_headerLine {header : String × String} (h : PlainHeader header) :
    IsHeaderLine header (headerLine header ++ "\r\n") := by
  have hfeed : '\n' ∉ (headerLine header).toList := by
    simp [headerLine, h.noLineFeed]
  exact isHeaderLine_of_readHeader? (isLine_crlf hfeed) (readHeader?_headerLine h)

/-- The header lines are lines. -/
theorem headerBytes_eq (headers : List (String × String)) :
    headerBytes headers =
      linesBytes ((headers.map fun header => headerLine header ++ "\r\n") ++ ["" ++ "\r\n"]) := by
  rw [headerBytes, linesBytes, List.flatMap_append, List.flatMap_map, List.flatMap_singleton]
  rfl

/-! ### Heads -/

namespace Request

/-- The request line. -/
def firstLine (request : Request) : String :=
  request.method ++ " " ++ request.target ++ " " ++ request.version

/-- A request head as it stands in a stream. -/
def toBytes (request : Request) : Bytes :=
  lineBytes request.firstLine ++ headerBytes request.headers

/-- The parts of a request can be told apart in its head, and the head is within the limits. -/
structure Plain (request : Request) : Prop where
  method : Text.IsWord request.method
  target : Text.IsWord request.target
  version : Text.IsWord request.version
  headers : ∀ header ∈ request.headers, PlainHeader header
  room : request.headers.length ≤ 100
  size : request.toBytes.length ≤ 16384

/-- The three words of a request line come back from it. -/
theorem requestLine?_firstLine {request : Request} (h : request.Plain) :
    requestLine? (request.firstLine ++ "\r\n") =
      some (request.method, request.target, request.version) := by
  have hline : request.firstLine ++ "\r\n" = String.ofList (request.method.toList ++ ' ' ::
      (request.target.toList ++ ' ' :: (request.version.toList ++ ['\r', '\n']))) := by
    apply String.toList_inj.mp
    simp [firstLine]
  have hwords : Text.words (request.firstLine ++ "\r\n") =
      request.method :: request.target :: request.version :: Text.words (String.ofList ['\n']) := by
    rw [hline, Text.words_ofList h.method ' ' _ (by decide),
      Text.words_ofList h.target ' ' _ (by decide),
      Text.words_ofList h.version '\r' _ (by decide)]
  rw [requestLine?, hwords]

/-- A request line has no line feed of its own. -/
theorem lineFeed_not_mem_firstLine {request : Request} (h : request.Plain) :
    '\n' ∉ request.firstLine.toList := by
  have hword {word : String} (hword : Text.IsWord word) : '\n' ∉ word.toList :=
    fun hmem => absurd (hword.solid '\n' hmem) (by decide)
  simp [firstLine, hword h.method, hword h.target, hword h.version]

/-- The lines of a request. -/
theorem exists_headText {request : Request} (h : request.Plain) :
    ∃ head : HeadText request, head.bytes = request.toBytes := by
  have hheaders : List.Forall₂ IsHeaderLine request.headers
      (request.headers.map fun header => headerLine header ++ "\r\n") := by
    rw [List.forall₂_map_right_iff, List.forall₂_same]
    exact fun header hheader => isHeaderLine_headerLine (h.headers header hheader)
  have hblank : IsBlankLine ("" ++ "\r\n") :=
    isBlankLine_of_readHeader? (isLine_crlf (by decide)) readHeader?_empty
  have hbytes : request.toBytes = linesBytes ((request.firstLine ++ "\r\n") ::
      (request.headers.map fun header => headerLine header ++ "\r\n") ++ ["" ++ "\r\n"]) := by
    rw [toBytes, headerBytes_eq]
    rfl
  exact ⟨⟨_, _, _, isLine_crlf (lineFeed_not_mem_firstLine h), requestLine?_firstLine h, hheaders,
    hblank, h.room, by rw [← hbytes]; exact h.size⟩, hbytes.symm⟩

/-- A head comes back from its bytes, and what stands behind it is left. -/
theorem read_toBytes {request : Request} (h : request.Plain) (rest : Bytes) (ending : Ending) :
    read ⟨request.toBytes ++ rest, ending⟩ = some (.ok (some request), ⟨rest, ending⟩) := by
  obtain ⟨head, hbytes⟩ := exists_headText h
  rw [← hbytes]
  exact read_of_headText head rest ending

/-- Read so many heads, one after the other. No more are read once the stream has ended. -/
def readMany : (count : Nat) → Source → Source.Reading (List Request)
  | 0, source => some (.ok [], source)
  | count + 1, source =>
    (read source).andThen fun
      | none, source => some (.ok [], source)
      | some request, source =>
        (readMany count source).andThen fun requests source =>
          some (.ok (request :: requests), source)

/-- Heads that stand one after the other come back in order, and what stands behind the last one
is left, whatever comes after it. -/
theorem readMany_toBytes (requests : List Request) (rest : Bytes) (ending : Ending)
    (h : ∀ request ∈ requests, request.Plain) :
    readMany requests.length ⟨requests.flatMap toBytes ++ rest, ending⟩ =
      some (.ok requests, ⟨rest, ending⟩) := by
  induction requests with
  | nil => rfl
  | cons request requests ih =>
    have hread := read_toBytes (h request List.mem_cons_self) (requests.flatMap toBytes ++ rest)
      ending
    have hrest := ih fun other hother => h other (List.mem_cons_of_mem request hother)
    rw [List.length_cons, readMany, List.flatMap_cons, List.append_assoc, hread]
    dsimp only [Source.Reading.andThen]
    rw [hrest]

/-- Two heads, and bytes behind them that look like one more line. One value has colons and a
carriage return inside, one header is empty on both sides, and one head has no headers. -/
theorem readMany_toBytes_twoHeads :
    let first : Request :=
      { method := "GET", target := "/chat?room=a",
        headers := [("Host", "a.example:8080"), ("", ""), ("X Y", "a:b\rc")] }
    let second : Request := { method := "é", target := "*", version := "1" }
    (first.Plain ∧ second.Plain) ∧
      readMany 2 ⟨first.toBytes ++ second.toBytes ++ [0x0D, 0x0A, 0x81], .unfinished⟩ =
        some (.ok [first, second], ⟨[0x0D, 0x0A, 0x81], .unfinished⟩) := by
  intro first second
  have hfirst : first.Plain :=
    ⟨by decide +kernel, by decide +kernel, by decide +kernel, by decide +kernel, by decide,
      by decide +kernel⟩
  have hsecond : second.Plain :=
    ⟨by decide +kernel, by decide +kernel, by decide +kernel, by decide, by decide,
      by decide +kernel⟩
  have hplain : ∀ request ∈ [first, second], request.Plain := by
    simpa only [List.forall_mem_cons, List.not_mem_nil, false_imp_iff, implies_true, and_true]
      using And.intro hfirst hsecond
  have hread := readMany_toBytes [first, second] [0x0D, 0x0A, 0x81] .unfinished hplain
  exact ⟨⟨hfirst, hsecond⟩, hread⟩

end Request

end Http

end SocketGate
