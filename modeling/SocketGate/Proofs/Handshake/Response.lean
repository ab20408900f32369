import SocketGate.Proofs.Base64
import SocketGate.Proofs.Handshake.Checks
import SocketGate.Proofs.Http.Response
import SocketGate.Proofs.Http.RoundTrip

/-!
# `SocketGate.Proofs.Handshake.Response`: the lines of an accepted handshake

The answer to an accepted handshake repeats a part of the request, the subprotocol, and puts it
between lines of its own. A client could add lines to the answer if it could get a line feed in
there. It cannot, since no header of a request that has been read has a line feed: a header is
part of a line, whose only line feed is its end.

* `isAnswer_acceptKey`: the answer to a key is twenty-eight characters of base64.
* `exists_offer`: the subprotocol is an element of the first header that offers some.
* `response_of_stream`: the lines of the answer, for every request that is read off a stream.
-/

set_option autoImplicit false

namespace SocketGate

/-- The header of a name is the first one that has this name. -/
theorem Http.Request.exists_of_header? {request : Request} {name value : String}
    (h : request.header? name = some value) :
    ∃ found before behind, request.headers = before ++ (found, value) :: behind ∧
      Text.eqIgnoringCase found name = true ∧
      ∀ header ∈ before, Text.eqIgnoringCase header.1 name = false := by
  obtain ⟨⟨found, _⟩, hfind, rfl⟩ := Option.map_eq_some_iff.mp h
  obtain ⟨hname, before, behind, hheaders, hbefore⟩ := List.find?_eq_some_iff_append.mp hfind
  exact ⟨found, before, behind, hheaders, hname, by simpa using hbefore⟩

/-- A hash value has twenty bytes. -/
theorem Sha1.length_hash (message : Bytes) : (hash message).length = 20 := by
  simp [hash, Digest.toBytes, Bytes.length_ofNatBE]

namespace Handshake

open Http (Request cutLines)

/-- An answer to a key is twenty-eight characters of base64: letters, and one of padding. -/
structure IsAnswer (accept : String) : Prop where
  length : accept.length = 28
  letters : ∃ letters, accept.toList = letters ++ ['='] ∧
    ∀ c ∈ letters, (Base64.value? c).isSome

theorem isAnswer_acceptKey (key : String) : IsAnswer (acceptKey key) where
  length := by
    rw [acceptKey, Base64.encode, String.length_ofList, Base64.length_encodeChars,
      Sha1.length_hash]
  letters := by
    obtain ⟨letters, hchars, hletters⟩ :=
      Base64.exists_letters (Sha1.hash (Bytes.ofText key ++ Bytes.ofText guid))
    rw [Sha1.length_hash] at hchars
    exact ⟨letters, by rw [acceptKey, Base64.encode, String.toList_ofList, hchars]; rfl, hletters⟩

/-- An answer to a key has no line feed. -/
theorem IsAnswer.lineFeed_notMem {accept : String} (h : IsAnswer accept) :
    '\n' ∉ accept.toList := by
  obtain ⟨letters, hchars, hletters⟩ := h.letters
  rw [hchars]
  intro hmem
  rcases List.mem_append.mp hmem with hletter | hpad
  · exact absurd (hletters '\n' hletter) (by decide)
  · exact absurd hpad (by decide)

/-- A subprotocol is an element of the first header that offers some, and it is not empty. -/
theorem exists_offer {request : Request} {protocol : String}
    (h : offeredSubprotocol request = some protocol) :
    protocol ≠ "" ∧
      ∃ name offered before behind,
        request.headers = before ++ (name, offered) :: behind ∧
        Text.eqIgnoringCase name "Sec-WebSocket-Protocol" = true ∧
        (∀ header ∈ before,
          Text.eqIgnoringCase header.1 "Sec-WebSocket-Protocol" = false) ∧
        Text.CommaElement offered protocol := by
  unfold offeredSubprotocol at h
  cases hoffered : request.header? "Sec-WebSocket-Protocol" with
  | none => simp [hoffered] at h
  | some offered =>
    simp only [hoffered] at h
    have hfilled := List.find?_some h
    have helement := Text.commaElement_of_mem (List.mem_of_find?_eq_some h)
    obtain ⟨name, before, behind, hheaders, hname, hbefore⟩ := Request.exists_of_header? hoffered
    exact ⟨by simpa using hfilled, name, offered, before, behind, hheaders, hname, hbefore,
      helement⟩

/-- The lines of the answer. -/
def lines (handshake : Handshake) : List String :=
  ["HTTP/1.1 101 Switching Protocols", "Upgrade: websocket", "Connection: Upgrade",
    "Sec-WebSocket-Accept: " ++ handshake.accept] ++
  (handshake.subprotocol.map ("Sec-WebSocket-Protocol: " ++ ·)).toList

theorem lineFeed_notMem_lines {handshake : Handshake} (haccept : IsAnswer handshake.accept)
    (hprotocol : ∀ protocol ∈ handshake.subprotocol, '\n' ∉ protocol.toList) :
    ∀ line ∈ handshake.lines, '\n' ∉ line.toList := by
  intro line hline
  rcases List.mem_append.mp hline with hfixed | hoffered
  · simp only [List.mem_cons, List.not_mem_nil, or_false] at hfixed
    rcases hfixed with rfl | rfl | rfl | rfl
    · decide
    · decide
    · decide
    · simpa using haccept.lineFeed_notMem
  · obtain ⟨protocol, hmem, rfl⟩ := Option.map_eq_some_iff.mp (Option.mem_toList.mp hoffered)
    simpa using hprotocol protocol hmem

/-- The answer to a request that has been read off a stream and accepted. It is cut at each CR LF
into these lines and no others, and no line feed is left in them. The subprotocol is an element of
the first header of that name. -/
theorem response_of_stream {source after : Source} {request : Request} {handshake : Handshake}
    (hread : Request.read source = some (.ok (some request), after))
    (haccepted : ofRequest? request = .ok handshake) :
    cutLines handshake.response =
      (["HTTP/1.1 101 Switching Protocols", "Upgrade: websocket", "Connection: Upgrade",
          "Sec-WebSocket-Accept: " ++ handshake.accept] ++
        (handshake.subprotocol.map ("Sec-WebSocket-Protocol: " ++ ·)).toList ++
        ["", ""]).map Bytes.ofText ∧
    (∀ line ∈ cutLines handshake.response, 0x0A ∉ line) ∧
    IsAnswer handshake.accept ∧
    ∀ protocol, handshake.subprotocol = some protocol →
      protocol ≠ "" ∧
      ∃ name offered before behind,
        request.headers = before ++ (name, offered) :: behind ∧
        Text.eqIgnoringCase name "Sec-WebSocket-Protocol" = true ∧
        (∀ header ∈ before,
          Text.eqIgnoringCase header.1 "Sec-WebSocket-Protocol" = false) ∧
        Text.CommaElement offered protocol := by
  obtain ⟨head, -⟩ := Request.headText_of_read hread
  obtain ⟨-, key, -, -, hhandshake⟩ := ofRequest?_eq_ok_iff.mp haccepted
  have haccept : IsAnswer handshake.accept := by
    rw [hhandshake]
    exact isAnswer_acceptKey (Text.trim key)
  have hsubprotocol : handshake.subprotocol = offeredSubprotocol request := by
    rw [hhandshake]
  -- The subprotocol comes from a header, and no header has a line feed.
  have hprotocol : ∀ protocol ∈ handshake.subprotocol, '\n' ∉ protocol.toList := by
    intro protocol hoffer
    rw [hsubprotocol] at hoffer
    obtain ⟨-, name, offered, before, behind, hheaders, -, -, helement⟩ := exists_offer hoffer
    have hfeed := head.lineFeed_notMem (name, offered) (by simp [hheaders])
    exact fun hmem => hfeed.2 (helement.mem hmem)
  have hlines := lineFeed_notMem_lines haccept hprotocol
  refine ⟨Http.cutLines_responseHead hlines, Http.lineFeed_notMem_of_mem_cutLines hlines, haccept,
    ?_⟩
  intro protocol hoffer
  exact exists_offer (hsubprotocol ▸ hoffer)

/-- A client that offers subprotocols in two headers, with a carriage return in one of them. -/
theorem response_of_stream_carriageReturn :
    let request : Request :=
      { method := "GET", target := "/chat",
        headers := [("Upgrade", "websocket"), ("Connection", "Upgrade"),
          ("Sec-WebSocket-Key", "dGhlIHNhbXBsZSBub25jZQ=="), ("Sec-WebSocket-Version", "13"),
          ("sec-websocket-protocol", ", chat\rbot ,superchat"),
          ("Sec-WebSocket-Protocol", "other")] }
    let handshake : Handshake := ⟨acceptKey "dGhlIHNhbXBsZSBub25jZQ==", some "chat\rbot"⟩
    (Request.read ⟨request.toBytes ++ [0x81], .unfinished⟩ =
        some (.ok (some request), ⟨[0x81], .unfinished⟩) ∧
      ofRequest? request = .ok handshake) ∧
    cutLines handshake.response =
      ["HTTP/1.1 101 Switching Protocols", "Upgrade: websocket", "Connection: Upgrade",
        "Sec-WebSocket-Accept: " ++ acceptKey "dGhlIHNhbXBsZSBub25jZQ==",
        "Sec-WebSocket-Protocol: chat\rbot", "", ""].map Bytes.ofText := by
  intro request handshake
  have hplain : request.Plain :=
    ⟨by decide +kernel, by decide +kernel, by decide +kernel, by decide +kernel, by decide,
      by decide +kernel⟩
  have hread := Request.read_toBytes hplain [0x81] .unfinished
  have hproper : Proper request :=
    ⟨rfl, ⟨"websocket", by decide +kernel, by decide +kernel⟩,
      ⟨"Upgrade", by decide +kernel, by decide +kernel⟩,
      ⟨"13", by decide +kernel, by decide +kernel⟩⟩
  have hkey : request.header? "Sec-WebSocket-Key" = some "dGhlIHNhbXBsZSBub25jZQ==" := by
    decide +kernel
  have htrim : Text.trim "dGhlIHNhbXBsZSBub25jZQ==" = "dGhlIHNhbXBsZSBub25jZQ==" := by
    decide +kernel
  have hcheck : checkKey "dGhlIHNhbXBsZSBub25jZQ==" = .ok () := by decide +kernel
  have hoffer : offeredSubprotocol request = handshake.subprotocol := by decide +kernel
  have haccepted : ofRequest? request = .ok handshake := by
    rw [ofRequest?_of_proper hproper hkey, htrim, hcheck, hoffer]
    rfl
  exact ⟨⟨hread, haccepted⟩, (response_of_stream hread haccepted).1⟩

end Handshake

end SocketGate
