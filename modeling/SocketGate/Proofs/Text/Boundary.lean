import SocketGate.Proofs.Bytes
import SocketGate.Proofs.Frame.CloseReason
import SocketGate.Proofs.Text.Utf8
import SocketGate.Text.Boundary

/-!
# `SocketGate.Proofs.Text.Boundary`: cutting a text between two characters

A text that is too long is cut in one of two ways. `Text.clip` takes one character after the other
as long as they fit. `Text.boundaryBefore?` starts at the limit and goes back to the last index
that no character reaches over. Both cut at the same place: the characters that fit end at such an
index, and the next character reaches over every index from there to the limit. As a character
has at most four bytes, there are at most three of those.

* `Text.exists_clipChars_eq`: the characters that fit, and the first one that does not.
* `Text.isBoundary_between` and `Text.not_isBoundary_inside`: which indices can be cut at.
* `Text.boundaryBefore?_clip`: where the search ends, and how far back that is.
* `Text.truncate?_clip`: what is in front of this index.
-/

set_option autoImplicit false

namespace SocketGate.Text

/-! ### The characters that fit -/

/-- The UTF-8 form of some characters. -/
def encode (chars : List Char) : Bytes := chars.flatMap String.utf8EncodeChar

theorem ofText_ofList (chars : List Char) : Bytes.ofText (String.ofList chars) = encode chars := by
  rw [Bytes.ofText_eq, String.toList_ofList, encode]

theorem length_encode (chars : List Char) :
    (encode chars).length = (String.ofList chars).utf8ByteSize := by
  rw [← ofText_ofList]
  rfl

theorem encode_append (front back : List Char) :
    encode (front ++ back) = encode front ++ encode back :=
  List.flatMap_append

theorem encode_cons (c : Char) (rest : List Char) :
    encode (c :: rest) = String.utf8EncodeChar c ++ encode rest :=
  List.flatMap_cons

theorem length_encode_cons (c : Char) (rest : List Char) :
    (encode (c :: rest)).length = c.utf8Size + (encode rest).length := by
  rw [encode_cons, List.length_append, String.length_utf8EncodeChar]

/-- Characters that do not all fit: those that do, and the first one that does not, which reaches
over the limit. -/
theorem exists_clipChars_eq (room : Nat) (chars : List Char)
    (h : room < (encode chars).length) :
    ∃ c rest, chars = clipChars room chars ++ c :: rest ∧
      (encode (clipChars room chars)).length ≤ room ∧
      room < (encode (clipChars room chars)).length + c.utf8Size := by
  induction chars generalizing room with
  | nil => exact absurd h (Nat.not_lt_zero _)
  | cons first chars ih =>
    rw [length_encode_cons] at h
    by_cases hfits : first.utf8Size ≤ room
    · -- The others have what room the first character leaves.
      obtain ⟨c, rest, heq, hle, hlt⟩ := ih (room - first.utf8Size) (by omega)
      rw [clipChars, if_pos hfits]
      refine ⟨c, rest, ?_, ?_, ?_⟩
      · rw [List.cons_append, ← heq]
      · rw [length_encode_cons]
        omega
      · rw [length_encode_cons]
        omega
    · rw [clipChars, if_neg hfits]
      refine ⟨first, chars, rfl, Nat.zero_le _, ?_⟩
      show room < 0 + first.utf8Size
      omega

/-- If all characters fit, all of them are kept. -/
theorem clipChars_eq_self {room : Nat} {chars : List Char} (h : (encode chars).length ≤ room) :
    clipChars room chars = chars := by
  induction chars generalizing room with
  | nil => rfl
  | cons first chars ih =>
    rw [length_encode_cons] at h
    rw [clipChars, if_pos (by omega), ih (by omega)]

/-- The characters that are kept are the first ones. -/
theorem clipChars_prefix (room : Nat) (chars : List Char) : clipChars room chars <+: chars := by
  by_cases h : room < (encode chars).length
  · obtain ⟨c, rest, heq, -, -⟩ := exists_clipChars_eq room chars h
    exact ⟨c :: rest, heq.symm⟩
  · simp only [clipChars_eq_self (Nat.not_lt.mp h), List.prefix_refl]

/-- No longer part of the characters fits: whatever first ones fit are kept. -/
theorem prefix_clipChars {room : Nat} {front chars : List Char} (hfirst : front <+: chars)
    (hfits : (encode front).length ≤ room) : front <+: clipChars room chars := by
  induction front generalizing room chars with
  | nil => exact List.nil_prefix
  | cons first front ih =>
    obtain ⟨rest, rfl⟩ := hfirst
    rw [length_encode_cons] at hfits
    rw [List.cons_append, clipChars, if_pos (by omega), List.cons_prefix_cons]
    exact ⟨rfl, ih (List.prefix_append front rest) (by omega)⟩

/-- A clipped text is the characters of it that fit. -/
theorem toList_clip (room : Nat) (text : String) :
    (clip room text).toList = clipChars room text.toList := by
  unfold clip
  split
  · rename_i hfits
    have hsize : (encode text.toList).length ≤ room := by
      rwa [length_encode, String.ofList_toList]
    rw [clipChars_eq_self hsize]
  · rw [String.toList_ofList]

/-! ### Where characters start -/

/-- All ranges of tails lie in the widest one, and no byte of that one starts a character. -/
theorem startsChar_of_tails {ranges : List (UInt8 × UInt8)} {tails : Bytes}
    (hranges : ∀ range ∈ ranges, 0x80 ≤ range.1.toNat ∧ range.2.toNat ≤ 0xBF)
    (h : Utf8.Tails ranges tails) : ∀ tail ∈ tails, startsChar tail = false := by
  induction ranges generalizing tails with
  | nil =>
    intro tail htail
    rw [h] at htail
    cases htail
  | cons range ranges ih =>
    obtain ⟨first, rest, rfl, hlow, hhigh, hrest⟩ := h
    intro tail htail
    rcases List.mem_cons.mp htail with rfl | htail
    · obtain ⟨hleast, hmost⟩ := hranges range List.mem_cons_self
      rw [UInt8.le_iff_toNat_le] at hlow hhigh
      simp only [startsChar, Bool.or_eq_false_iff, decide_eq_false_iff_not, UInt8.lt_iff_toNat_lt,
        UInt8.le_iff_toNat_le]
      constructor
      · show ¬ tail.toNat < 128
        omega
      · show ¬ 192 ≤ tail.toNat
        omega
    · exact ih (fun range h => hranges range (List.mem_cons_of_mem _ h)) hrest tail htail

/-- The first byte of a character starts it, and the others do not. -/
theorem exists_utf8EncodeChar_eq (c : Char) :
    ∃ lead tails, String.utf8EncodeChar c = lead :: tails ∧ startsChar lead = true ∧
      ∀ tail ∈ tails, startsChar tail = false := by
  have hencoded := Utf8.encoded c
  generalize String.utf8EncodeChar c = bytes at hencoded
  cases hencoded with
  | single h =>
    refine ⟨_, [], rfl, ?_, nofun⟩
    have hlow : UInt8.ofNat c.toNat < 0x80 := by
      rw [UInt8.lt_iff_toNat_lt, UInt8.toNat_ofNat']
      show c.toNat % 256 < 128
      omega
    rw [startsChar, decide_eq_true hlow, Bool.true_or]
  | several lead ranges tails notSingle found inRange =>
    have hcases := Utf8.tails?_cases found
    have hlead : 0xC0 ≤ lead.toNat := by
      obtain ⟨h, -, -⟩ | ⟨_, _, -, h, -⟩ | ⟨_, _, -, h, -⟩ := hcases <;> omega
    refine ⟨lead, tails, rfl, ?_, startsChar_of_tails ?_ inRange⟩
    · have hstarts : (0xC0 : UInt8) ≤ lead := UInt8.le_iff_toNat_le.mpr hlead
      rw [startsChar, decide_eq_true hstarts, Bool.or_true]
    · obtain ⟨-, -, rfl⟩ | ⟨low, high, rfl, -, -, hlow, hhigh, -⟩ |
        ⟨low, high, rfl, -, -, hlow, hhigh, -⟩ := hcases
      · simp
      · simp [hlow, hhigh]
      · simp [hlow, hhigh]

/-- At an index inside of a text its byte decides. -/
theorem isBoundary_of_getElem? {text : Bytes} {index : Nat} {byte : UInt8} (hpos : 0 < index)
    (h : text[index]? = some byte) : isBoundary text index = startsChar byte := by
  have hlast : index ≠ text.length := by
    rintro rfl
    rw [List.getElem?_eq_none (Nat.le_refl _)] at h
    cases h
  rw [isBoundary, decide_eq_false (Nat.ne_of_gt hpos), decide_eq_false hlast, h]
  rfl

/-- An index between two characters is a boundary. -/
theorem isBoundary_between (front back : List Char) :
    isBoundary (encode (front ++ back)) (encode front).length = true := by
  cases back with
  | nil => simp [isBoundary]
  | cons c rest =>
    obtain ⟨lead, tails, hchar, hlead, -⟩ := exists_utf8EncodeChar_eq c
    have hbyte : (encode (front ++ c :: rest))[(encode front).length]? = some lead := by
      rw [encode_append, encode_cons, hchar, List.cons_append,
        List.getElem?_append_right (Nat.le_refl _), Nat.sub_self, List.getElem?_cons_zero]
    rw [isBoundary, hbyte, Option.any_some, hlead, Bool.or_true]

/-- An index that a character reaches over is none. -/
theorem not_isBoundary_inside (front : List Char) (c : Char) (rest : List Char) {offset : Nat}
    (hpos : 0 < offset) (hinside : offset < c.utf8Size) :
    isBoundary (encode (front ++ c :: rest)) ((encode front).length + offset) = false := by
  obtain ⟨lead, tails, hchar, -, htails⟩ := exists_utf8EncodeChar_eq c
  obtain ⟨offset, rfl⟩ := Nat.exists_eq_succ_of_ne_zero (Nat.ne_of_gt hpos)
  have hoffset : offset < tails.length := by
    rw [← String.length_utf8EncodeChar, hchar, List.length_cons] at hinside
    exact Nat.lt_of_succ_lt_succ hinside
  have hbyte : (encode (front ++ c :: rest))[(encode front).length + offset.succ]? =
      some tails[offset] := by
    rw [encode_append, encode_cons, hchar, List.cons_append,
      List.getElem?_append_right (Nat.le_add_right _ _), Nat.add_sub_cancel_left,
      List.getElem?_cons_succ, List.getElem?_append_left hoffset, List.getElem?_eq_getElem hoffset]
  rw [isBoundary_of_getElem? (by omega) hbyte]
  exact htails _ (List.getElem_mem hoffset)

/-! ### The search for a place to cut -/

/-- The search ends at the first boundary that it meets. -/
theorem boundaryBefore?_eq {text : Bytes} {stop steps : Nat} (h : isBoundary text stop = true)
    (hbetween : ∀ taken < steps, isBoundary text (stop + steps - taken) = false) :
    boundaryBefore? text (stop + steps) = .ok stop := by
  induction steps with
  | zero => cases stop <;> exact if_pos h
  | succ steps ih =>
    have hfirst := hbetween 0 (Nat.succ_pos steps)
    rw [← Nat.add_assoc, boundaryBefore?, if_neg (by simpa [Nat.add_assoc] using hfirst)]
    refine ih fun taken htaken => ?_
    -- One step has been taken, so the later ones start one byte further back.
    have hlater := hbetween (taken + 1) (Nat.succ_lt_succ htaken)
    rwa [show stop + (steps + 1) - (taken + 1) = stop + steps - taken by omega] at hlater

/-- An index inside of a character of four bytes is three steps behind its start at most. -/
example : boundaryBefore? [0x61, 0xF0, 0x9F, 0x98, 0x80, 0x62] 4 = .ok 1 := by decide

/-- The search in a text that is too long ends behind the characters that fit, and it passes over
at most three bytes. All of them are inside of one character. -/
theorem boundaryBefore?_clip (room : Nat) (text : String) (h : room < text.utf8ByteSize) :
    ∃ steps ≤ 3, room = (clip room text).utf8ByteSize + steps ∧
      boundaryBefore? (Bytes.ofText text) room = .ok (clip room text).utf8ByteSize ∧
      isBoundary (Bytes.ofText text) (clip room text).utf8ByteSize = true ∧
      ∀ taken < steps, isBoundary (Bytes.ofText text) (room - taken) = false := by
  have hbytes : Bytes.ofText text = encode text.toList := Bytes.ofText_eq text
  have hsize : (clip room text).utf8ByteSize = (encode (clipChars room text.toList)).length := by
    rw [length_encode, ← toList_clip, String.ofList_toList]
  have hlong : room < (encode text.toList).length := by
    rwa [length_encode, String.ofList_toList]
  obtain ⟨c, rest, heq, hle, hlt⟩ := exists_clipChars_eq room text.toList hlong
  rw [hsize, hbytes]
  generalize clipChars room text.toList = kept at heq hle hlt
  obtain ⟨steps, hsteps⟩ := Nat.exists_eq_add_of_le hle
  have hwidth := c.utf8Size_le_four
  have hstop : isBoundary (encode text.toList) (encode kept).length = true := by
    rw [heq]
    exact isBoundary_between kept (c :: rest)
  have hbetween : ∀ taken < steps, isBoundary (encode text.toList) (room - taken) = false := by
    intro taken htaken
    rw [heq, show room - taken = (encode kept).length + (steps - taken) by omega]
    exact not_isBoundary_inside kept c rest (by omega) (by omega)
  refine ⟨steps, by omega, hsteps, ?_, hstop, hbetween⟩
  rw [hsteps]
  refine boundaryBefore?_eq hstop ?_
  rwa [hsteps] at hbetween

/-- What is in front of the place where the search ends is the clipped text. -/
theorem truncate?_clip (room : Nat) (text : String) :
    truncate? (clip room text).utf8ByteSize text = .ok (clip room text) := by
  have hprefix := clipChars_prefix room text.toList
  rw [← toList_clip] at hprefix
  obtain ⟨rest, hrest⟩ := hprefix
  have hbytes : Bytes.ofText text = Bytes.ofText (clip room text) ++ encode rest := by
    rw [Bytes.ofText_eq, Bytes.ofText_eq, ← hrest]
    exact List.flatMap_append
  have hfront : (Bytes.ofText text).take (clip room text).utf8ByteSize =
      Bytes.ofText (clip room text) := by
    rw [hbytes]
    exact List.take_left
  have hle : (clip room text).utf8ByteSize ≤ text.utf8ByteSize := by
    have hlength := congrArg List.length hbytes
    rw [List.length_append] at hlength
    exact Nat.le.intro hlength.symm
  rw [truncate?, if_neg (Nat.not_lt.mpr hle), hfront, Bytes.toText?_ofText]

end SocketGate.Text
