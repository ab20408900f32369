import Mathlib.Tactic.SplitIfs
import SocketGate.Text.Utf8

/-!
# `SocketGate.Proofs.Text.Utf8`: the UTF-8 form of a text

The bytes of a text are those of its characters, one after the other. A character below 128 is
one byte, and every other one is a lead byte and some tail bytes, none of which is below 128.
The lead byte and the ranges of the tails rule out what is no character, so nothing is found
wrong with the bytes of a text. They rule out nothing else, so bytes with which nothing is found
wrong are those of a text.

* `Bytes.ofText_eq`: a text is the bytes of its characters.
* `Utf8.fault?_ofText`: a text is UTF-8.
* `Utf8.fault?_eq_none_iff`: and nothing else is.
* `Bytes.lineFeed_mem_ofText`: a line feed is in the bytes of a text only if it is in the text.
-/

set_option autoImplicit false

namespace SocketGate

/-! ### Characters -/

theorem Bytes.ofText_eq (text : String) :
    Bytes.ofText text = text.toList.flatMap String.utf8EncodeChar := by
  have hencode : text.toByteArray = text.toList.utf8Encode := by
    have hchars := String.toByteArray_ofList (l := text.toList)
    rwa [String.ofList_toList] at hchars
  simp [Bytes.ofText, hencode, List.utf8Encode]

@[simp] theorem Bytes.ofText_append (text more : String) :
    Bytes.ofText (text ++ more) = Bytes.ofText text ++ Bytes.ofText more := by
  simp [Bytes.ofText_eq]

namespace Text.Utf8

/-- A byte that comes after a lead byte. -/
theorem toNat_tail (n : Nat) : (UInt8.ofNat (n % 64 + 128)).toNat = n % 64 + 128 := by
  rw [UInt8.toNat_ofNat']
  omega

theorem le_tail (low : UInt8) (n : Nat) (h : low.toNat ≤ n % 64 + 128) :
    low ≤ UInt8.ofNat (n % 64 + 128) := by
  rw [UInt8.le_iff_toNat_le, toNat_tail]
  exact h

theorem tail_le (high : UInt8) (n : Nat) (h : n % 64 + 128 ≤ high.toNat) :
    UInt8.ofNat (n % 64 + 128) ≤ high := by
  rw [UInt8.le_iff_toNat_le, toNat_tail]
  exact h

/-- The bytes after a lead byte are in their ranges. -/
def Tails : List (UInt8 × UInt8) → Bytes → Prop
  | [], tails => tails = []
  | (low, high) :: ranges, tails =>
    ∃ tail rest, tails = tail :: rest ∧ low ≤ tail ∧ tail ≤ high ∧ Tails ranges rest

theorem Tails.cons {low high tail : UInt8} {ranges : List (UInt8 × UInt8)} {tails : Bytes}
    (hlow : low ≤ tail) (hhigh : tail ≤ high) (h : Tails ranges tails) :
    Tails ((low, high) :: ranges) (tail :: tails) :=
  ⟨tail, tails, rfl, hlow, hhigh, h⟩

theorem Tails.one {low high tail : UInt8} (h : low ≤ tail ∧ tail ≤ high) :
    Tails [(low, high)] [tail] :=
  .cons h.1 h.2 rfl

theorem Tails.length {ranges : List (UInt8 × UInt8)} {tails : Bytes} (h : Tails ranges tails) :
    tails.length = ranges.length := by
  induction ranges generalizing tails with
  | nil => rw [h]; rfl
  | cons range ranges ih =>
    obtain ⟨tail, rest, rfl, -, -, hrest⟩ := h
    rw [List.length_cons, List.length_cons, ih hrest]

theorem tailFault?_of_tails {ranges : List (UInt8 × UInt8)} {tails : Bytes}
    (h : Tails ranges tails) (seen : Nat) (rest : Bytes) :
    tailFault? ranges seen (tails ++ rest) = none := by
  induction ranges generalizing tails seen with
  | nil => rw [tailFault?]
  | cons range ranges ih =>
    obtain ⟨tail, tails, rfl, hlow, hhigh, htails⟩ := h
    rw [List.cons_append, tailFault?, if_pos ⟨hlow, hhigh⟩]
    exact ih htails _

/-- The bytes of a character that has been found well formed are passed over. -/
theorem faultFrom_skip (index : Nat) (tails rest : Bytes) :
    faultFrom index tails.length (tails ++ rest) = faultFrom (index + tails.length) 0 rest := by
  induction tails generalizing index with
  | nil => rfl
  | cons tail tails ih =>
    rw [List.length_cons, List.cons_append, faultFrom, ih, Nat.add_assoc, Nat.add_comm 1]

/-- A lead byte with its tails is a character. -/
theorem faultFrom_of_tails (index : Nat) {lead : UInt8} {ranges : List (UInt8 × UInt8)}
    {tails : Bytes} (hlead : ¬ lead < 0x80) (hranges : tails? lead = some ranges)
    (htails : Tails ranges tails) (rest : Bytes) :
    faultFrom index 0 (lead :: tails ++ rest) = faultFrom (index + 1 + tails.length) 0 rest := by
  rw [List.cons_append, faultFrom, if_neg hlead, hranges]
  dsimp only
  rw [tailFault?_of_tails htails]
  dsimp only
  rw [← htails.length, faultFrom_skip]

/-! ### Every character is well formed -/

/-- A character is one byte below 128, or a lead byte with its tails. -/
inductive Encoded (c : Char) : Bytes → Prop where
  | single (h : c.toNat < 128) : Encoded c [UInt8.ofNat c.toNat]
  | several (lead : UInt8) (ranges : List (UInt8 × UInt8)) (tails : Bytes)
      (notSingle : ¬ lead < 0x80) (found : tails? lead = some ranges)
      (inRange : Tails ranges tails) : Encoded c (lead :: tails)

/-- Two bytes: the lead byte is `n + 192`. -/
theorem tails?_two {n : Nat} (hlow : 2 ≤ n) (hhigh : n < 32) :
    tails? (UInt8.ofNat (n + 192)) = some [(0x80, 0xBF)] := by
  revert hlow
  revert n
  decide

/-- Three bytes: the lead byte is `n + 224`. -/
theorem tails?_three {n : Nat} (h : n < 16) :
    tails? (UInt8.ofNat (n + 224)) = some
      [if n = 0 then (0xA0, 0xBF) else if n = 13 then (0x80, 0x9F) else (0x80, 0xBF),
        (0x80, 0xBF)] := by
  revert n
  decide

/-- Four bytes: the lead byte is `n + 240`. -/
theorem tails?_four {n : Nat} (h : n < 5) :
    tails? (UInt8.ofNat (n + 240)) = some
      [if n = 0 then (0x90, 0xBF) else if n = 4 then (0x80, 0x8F) else (0x80, 0xBF),
        (0x80, 0xBF), (0x80, 0xBF)] := by
  revert n
  decide

theorem not_lt_lead {n : Nat} (hlow : 192 ≤ n) (hhigh : n < 256) : ¬ UInt8.ofNat n < 0x80 := by
  rw [UInt8.lt_iff_toNat_lt, UInt8.toNat_ofNat']
  have hbound : (0x80 : UInt8).toNat = 128 := rfl
  omega

/-- A tail byte of its own is in the widest range that there is. -/
theorem tail_mem (n : Nat) :
    0x80 ≤ UInt8.ofNat (n % 64 + 128) ∧ UInt8.ofNat (n % 64 + 128) ≤ 0xBF :=
  ⟨le_tail _ n (by show 128 ≤ _; omega), tail_le _ n (by show _ ≤ 191; omega)⟩

theorem encoded_two (c : Char) {v : Nat} (hlow : 127 < v) (hhigh : v ≤ 2047) :
    Encoded c [UInt8.ofNat (v / 64 % 32 + 192), UInt8.ofNat (v % 64 + 128)] :=
  .several _ _ _ (not_lt_lead (by omega) (by omega)) (tails?_two (by omega) (by omega))
    (.one (tail_mem v))

/-- Overlong forms come after the first lead byte, and surrogates after the fourteenth. -/
theorem encoded_three (c : Char) {v : Nat} (hlow : 2047 < v) (hhigh : v ≤ 65535)
    (hvalid : v < 0xD800 ∨ 0xDFFF < v) :
    Encoded c [UInt8.ofNat (v / 4096 % 16 + 224), UInt8.ofNat (v / 64 % 64 + 128),
      UInt8.ofNat (v % 64 + 128)] := by
  have hlead := not_lt_lead (n := v / 4096 % 16 + 224) (by omega) (by omega)
  have hfound := tails?_three (n := v / 4096 % 16) (by omega)
  have hlast := Tails.one (tail_mem v)
  have hsecond := tail_mem (v / 64)
  by_cases hfirst : v / 4096 % 16 = 0
  · rw [if_pos hfirst] at hfound
    have hoverlong : 160 ≤ v / 64 % 64 + 128 := by omega
    exact .several _ _ _ hlead hfound (.cons (le_tail _ _ hoverlong) hsecond.2 hlast)
  · rw [if_neg hfirst] at hfound
    by_cases hsurrogates : v / 4096 % 16 = 13
    · rw [if_pos hsurrogates] at hfound
      have hsurrogate : v / 64 % 64 + 128 ≤ 159 := by omega
      exact .several _ _ _ hlead hfound (.cons hsecond.1 (tail_le _ _ hsurrogate) hlast)
    · rw [if_neg hsurrogates] at hfound
      exact .several _ _ _ hlead hfound (.cons hsecond.1 hsecond.2 hlast)

/-- Overlong forms come after the first lead byte, and what is no character after the fifth. -/
theorem encoded_four (c : Char) {v : Nat} (hlow : 65535 < v) (hvalid : v < 0x110000) :
    Encoded c [UInt8.ofNat (v / 262144 % 8 + 240), UInt8.ofNat (v / 4096 % 64 + 128),
      UInt8.ofNat (v / 64 % 64 + 128), UInt8.ofNat (v % 64 + 128)] := by
  have hlead := not_lt_lead (n := v / 262144 % 8 + 240) (by omega) (by omega)
  have hfound := tails?_four (n := v / 262144 % 8) (by omega)
  have hrest := Tails.cons (tail_mem (v / 64)).1 (tail_mem (v / 64)).2 (.one (tail_mem v))
  have hsecond := tail_mem (v / 4096)
  by_cases hfirst : v / 262144 % 8 = 0
  · rw [if_pos hfirst] at hfound
    have hoverlong : 144 ≤ v / 4096 % 64 + 128 := by omega
    exact .several _ _ _ hlead hfound (.cons (le_tail _ _ hoverlong) hsecond.2 hrest)
  · rw [if_neg hfirst] at hfound
    by_cases hend : v / 262144 % 8 = 4
    · rw [if_pos hend] at hfound
      have hbeyond : v / 4096 % 64 + 128 ≤ 143 := by omega
      exact .several _ _ _ hlead hfound (.cons hsecond.1 (tail_le _ _ hbeyond) hrest)
    · rw [if_neg hend] at hfound
      exact .several _ _ _ hlead hfound (.cons hsecond.1 hsecond.2 hrest)

theorem encoded (c : Char) : Encoded c (String.utf8EncodeChar c) := by
  have hvalid : c.val.toNat < 0xD800 ∨ 0xDFFF < c.val.toNat ∧ c.val.toNat < 0x110000 := c.valid
  unfold String.utf8EncodeChar
  dsimp only
  by_cases hone : c.val.toNat ≤ 127
  · rw [if_pos hone]
    exact .single (Nat.lt_succ_of_le hone)
  · rw [if_neg hone]
    by_cases htwo : c.val.toNat ≤ 2047
    · rw [if_pos htwo]
      exact encoded_two c (Nat.lt_of_not_le hone) htwo
    · rw [if_neg htwo]
      by_cases hthree : c.val.toNat ≤ 65535
      · rw [if_pos hthree]
        exact encoded_three c (Nat.lt_of_not_le htwo) hthree (hvalid.imp_right (·.1))
      · rw [if_neg hthree]
        exact encoded_four c (Nat.lt_of_not_le hthree) (by omega)

/-- Nothing is found wrong with a character. -/
theorem faultFrom_char (index : Nat) (c : Char) (rest : Bytes) :
    ∃ next, faultFrom index 0 (String.utf8EncodeChar c ++ rest) = faultFrom next 0 rest := by
  have hencoded := encoded c
  generalize String.utf8EncodeChar c = bytes at hencoded
  cases hencoded with
  | single h =>
    refine ⟨index + 1, ?_⟩
    have hlow : UInt8.ofNat c.toNat < 0x80 := by
      rw [UInt8.lt_iff_toNat_lt, UInt8.toNat_ofNat']
      show c.toNat % 256 < 128
      omega
    rw [List.singleton_append, faultFrom, if_pos hlow]
  | several lead ranges tails notSingle found inRange =>
    exact ⟨_, faultFrom_of_tails index notSingle found inRange rest⟩

/-- No characters have anything wrong with them. -/
theorem faultFrom_chars (index : Nat) (chars : List Char) :
    faultFrom index 0 (chars.flatMap String.utf8EncodeChar) = none := by
  induction chars generalizing index with
  | nil => rfl
  | cons c chars ih =>
    obtain ⟨next, hnext⟩ := faultFrom_char index c (chars.flatMap String.utf8EncodeChar)
    rw [List.flatMap_cons, hnext]
    exact ih next

/-- A text is UTF-8. -/
theorem fault?_ofText (text : String) : fault? (Bytes.ofText text) = none := by
  rw [Bytes.ofText_eq, fault?]
  exact faultFrom_chars 0 text.toList

/-! ### Bytes without a fault -/

/-- Tails in which nothing is found wrong are in their ranges. -/
theorem tails_of_tailFault? {ranges : List (UInt8 × UInt8)} {seen : Nat} {bytes : Bytes}
    (h : tailFault? ranges seen bytes = none) :
    ∃ tails rest, bytes = tails ++ rest ∧ Tails ranges tails := by
  induction ranges generalizing seen bytes with
  | nil => exact ⟨[], bytes, rfl, rfl⟩
  | cons range ranges ih =>
    cases bytes with
    | nil => cases h
    | cons tail rest =>
      by_cases hrange : range.1 ≤ tail ∧ tail ≤ range.2
      · rw [tailFault?, if_pos hrange] at h
        obtain ⟨tails, rest, rfl, htails⟩ := ih h
        exact ⟨tail :: tails, rest, rfl, .cons hrange.1 hrange.2 htails⟩
      · rw [tailFault?, if_neg hrange] at h
        cases h

/-- The character with this number. -/
theorem exists_char {n : Nat} (h : n < 0xD800 ∨ 0xDFFF < n ∧ n < 0x110000) :
    ∃ c : Char, c.val.toNat = n := by
  have hsmall : n < UInt32.size := by
    have hsize : UInt32.size = 4294967296 := rfl
    omega
  refine ⟨⟨UInt32.ofNatLT n hsmall, h⟩, rfl⟩

/-- A byte is the number that it holds. -/
theorem ofNat_eq {n : Nat} (byte : UInt8) (h : n = byte.toNat) : UInt8.ofNat n = byte := by
  rw [h, UInt8.ofNat_toNat]

/-- Two bytes are a character. -/
theorem exists_two {lead first : UInt8} (hlead : 0xC2 ≤ lead.toNat ∧ lead.toNat ≤ 0xDF)
    (hfirst : 0x80 ≤ first.toNat ∧ first.toNat ≤ 0xBF) :
    ∃ c, String.utf8EncodeChar c = [lead, first] := by
  obtain ⟨c, hc⟩ := exists_char (n := (lead.toNat - 192) * 64 + (first.toNat - 128)) (by omega)
  refine ⟨c, ?_⟩
  unfold String.utf8EncodeChar
  dsimp only
  rw [hc, if_neg (by omega), if_pos (by omega), ofNat_eq lead (by omega),
    ofNat_eq first (by omega)]

/-- Three bytes are a character unless they are an overlong form or a surrogate. -/
theorem exists_three {lead first second : UInt8}
    (hlead : 0xE0 ≤ lead.toNat ∧ lead.toNat ≤ 0xEF)
    (hfirst : 0x80 ≤ first.toNat ∧ first.toNat ≤ 0xBF)
    (hsecond : 0x80 ≤ second.toNat ∧ second.toNat ≤ 0xBF)
    (hoverlong : lead.toNat = 0xE0 → 0xA0 ≤ first.toNat)
    (hsurrogate : lead.toNat = 0xED → first.toNat ≤ 0x9F) :
    ∃ c, String.utf8EncodeChar c = [lead, first, second] := by
  obtain ⟨c, hc⟩ := exists_char (n := (lead.toNat - 224) * 4096 + (first.toNat - 128) * 64 +
    (second.toNat - 128)) (by omega)
  refine ⟨c, ?_⟩
  unfold String.utf8EncodeChar
  dsimp only
  rw [hc, if_neg (by omega), if_neg (by omega), if_pos (by omega),
    ofNat_eq lead (by omega), ofNat_eq first (by omega),
    ofNat_eq second (by omega)]

/-- Four bytes are a character unless they are an overlong form or beyond the last one. -/
theorem exists_four {lead first second third : UInt8}
    (hlead : 0xF0 ≤ lead.toNat ∧ lead.toNat ≤ 0xF4)
    (hfirst : 0x80 ≤ first.toNat ∧ first.toNat ≤ 0xBF)
    (hsecond : 0x80 ≤ second.toNat ∧ second.toNat ≤ 0xBF)
    (hthird : 0x80 ≤ third.toNat ∧ third.toNat ≤ 0xBF)
    (hoverlong : lead.toNat = 0xF0 → 0x90 ≤ first.toNat)
    (hbeyond : lead.toNat = 0xF4 → first.toNat ≤ 0x8F) :
    ∃ c, String.utf8EncodeChar c = [lead, first, second, third] := by
  obtain ⟨c, hc⟩ := exists_char (n := (lead.toNat - 240) * 262144 + (first.toNat - 128) * 4096 +
    (second.toNat - 128) * 64 + (third.toNat - 128)) (by omega)
  refine ⟨c, ?_⟩
  unfold String.utf8EncodeChar
  dsimp only
  rw [hc, if_neg (by omega), if_neg (by omega), if_neg (by omega),
    ofNat_eq lead (by omega), ofNat_eq first (by omega),
    ofNat_eq second (by omega), ofNat_eq third (by omega)]

/-- The three lengths of a character of more than one byte. -/
theorem tails?_cases {lead : UInt8} {ranges : List (UInt8 × UInt8)}
    (h : tails? lead = some ranges) :
    (0xC2 ≤ lead.toNat ∧ lead.toNat ≤ 0xDF ∧ ranges = [(0x80, 0xBF)]) ∨
    (∃ low high, ranges = [(low, high), (0x80, 0xBF)] ∧ 0xE0 ≤ lead.toNat ∧ lead.toNat ≤ 0xEF ∧
      0x80 ≤ low.toNat ∧ high.toNat ≤ 0xBF ∧ (lead.toNat = 0xE0 → 0xA0 ≤ low.toNat) ∧
      (lead.toNat = 0xED → high.toNat ≤ 0x9F)) ∨
    (∃ low high, ranges = [(low, high), (0x80, 0xBF), (0x80, 0xBF)] ∧
      0xF0 ≤ lead.toNat ∧ lead.toNat ≤ 0xF4 ∧
      0x80 ≤ low.toNat ∧ high.toNat ≤ 0xBF ∧ (lead.toNat = 0xF0 → 0x90 ≤ low.toNat) ∧
      (lead.toNat = 0xF4 → high.toNat ≤ 0x8F)) := by
  unfold tails? at h
  simp only [UInt8.le_iff_toNat_le, ← UInt8.toNat_inj, UInt8.reduceToNat] at h
  split_ifs at h <;> obtain rfl := Option.some.inj h
  · exact .inl ⟨by omega, by omega, rfl⟩
  -- The lead bytes E0, ED and the others of three bytes, and then F0, the middle ones and F4.
  iterate 3
    · refine .inr (.inl ⟨_, _, rfl, ?_⟩)
      simp only [UInt8.reduceToNat]
      omega
  iterate 3
    · refine .inr (.inr ⟨_, _, rfl, ?_⟩)
      simp only [UInt8.reduceToNat]
      omega

theorem toNat_mem {low high byte : UInt8} (h : low ≤ byte ∧ byte ≤ high) :
    low.toNat ≤ byte.toNat ∧ byte.toNat ≤ high.toNat :=
  ⟨UInt8.le_iff_toNat_le.mp h.1, UInt8.le_iff_toNat_le.mp h.2⟩

/-- A lead byte with tails in its ranges is a character. -/
theorem exists_of_tails {lead : UInt8} {ranges : List (UInt8 × UInt8)} {tails : Bytes}
    (hranges : tails? lead = some ranges) (h : Tails ranges tails) :
    ∃ c, String.utf8EncodeChar c = lead :: tails := by
  obtain ⟨hlow, hhigh, rfl⟩ | ⟨low, high, rfl, hlead⟩ | ⟨low, high, rfl, hlead⟩ :=
    tails?_cases hranges
  · obtain ⟨first, _, rfl, hfirst, hfirst', rfl⟩ := h
    exact exists_two ⟨hlow, hhigh⟩ (toNat_mem ⟨hfirst, hfirst'⟩)
  · obtain ⟨first, _, rfl, hfirst, hfirst', second, _, rfl, hsecond, hsecond', rfl⟩ := h
    have hfirst := toNat_mem ⟨hfirst, hfirst'⟩
    exact exists_three (by omega) (by omega) (toNat_mem ⟨hsecond, hsecond'⟩) (by omega) (by omega)
  · obtain ⟨first, _, rfl, hfirst, hfirst', second, _, rfl, hsecond, hsecond', third, _, rfl,
      hthird, hthird', rfl⟩ := h
    have hfirst := toNat_mem ⟨hfirst, hfirst'⟩
    exact exists_four (by omega) (by omega) (toNat_mem ⟨hsecond, hsecond'⟩)
      (toNat_mem ⟨hthird, hthird'⟩) (by omega) (by omega)

/-- Bytes in which nothing is found wrong begin with a character, and nothing is wrong behind
it. -/
theorem exists_first {index : Nat} {lead : UInt8} {rest : Bytes}
    (h : faultFrom index 0 (lead :: rest) = none) :
    ∃ c next tails behind, String.utf8EncodeChar c = lead :: tails ∧ rest = tails ++ behind ∧
      faultFrom next 0 behind = none := by
  rw [faultFrom] at h
  split at h
  · rename_i hsingle
    simp only [UInt8.lt_iff_toNat_lt, UInt8.reduceToNat] at hsingle
    obtain ⟨c, hc⟩ := exists_char (n := lead.toNat) (by omega)
    refine ⟨c, index + 1, [], rest, ?_, rfl, h⟩
    unfold String.utf8EncodeChar
    dsimp only
    rw [hc, if_pos (by omega), ofNat_eq lead rfl]
  · cases hranges : tails? lead with
    | none => simp [hranges] at h
    | some ranges =>
      cases hfault : tailFault? ranges 1 rest with
      | some length => simp [hranges, hfault] at h
      | none =>
        obtain ⟨tails, behind, rfl, htails⟩ := tails_of_tailFault? hfault
        obtain ⟨c, hc⟩ := exists_of_tails hranges htails
        simp only [hranges, hfault, ← htails.length, faultFrom_skip] at h
        exact ⟨c, _, tails, behind, hc, rfl, h⟩

/-- Bytes in which nothing is found wrong are those of some characters. -/
theorem exists_chars {index : Nat} {bytes : Bytes} (h : faultFrom index 0 bytes = none) :
    ∃ chars : List Char, chars.flatMap String.utf8EncodeChar = bytes := by
  -- The induction is on the number of bytes, since a character takes several of them.
  induction hlength : bytes.length using Nat.strongRecOn generalizing bytes index with
  | ind length ih =>
    subst hlength
    cases bytes with
    | nil => exact ⟨[], rfl⟩
    | cons lead rest =>
      obtain ⟨c, next, tails, behind, hc, rfl, hbehind⟩ := exists_first h
      have hshorter : behind.length < (lead :: (tails ++ behind)).length := by
        rw [List.length_cons, List.length_append]
        omega
      obtain ⟨chars, rfl⟩ := ih behind.length hshorter hbehind rfl
      exact ⟨c :: chars, by rw [List.flatMap_cons, hc, List.cons_append]⟩

/-- A byte string is UTF-8 exactly if it is the form of a text. -/
theorem fault?_eq_none_iff (bytes : Bytes) :
    fault? bytes = none ↔ ∃ text, Bytes.ofText text = bytes := by
  constructor
  · intro h
    obtain ⟨chars, rfl⟩ := exists_chars h
    exact ⟨String.ofList chars, by rw [Bytes.ofText_eq, String.toList_ofList]⟩
  · rintro ⟨text, rfl⟩
    exact fault?_ofText text

end Text.Utf8

/-! ### Line feeds -/

theorem Text.Utf8.Tails.not_mem {ranges : List (UInt8 × UInt8)} {tails : Bytes}
    (h : Tails ranges tails) (byte : UInt8) (hbyte : ∀ range ∈ ranges, byte < range.1) :
    byte ∉ tails := by
  induction ranges generalizing tails with
  | nil => rw [h]; exact List.not_mem_nil
  | cons range ranges ih =>
    obtain ⟨tail, rest, rfl, hlow, -, hrest⟩ := h
    rw [List.mem_cons, not_or]
    refine ⟨?_, ih hrest fun other hother => hbyte other (List.mem_cons_of_mem range hother)⟩
    rintro rfl
    have hless := hbyte range List.mem_cons_self
    rw [UInt8.lt_iff_toNat_lt] at hless
    rw [UInt8.le_iff_toNat_le] at hlow
    omega

/-- No range of a tail begins below 128. -/
theorem Text.Utf8.lt_of_tails? {lead : UInt8} {ranges : List (UInt8 × UInt8)}
    (h : tails? lead = some ranges) {range : UInt8 × UInt8} (hrange : range ∈ ranges) :
    0x0A < range.1 := by
  have hall : ranges.all (fun range => 0x0A < range.1) = true := by
    unfold tails? at h
    dsimp only at h
    split_ifs at h <;> obtain rfl := Option.some.inj h <;> decide
  exact of_decide_eq_true (List.all_eq_true.mp hall range hrange)

/-- The bytes of a text have a line feed only if the text has one. -/
theorem Bytes.lineFeed_mem_ofText {text : String} (h : '\n' ∉ text.toList) :
    0x0A ∉ Bytes.ofText text := by
  rw [Bytes.ofText_eq, List.mem_flatMap]
  rintro ⟨c, hc, hmem⟩
  have hencoded := Text.Utf8.encoded c
  generalize String.utf8EncodeChar c = bytes at hencoded hmem
  cases hencoded with
  | single hsingle =>
    have hbyte : c.toNat = 10 := by
      have hnat := congrArg UInt8.toNat (List.mem_singleton.mp hmem)
      rw [UInt8.toNat_ofNat'] at hnat
      change 10 = c.toNat % 256 at hnat
      omega
    obtain rfl : c = '\n' := Char.ext (UInt32.toNat_inj.mp hbyte)
    exact h hc
  | several lead ranges tails notSingle found inRange =>
    rcases List.mem_cons.mp hmem with rfl | htail
    · exact notSingle (by decide)
    · exact inRange.not_mem 0x0A (fun range hrange => Text.Utf8.lt_of_tails? found hrange) htail

end SocketGate
