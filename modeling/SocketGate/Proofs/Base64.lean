import Mathlib.Tactic.SplitIfs
import SocketGate.Base64
import SocketGate.Proofs.Bytes

/-!
# `SocketGate.Proofs.Base64`: decoding is the inverse of encoding

The sixty-four letters stand for the numbers below 64, each for one of them. A group of four
letters stands for three bytes, and a padded one for two bytes or one, exactly if the bits that
the padding leaves over are zero. So a text is decoded exactly if it is the encoding of some byte
string, and then of no other.

* `decode?_eq_some_iff`: what is decoded, and into what.
* `encode_injective`: no two byte strings have the same encoding.
* `length_encodeChars`: how long an encoding is.
* `exists_letters`: which letters it has, and what padding.
-/

set_option autoImplicit false

namespace SocketGate.Base64

/-! ### Letters -/

theorem value?_letter {n : Nat} (h : n < 64) : value? (letter n) = some n := by
  have hall : ∀ n < 64, value? (letter n) = some n := by decide
  exact hall n h

theorem toNat_le_of_le {c d : Char} (h : c ≤ d) : c.toNat ≤ d.toNat := h

/-- A letter stands for a number below 64, and it is the letter of that number. -/
theorem of_value? {c : Char} {n : Nat} (h : value? c = some n) : n < 64 ∧ letter n = c := by
  have hchar : Char.ofNat c.toNat = c := Char.ofNat_toNat c
  unfold value? at h
  split_ifs at h with hupper hlower hdigit hplus hslash <;> obtain rfl := Option.some.inj h
  · have hlow := toNat_le_of_le hupper.1
    have hhigh := toNat_le_of_le hupper.2
    simp only [Char.reduceToNat] at hlow hhigh ⊢
    refine ⟨by omega, ?_⟩
    rw [letter, if_pos (by omega)]
    show Char.ofNat (65 + (c.toNat - 65)) = c
    rw [Nat.add_sub_cancel' hlow, hchar]
  · have hlow := toNat_le_of_le hlower.1
    have hhigh := toNat_le_of_le hlower.2
    simp only [Char.reduceToNat] at hlow hhigh ⊢
    refine ⟨by omega, ?_⟩
    rw [letter, if_neg (by omega), if_pos (by omega), Nat.add_sub_cancel]
    show Char.ofNat (97 + (c.toNat - 97)) = c
    rw [Nat.add_sub_cancel' hlow, hchar]
  · have hlow := toNat_le_of_le hdigit.1
    have hhigh := toNat_le_of_le hdigit.2
    simp only [Char.reduceToNat] at hlow hhigh ⊢
    refine ⟨by omega, ?_⟩
    rw [letter, if_neg (by omega), if_neg (by omega), if_pos (by omega), Nat.add_sub_cancel]
    show Char.ofNat (48 + (c.toNat - 48)) = c
    rw [Nat.add_sub_cancel' hlow, hchar]
  · exact ⟨by decide, hplus ▸ rfl⟩
  · exact ⟨by decide, hslash ▸ rfl⟩

/-- The padding is no letter. -/
theorem letter_ne_pad {n : Nat} (h : n < 64) : letter n ≠ '=' := by
  have hall : ∀ n < 64, letter n ≠ '=' := by decide
  exact hall n h

/-! ### Groups -/

/-- Three bytes are encoded apart from the others. -/
theorem encodeChars_append {group : Bytes} (h : group.length = 3) (rest : Bytes) :
    encodeChars (group ++ rest) = encodeChars group ++ encodeChars rest := by
  match group, h with
  | [a, b, c], _ => rfl

/-- Three bytes are twenty-four bits, six for each letter. -/
theorem encodeChars_three {group : Bytes} (h : group.length = 3) :
    encodeChars group =
      [letter (Bytes.toNatBE group / 262144), letter (Bytes.toNatBE group / 4096 % 64),
        letter (Bytes.toNatBE group / 64 % 64), letter (Bytes.toNatBE group % 64)] := by
  match group, h with
  | [a, b, c], _ => rfl

/-- Two bytes are sixteen bits, and two more are zero. -/
theorem encodeChars_two {group : Bytes} (h : group.length = 2) :
    encodeChars group =
      [letter (Bytes.toNatBE group * 4 / 4096), letter (Bytes.toNatBE group * 4 / 64 % 64),
        letter (Bytes.toNatBE group * 4 % 64), '='] := by
  match group, h with
  | [a, b], _ => rfl

/-- One byte is eight bits, and four more are zero. -/
theorem encodeChars_one {group : Bytes} (h : group.length = 1) :
    encodeChars group =
      [letter (Bytes.toNatBE group * 16 / 64), letter (Bytes.toNatBE group * 16 % 64), '=',
        '='] := by
  match group, h with
  | [a], _ => rw [Bytes.toNatBE_singleton, encodeChars]

/-- The number of a group, and the group of that number. -/
theorem number_of_group {group : Bytes} {width : Nat} (h : group.length = width) :
    Bytes.toNatBE group < 256 ^ width ∧ Bytes.ofNatBE width (Bytes.toNatBE group) = group := by
  subst h
  exact ⟨Bytes.toNatBE_lt group, Bytes.ofNatBE_toNatBE group⟩

/-- Four letters stand for three bytes. -/
theorem decodeThree?_eq_some_iff {a b c d : Char} {bytes : Bytes} :
    decodeThree? a b c d = some bytes ↔ bytes.length = 3 ∧ encodeChars bytes = [a, b, c, d] := by
  constructor
  · intro h
    simp only [decodeThree?, Option.bind_eq_bind, Option.bind_eq_some_iff,
      Option.some.injEq] at h
    obtain ⟨p, hp, q, hq, r, hr, s, hs, rfl⟩ := h
    obtain ⟨hp, rfl⟩ := of_value? hp
    obtain ⟨hq, rfl⟩ := of_value? hq
    obtain ⟨hr, rfl⟩ := of_value? hr
    obtain ⟨hs, rfl⟩ := of_value? hs
    have hlength := Bytes.length_ofNatBE 3 (((p * 64 + q) * 64 + r) * 64 + s)
    have hdigits : (((p * 64 + q) * 64 + r) * 64 + s) / 262144 = p ∧
        (((p * 64 + q) * 64 + r) * 64 + s) / 4096 % 64 = q ∧
        (((p * 64 + q) * 64 + r) * 64 + s) / 64 % 64 = r ∧
        (((p * 64 + q) * 64 + r) * 64 + s) % 64 = s := by omega
    refine ⟨hlength, ?_⟩
    rw [encodeChars_three hlength, Bytes.toNatBE_ofNatBE 3 _ (by omega)]
    simp only [hdigits]
  · rintro ⟨hlength, hchars⟩
    obtain ⟨hbound, hfield⟩ := number_of_group hlength
    rw [encodeChars_three hlength] at hchars
    simp only [List.cons.injEq] at hchars
    obtain ⟨rfl, rfl, rfl, rfl, -⟩ := hchars
    generalize Bytes.toNatBE bytes = n at hfield hbound
    have hnumber : ((n / 262144 * 64 + n / 4096 % 64) * 64 + n / 64 % 64) * 64 + n % 64 = n := by
      omega
    simp only [decodeThree?, value?_letter (show n / 262144 < 64 by omega),
      value?_letter (Nat.mod_lt (n / 4096) (show 0 < 64 by decide)),
      value?_letter (Nat.mod_lt (n / 64) (show 0 < 64 by decide)),
      value?_letter (Nat.mod_lt n (show 0 < 64 by decide)), Option.bind_eq_bind,
      Option.bind_some, hnumber, hfield]

/-- Three letters stand for two bytes if the last one has two bits left over. -/
theorem decodeTwo?_eq_some_iff {a b c : Char} {bytes : Bytes} :
    decodeTwo? a b c = some bytes ↔ bytes.length = 2 ∧ encodeChars bytes = [a, b, c, '='] := by
  constructor
  · intro h
    simp only [decodeTwo?, Option.bind_eq_bind, Option.bind_eq_some_iff,
      Option.ite_none_right_eq_some, Option.some.injEq] at h
    obtain ⟨p, hp, q, hq, r, hr, hbits, rfl⟩ := h
    obtain ⟨hp, rfl⟩ := of_value? hp
    obtain ⟨hq, rfl⟩ := of_value? hq
    obtain ⟨hr, rfl⟩ := of_value? hr
    have hlength := Bytes.length_ofNatBE 2 (((p * 64 + q) * 64 + r) / 4)
    have hdigits : ((p * 64 + q) * 64 + r) / 4 * 4 / 4096 = p ∧
        ((p * 64 + q) * 64 + r) / 4 * 4 / 64 % 64 = q ∧
        ((p * 64 + q) * 64 + r) / 4 * 4 % 64 = r := by omega
    refine ⟨hlength, ?_⟩
    rw [encodeChars_two hlength, Bytes.toNatBE_ofNatBE 2 _ (by omega)]
    simp only [hdigits]
  · rintro ⟨hlength, hchars⟩
    obtain ⟨hbound, hfield⟩ := number_of_group hlength
    rw [encodeChars_two hlength] at hchars
    simp only [List.cons.injEq] at hchars
    obtain ⟨rfl, rfl, rfl, -⟩ := hchars
    generalize Bytes.toNatBE bytes = n at hfield hbound
    have hnumber : (n * 4 / 4096 * 64 + n * 4 / 64 % 64) * 64 + n * 4 % 64 = n * 4 := by omega
    simp only [decodeTwo?, value?_letter (show n * 4 / 4096 < 64 by omega),
      value?_letter (Nat.mod_lt (n * 4 / 64) (show 0 < 64 by decide)),
      value?_letter (Nat.mod_lt (n * 4) (show 0 < 64 by decide)), Option.bind_eq_bind,
      Option.bind_some, hnumber, Nat.mul_mod_left, if_true,
      Nat.mul_div_left n (show 0 < 4 by decide), hfield]

/-- Two letters stand for one byte if the last one has four bits left over. -/
theorem decodeOne?_eq_some_iff {a b : Char} {bytes : Bytes} :
    decodeOne? a b = some bytes ↔ bytes.length = 1 ∧ encodeChars bytes = [a, b, '=', '='] := by
  constructor
  · intro h
    simp only [decodeOne?, Option.bind_eq_bind, Option.bind_eq_some_iff,
      Option.ite_none_right_eq_some, Option.some.injEq] at h
    obtain ⟨p, hp, q, hq, hbits, rfl⟩ := h
    obtain ⟨hp, rfl⟩ := of_value? hp
    obtain ⟨hq, rfl⟩ := of_value? hq
    have hlength := Bytes.length_ofNatBE 1 ((p * 64 + q) / 16)
    have hdigits : (p * 64 + q) / 16 * 16 / 64 = p ∧ (p * 64 + q) / 16 * 16 % 64 = q := by omega
    refine ⟨hlength, ?_⟩
    rw [encodeChars_one hlength, Bytes.toNatBE_ofNatBE 1 _ (by omega)]
    simp only [hdigits]
  · rintro ⟨hlength, hchars⟩
    obtain ⟨hbound, hfield⟩ := number_of_group hlength
    rw [encodeChars_one hlength] at hchars
    simp only [List.cons.injEq] at hchars
    obtain ⟨rfl, rfl, -⟩ := hchars
    generalize Bytes.toNatBE bytes = n at hfield hbound
    have hnumber : n * 16 / 64 * 64 + n * 16 % 64 = n * 16 := by omega
    simp only [decodeOne?, value?_letter (show n * 16 / 64 < 64 by omega),
      value?_letter (Nat.mod_lt (n * 16) (show 0 < 64 by decide)), Option.bind_eq_bind,
      Option.bind_some, hnumber, Nat.mul_mod_left, if_true,
      Nat.mul_div_left n (show 0 < 16 by decide), hfield]

/-! ### Texts -/

/-- Four letters at the front that are not padded are a group of their own. -/
theorem decodeChars?_group {a b c d : Char} (rest : List Char) (hpad : d ≠ '=') :
    decodeChars? (a :: b :: c :: d :: rest) =
      (decodeThree? a b c d).bind fun group => (decodeChars? rest).map (group ++ ·) := by
  rw [decodeChars?]
  · cases decodeThree? a b c d <;> cases decodeChars? rest <;> rfl
  · simp [hpad]
  · simp [hpad]

/-- Three letters and one letter of padding are a group if the third one is no padding. -/
theorem decodeChars?_two {a b c : Char} (hpad : c ≠ '=') :
    decodeChars? [a, b, c, '='] = decodeTwo? a b c := by
  rw [decodeChars?]
  exact hpad

/-- What has been encoded is decoded. -/
theorem decodeChars?_encodeChars (bytes : Bytes) :
    decodeChars? (encodeChars bytes) = some bytes := by
  induction bytes using encodeChars.induct with
  | case1 x y z rest ih =>
    -- The last letter of a whole group is no padding, so the group is read as one.
    have hgroup := decodeThree?_eq_some_iff.mpr
      ⟨rfl, show encodeChars [x, y, z] = _ from rfl⟩
    rw [encodeChars, decodeChars?_group _ (letter_ne_pad (Nat.mod_lt _ (by decide))), hgroup, ih]
    rfl
  | case2 x y =>
    rw [encodeChars, decodeChars?_two (letter_ne_pad (Nat.mod_lt _ (by decide)))]
    exact decodeTwo?_eq_some_iff.mpr ⟨rfl, rfl⟩
  | case3 x => exact decodeOne?_eq_some_iff.mpr ⟨rfl, rfl⟩
  | case4 => rfl

/-- What is decoded is encoded as it was. -/
theorem encodeChars_of_decodeChars? {chars : List Char} {bytes : Bytes}
    (h : decodeChars? chars = some bytes) : encodeChars bytes = chars := by
  -- The cases are the ways a text can begin: nothing, a padded group, a whole one, and no group.
  induction chars using decodeChars?.induct generalizing bytes with
  | case1 =>
    cases h
    rfl
  | case2 a b => exact (decodeOne?_eq_some_iff.mp h).2
  | case3 a b c hpad =>
    rw [decodeChars?_two hpad] at h
    exact (decodeTwo?_eq_some_iff.mp h).2
  | case4 a b c d rest hone htwo ih =>
    rw [decodeChars?] at h
    · simp only [Option.bind_eq_bind, Option.bind_eq_some_iff, Option.pure_def,
        Option.some.injEq] at h
      obtain ⟨group, hgroup, back, hback, rfl⟩ := h
      obtain ⟨hlength, hletters⟩ := decodeThree?_eq_some_iff.mp hgroup
      rw [encodeChars_append hlength, hletters, ih hback]
      rfl
    · exact hone
    · exact htwo
  | case5 chars hnone hone htwo hgroup => simp_all [decodeChars?]

/-- A text is decoded exactly if it is the encoding of a byte string, and into this one. -/
theorem decode?_eq_some_iff {text : String} {bytes : Bytes} :
    decode? text = some bytes ↔ encode bytes = text := by
  constructor
  · intro h
    rw [encode, encodeChars_of_decodeChars? h, String.ofList_toList]
  · rintro rfl
    rw [decode?, encode, String.toList_ofList]
    exact decodeChars?_encodeChars bytes

/-- No two byte strings have the same encoding. -/
theorem encode_injective {bytes other : Bytes} (h : encode bytes = encode other) :
    bytes = other := by
  have hbytes := decode?_eq_some_iff.mpr h
  rw [decode?_eq_some_iff.mpr rfl] at hbytes
  exact (Option.some.inj hbytes).symm

/-- Every three bytes are four letters, and so are those left over. -/
theorem length_encodeChars (bytes : Bytes) :
    (encodeChars bytes).length = (bytes.length + 2) / 3 * 4 := by
  induction bytes using encodeChars.induct with
  | case1 x y z rest ih =>
    simp only [encodeChars, List.length_cons, ih]
    omega
  | case2 x y => simp [encodeChars]
  | case3 x => simp [encodeChars]
  | case4 => rfl

/-- An encoding is letters, and padding where the last group has fewer than three bytes. -/
theorem exists_letters (bytes : Bytes) :
    ∃ letters, encodeChars bytes =
        letters ++ List.replicate ((3 - bytes.length % 3) % 3) '=' ∧
      ∀ c ∈ letters, (value? c).isSome := by
  have hletter {n : Nat} (h : n < 64) : (value? (letter n)).isSome := by
    rw [value?_letter h]
    rfl
  induction bytes using encodeChars.induct with
  | case1 x y z rest ih =>
    obtain ⟨letters, hrest, hletters⟩ := ih
    have hbound := Bytes.toNatBE_lt [x, y, z]
    have hfirst : Bytes.toNatBE [x, y, z] / 262144 < 64 := by
      simp at hbound
      omega
    refine ⟨letter (Bytes.toNatBE [x, y, z] / 262144) ::
      letter (Bytes.toNatBE [x, y, z] / 4096 % 64) :: letter (Bytes.toNatBE [x, y, z] / 64 % 64) ::
      letter (Bytes.toNatBE [x, y, z] % 64) :: letters, ?_, ?_⟩
    · have hpad : (3 - (x :: y :: z :: rest).length % 3) % 3 = (3 - rest.length % 3) % 3 := by
        simp only [List.length_cons]
        omega
      rw [hpad, encodeChars, hrest]
      rfl
    · simp only [List.forall_mem_cons]
      exact ⟨hletter hfirst, hletter (Nat.mod_lt _ (by decide)), hletter (Nat.mod_lt _ (by decide)),
        hletter (Nat.mod_lt _ (by decide)), hletters⟩
  | case2 x y =>
    have hbound := Bytes.toNatBE_lt [x, y]
    have hfirst : Bytes.toNatBE [x, y] * 4 / 4096 < 64 := by
      simp at hbound
      omega
    refine ⟨[_, _, _], rfl, ?_⟩
    simp only [List.forall_mem_cons]
    exact ⟨hletter hfirst, hletter (Nat.mod_lt _ (by decide)), hletter (Nat.mod_lt _ (by decide)),
      by simp⟩
  | case3 x =>
    have hbound := x.toNat_lt
    have hfirst : x.toNat * 16 / 64 < 64 := by omega
    refine ⟨[_, _], rfl, ?_⟩
    simp only [List.forall_mem_cons]
    exact ⟨hletter hfirst, hletter (Nat.mod_lt _ (by decide)), by simp⟩
  | case4 => exact ⟨[], rfl, by simp⟩

end SocketGate.Base64
