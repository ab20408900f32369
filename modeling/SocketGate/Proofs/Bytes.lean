import Mathlib.Algebra.Group.Nat.Defs
import Mathlib.Data.List.Induction
import SocketGate.Bytes

/-!
# `SocketGate.Proofs.Bytes`: the operations on byte strings

* `Bytes.toNatBE_ofNatBE` and `Bytes.ofNatBE_toNatBE`: a number that fits into the field comes
  back from it, and the field from the number.
* `Bytes.splitExact?_append` and `Bytes.splitExact?_eq_none`: an exact number of bytes is
  taken off the front, or there are too few of them.
* `Bytes.flatten_chunks` and `Bytes.length_le_of_mem_chunks`: the pieces of a byte string
  put together again, and how long they are.
* `Bytes.chunks_eq`: where each of the pieces begins.
* `Bytes.toText?_ofText`: a text comes back from its UTF-8 form.
-/

set_option autoImplicit false

namespace SocketGate.Bytes

/-- A property of all bytes, checked for one number after the other. -/
theorem forall_byte {P : UInt8 → Prop} (h : ∀ n < 256, P (UInt8.ofNat n)) :
    ∀ byte, P byte := by
  intro byte
  have hbyte := h byte.toNat byte.toNat_lt
  rwa [UInt8.ofNat_toNat] at hbyte

/-! ### Big-endian numbers -/

theorem length_ofNatBE (width n : Nat) : (ofNatBE width n).length = width := by
  induction width generalizing n with
  | zero => rfl
  | succ width ih => rw [ofNatBE, List.length_append, ih, List.length_singleton]

theorem toNatBE_append_singleton (bytes : Bytes) (byte : UInt8) :
    toNatBE (bytes ++ [byte]) = toNatBE bytes * 256 + byte.toNat := by
  rw [toNatBE, List.foldl_append]
  rfl

theorem toNatBE_singleton (byte : UInt8) : toNatBE [byte] = byte.toNat := by
  simp [toNatBE]

/-- A number below `256 ^ width` comes back from a field of `width` bytes. -/
theorem toNatBE_ofNatBE (width n : Nat) (h : n < 256 ^ width) :
    toNatBE (ofNatBE width n) = n := by
  induction width generalizing n with
  | zero =>
    have hzero : n = 0 := by simpa using h
    rw [hzero]
    rfl
  | succ width ih =>
    -- The last byte holds the remainder, and those before it the quotient.
    have hhigh : n / 256 < 256 ^ width := by
      rw [Nat.div_lt_iff_lt_mul (by decide), ← Nat.pow_succ]
      exact h
    have hlow : (UInt8.ofNat (n % 256)).toNat = n % 256 := by simp
    rw [ofNatBE, toNatBE_append_singleton, ih _ hhigh, hlow]
    omega

/-- A field holds the last bytes of a number that does not fit. -/
theorem ofNatBE_mod (width n : Nat) : ofNatBE width (n % 256 ^ width) = ofNatBE width n := by
  induction width generalizing n with
  | zero => rfl
  | succ width ih =>
    have hhigh : n % 256 ^ (width + 1) / 256 = n / 256 % 256 ^ width := by
      rw [Nat.pow_succ, Nat.mod_mul_left_div_self]
    have hlow : n % 256 ^ (width + 1) % 256 = n % 256 :=
      Nat.mod_mod_of_dvd n ⟨256 ^ width, Nat.pow_succ'⟩
    rw [ofNatBE, ofNatBE, hhigh, hlow, ih]

/-- A field of so many bytes holds a number below a power of 256. -/
theorem toNatBE_lt (bytes : Bytes) : toNatBE bytes < 256 ^ bytes.length := by
  induction bytes using List.reverseRecOn with
  | nil => decide
  | append_singleton bytes byte ih =>
    have hbyte := byte.toNat_lt
    rw [toNatBE_append_singleton, List.length_append, List.length_singleton, Nat.pow_succ]
    omega

/-- Writing the number in a field gives the field back. -/
theorem ofNatBE_toNatBE (field : Bytes) : ofNatBE field.length (toNatBE field) = field := by
  induction field using List.reverseRecOn with
  | nil => rfl
  | append_singleton field byte ih =>
    have hbyte := byte.toNat_lt
    have hhigh : (toNatBE field * 256 + byte.toNat) / 256 = toNatBE field := by omega
    have hlow : (toNatBE field * 256 + byte.toNat) % 256 = byte.toNat := by omega
    rw [List.length_append, List.length_singleton, ofNatBE, toNatBE_append_singleton, hhigh, hlow,
      ih, UInt8.ofNat_toNat]

/-! ### An exact number of bytes -/

theorem splitExact?_append (front rest : Bytes) (n : Nat) (h : front.length = n) :
    splitExact? n (front ++ rest) = some (front, rest) := by
  subst h
  unfold splitExact?
  simp

theorem splitExact?_eq_none (n : Nat) (bytes : Bytes) (h : bytes.length < n) :
    splitExact? n bytes = none := by
  unfold splitExact?
  have htake : ¬ (bytes.take n).length = n := by
    rw [List.length_take]
    omega
  simp only [htake, if_false]

/-- The two parts are by indices. -/
theorem splitExact?_eq (n : Nat) (bytes : Bytes) :
    splitExact? n bytes = if bytes.length < n then none else some (bytes.take n, bytes.drop n) := by
  split
  · rename_i hshort
    exact splitExact?_eq_none n bytes hshort
  · rename_i hlong
    have hfront : (bytes.take n).length = n := by
      rw [List.length_take]
      omega
    exact if_pos hfront

/-- The two parts of a byte string that is long enough. -/
theorem splitExact?_eq_some_iff (n : Nat) (bytes front rest : Bytes) :
    splitExact? n bytes = some (front, rest) ↔ front.length = n ∧ bytes = front ++ rest := by
  constructor
  · intro h
    simp only [splitExact?, Option.ite_none_right_eq_some, Option.some.injEq,
      Prod.mk.injEq] at h
    obtain ⟨hlength, rfl, rfl⟩ := h
    exact ⟨hlength, (List.take_append_drop n bytes).symm⟩
  · rintro ⟨hlength, rfl⟩
    exact splitExact?_append front rest n hlength

/-! ### Pieces -/

/-- What has been cut off stays in front of what is still to be cut. -/
theorem flatten_chunksFrom (size fuel : Nat) (bytes : Bytes) (pieces : Array Bytes)
    (hsize : 0 < size) (hfuel : bytes.length ≤ fuel) :
    (chunksFrom size fuel bytes pieces).toList.flatten = pieces.toList.flatten ++ bytes := by
  induction fuel generalizing bytes pieces with
  | zero =>
    have hempty : bytes = [] := List.length_eq_zero_iff.mp (by omega)
    simp [chunksFrom, hempty]
  | succ fuel ih =>
    cases bytes with
    | nil => simp [chunksFrom]
    | cons byte bytes =>
      -- Every round cuts off one byte at least, so the fuel lasts.
      have hdrop : ((byte :: bytes).drop size).length ≤ fuel := by
        rw [List.length_drop]
        omega
      rw [chunksFrom, ih _ _ hdrop, Array.toList_push, List.flatten_append,
        List.flatten_singleton, List.append_assoc, List.take_append_drop]
      exact List.cons_ne_nil byte bytes

/-- The pieces of a byte string, one after the other, are the byte string. -/
theorem flatten_chunks (size : Nat) (bytes : Bytes) : (chunks size bytes).flatten = bytes := by
  rw [chunks, flatten_chunksFrom _ _ _ _ (by omega) (Nat.le_refl _)]
  rfl

theorem length_le_of_mem_chunksFrom (size fuel : Nat) (bytes : Bytes) (pieces : Array Bytes)
    (hpieces : ∀ piece ∈ pieces.toList, piece.length ≤ size) :
    ∀ piece ∈ (chunksFrom size fuel bytes pieces).toList, piece.length ≤ size := by
  -- The bound on the pieces so far is the invariant, and each round adds one piece to them.
  induction fuel generalizing bytes pieces with
  | zero => exact hpieces
  | succ fuel ih =>
    cases bytes with
    | nil => exact hpieces
    | cons byte bytes =>
      rw [chunksFrom]
      · apply ih
        intro piece hpiece
        rw [Array.toList_push] at hpiece
        rcases List.mem_append.mp hpiece with hold | hnew
        · exact hpieces piece hold
        · rw [List.mem_singleton.mp hnew, List.length_take]
          exact Nat.min_le_left _ _
      · exact List.cons_ne_nil byte bytes

/-- No piece is longer than the size, or than one byte where the size is zero. -/
theorem length_le_of_mem_chunks (size : Nat) (bytes piece : Bytes)
    (h : piece ∈ chunks size bytes) : piece.length ≤ max 1 size :=
  length_le_of_mem_chunksFrom _ _ _ #[] (by simp) piece h

/-- The pieces cut so far stay in front, and each of the others begins a whole number of sizes
further on. -/
theorem chunksFrom_eq (size fuel : Nat) (bytes : Bytes) (pieces : Array Bytes) (hsize : 0 < size)
    (hfuel : bytes.length ≤ fuel) :
    (chunksFrom size fuel bytes pieces).toList = pieces.toList ++
      (List.range ((bytes.length + size - 1) / size)).map
        fun index => (bytes.drop (index * size)).take size := by
  have hnone : (0 + size - 1) / size = 0 := Nat.div_eq_of_lt (by omega)
  induction fuel generalizing bytes pieces with
  | zero =>
    obtain rfl : bytes = [] := List.length_eq_zero_iff.mp (by omega)
    rw [chunksFrom, List.length_nil, hnone, List.range_zero, List.map_nil, List.append_nil]
  | succ fuel ih =>
    cases bytes with
    | nil =>
      rw [chunksFrom, List.length_nil, hnone, List.range_zero, List.map_nil, List.append_nil]
    | cons byte bytes =>
      -- One piece is cut off here, so the others are one fewer.
      have hcount : ((byte :: bytes).length + size - 1) / size =
          (((byte :: bytes).drop size).length + size - 1) / size + 1 := by
        rw [List.length_drop, ← Nat.add_div_right _ hsize]
        by_cases hmore : size ≤ (byte :: bytes).length
        · congr 1
          omega
        · have hpos : 0 < (byte :: bytes).length := Nat.succ_pos _
          rw [Nat.div_eq_of_lt_le (k := 1) (by omega) (by omega),
            Nat.div_eq_of_lt_le (k := 1) (by omega) (by omega)]
      have hdrop : ((byte :: bytes).drop size).length ≤ fuel := by
        rw [List.length_drop]
        simp only [List.length_cons] at hfuel ⊢
        omega
      rw [chunksFrom, ih _ _ hdrop, hcount, List.range_succ_eq_map, Array.toList_push,
        List.append_assoc, List.map_cons, List.map_map]
      · simp [Function.comp_def, List.drop_drop, Nat.succ_mul, Nat.add_comm]
      · exact List.cons_ne_nil byte bytes

/-- The pieces of a byte string: as many as it takes, each of them beginning a whole number of
sizes further on. -/
theorem chunks_eq (size : Nat) (bytes : Bytes) :
    chunks size bytes = (List.range ((bytes.length + max 1 size - 1) / max 1 size)).map
      fun index => (bytes.drop (index * max 1 size)).take (max 1 size) := by
  rw [chunks, chunksFrom_eq _ _ _ _ (by omega) (Nat.le_refl _)]
  rfl

/-! ### Texts -/

/-- The UTF-8 form of a text is read as that text. -/
theorem toText?_ofText (text : String) : toText? (ofText text) = some text := by
  have hbytes : (⟨(ofText text).toArray⟩ : ByteArray) = text.toByteArray := by
    simp [ofText]
  rw [toText?, hbytes, String.fromUTF8?, dif_pos text.isValidUTF8]
  rfl

/-- No two texts have the same UTF-8 form. -/
theorem ofText_injective {text other : String} (h : ofText text = ofText other) : text = other := by
  have htext := toText?_ofText text
  rw [h, toText?_ofText] at htext
  exact (Option.some.inj htext).symm

/-- Bytes that are read as a text are its UTF-8 form. -/
theorem ofText_of_toText? {bytes : Bytes} {text : String} (h : toText? bytes = some text) :
    ofText text = bytes := by
  unfold toText? String.fromUTF8? at h
  split at h
  · rename_i hvalid
    rw [← Option.some.inj h]
    rfl
  · cases h

end SocketGate.Bytes
