import Mathlib.Data.List.TakeDrop
import Mathlib.Data.List.TakeWhile
import SocketGate.Text.Blank

/-!
# `SocketGate.Proofs.Text.Blank`: words and trimmed texts

A word has characters, and none of them is white space. A trimmed text has white space at
neither end; it may be empty, and may have white space inside. What is put together out of
words and trimmed texts is taken apart again in the same places.

* `splitChars_append`: the first piece ends where the separator stands.
* `of_mem_splitChars`, `commaElement_of_mem`: where the pieces of a text stand in it.
* `words_ofList`: the first word of a line is the one that it begins with.
* `splitOnce?_append`: a text is split at its first separator.
* `before_eq_iff`: what stands before the first separator.
* `trim_of_trimmed`, `dropEndWhile_append`: nothing is cut off that is no white space.
* `isTrimmed_ofList`, `trim_append`: and all white space at the ends is.
-/

set_option autoImplicit false

namespace SocketGate.Text

/-- A text that has characters, none of which is white space. -/
structure IsWord (text : String) : Prop where
  nonempty : text ≠ ""
  solid : ∀ c ∈ text.toList, isBlank c = false

/-- A text with white space at neither end. -/
structure IsTrimmed (text : String) : Prop where
  first : ∀ c ∈ text.toList.head?, isBlank c = false
  last : ∀ c ∈ text.toList.getLast?, isBlank c = false

theorem isWord_iff (text : String) :
    IsWord text ↔ text ≠ "" ∧ text.toList.all (!isBlank ·) := by
  simp only [List.all_eq_true, Bool.not_eq_true']
  exact ⟨fun h => ⟨h.nonempty, h.solid⟩, fun h => ⟨h.1, h.2⟩⟩

theorem isTrimmed_iff (text : String) :
    IsTrimmed text ↔
      text.toList.head?.all (!isBlank ·) ∧ text.toList.getLast?.all (!isBlank ·) := by
  simp only [Option.all_eq_true, Bool.not_eq_true']
  exact ⟨fun h => ⟨h.first, h.last⟩, fun h => ⟨h.1, h.2⟩⟩

-- The characters of the text are tried one by one, and not all characters that there are.
instance (text : String) : Decidable (IsWord text) :=
  decidable_of_iff _ (isWord_iff text).symm

instance (text : String) : Decidable (IsTrimmed text) :=
  decidable_of_iff _ (isTrimmed_iff text).symm

/-! ### Splitting -/

theorem splitChars_append (p : Char → Bool) {piece : List Char} {separator : Char}
    (rest : List Char) (hpiece : ∀ c ∈ piece, p c = false) (hseparator : p separator = true) :
    splitChars p (piece ++ separator :: rest) = piece :: splitChars p rest := by
  induction piece with
  | nil => rw [List.nil_append, splitChars, if_pos hseparator]
  | cons c piece ih =>
    have hc : ¬ p c = true := by simp [hpiece c List.mem_cons_self]
    rw [List.cons_append, splitChars, if_neg hc,
      ih fun other hother => hpiece other (List.mem_cons_of_mem c hother)]

theorem splitChars_of_none (p : Char → Bool) {chars : List Char} (h : ∀ c ∈ chars, p c = false) :
    splitChars p chars = [chars] := by
  induction chars with
  | nil => rfl
  | cons c chars ih =>
    have hc : ¬ p c = true := by simp [h c List.mem_cons_self]
    rw [splitChars, if_neg hc, ih fun other hother => h other (List.mem_cons_of_mem c hother)]

/-- A text has no separator, or a first one. -/
theorem separator_cases (p : Char → Bool) (chars : List Char) :
    (∀ c ∈ chars, p c = false) ∨
      ∃ front separator rest, chars = front ++ separator :: rest ∧ p separator = true ∧
        ∀ c ∈ front, p c = false := by
  induction chars with
  | nil => exact .inl (by simp)
  | cons c chars ih =>
    cases hc : p c with
    | true => exact .inr ⟨[], c, chars, rfl, hc, by simp⟩
    | false =>
      rcases ih with hnone | ⟨front, separator, rest, rfl, hseparator, hfront⟩
      · exact .inl (List.forall_mem_cons.mpr ⟨hc, hnone⟩)
      · exact .inr ⟨c :: front, separator, rest, rfl, hseparator,
          List.forall_mem_cons.mpr ⟨hc, hfront⟩⟩

/-- A piece has no separator and stands between two of them, or at an end of the text. -/
theorem of_mem_splitChars {p : Char → Bool} {chars piece : List Char}
    (h : piece ∈ splitChars p chars) :
    (∀ c ∈ piece, p c = false) ∧
      ∃ before after, chars = before ++ piece ++ after ∧
        (∀ c ∈ before.getLast?, p c = true) ∧ ∀ c ∈ after.head?, p c = true := by
  -- The induction is on the number of characters, since a piece takes several of them.
  induction hlength : chars.length using Nat.strongRecOn generalizing chars with
  | ind length ih =>
    subst hlength
    rcases separator_cases p chars with hnone | ⟨front, separator, rest, rfl, hseparator, hfront⟩
    · rw [splitChars_of_none p hnone, List.mem_singleton] at h
      subst h
      exact ⟨hnone, [], [], by simp, by simp, by simp⟩
    · rw [splitChars_append p rest hfront hseparator, List.mem_cons] at h
      rcases h with rfl | hmem
      · exact ⟨hfront, [], separator :: rest, by simp, by simp, by simpa using hseparator⟩
      · have hshorter : rest.length < (front ++ separator :: rest).length := by
          rw [List.length_append, List.length_cons]
          omega
        obtain ⟨hpiece, before, after, rfl, hbefore, hafter⟩ := ih rest.length hshorter hmem rfl
        refine ⟨hpiece, front ++ separator :: before, after, by simp, ?_, hafter⟩
        cases hlast : before.getLast? with
        | none => simp [List.getLast?_append, List.getLast?_cons, hlast, hseparator]
        | some last =>
          have hp := hbefore last hlast
          simp [List.getLast?_append, List.getLast?_cons, hlast, hp]

theorem IsWord.isEmpty {text : String} (h : IsWord text) : text.toList.isEmpty = false := by
  rw [List.isEmpty_eq_false_iff]
  exact fun hempty => h.nonempty (String.toList_eq_nil_iff.mp hempty)

/-- The first word of a line that begins with one. -/
theorem words_ofList {word : String} (h : IsWord word) (blank : Char) (rest : List Char)
    (hblank : isBlank blank = true) :
    words (String.ofList (word.toList ++ blank :: rest)) = word :: words (String.ofList rest) := by
  rw [words, String.toList_ofList, splitChars_append isBlank rest h.solid hblank,
    List.filter_cons, h.isEmpty, if_pos (by decide), List.map_cons, String.ofList_toList, words,
    String.toList_ofList]

/-- Other characters than the separator. -/
theorem decide_ne_of_notMem {separator : Char} {chars : List Char} (h : separator ∉ chars) :
    ∀ c ∈ chars, decide (c ≠ separator) = true := by
  intro c hc
  rw [decide_eq_true_eq]
  rintro rfl
  exact h hc

/-- A text is split at its first separator. -/
theorem splitOnce?_append {separator : Char} {front : String} (back : String)
    (h : separator ∉ front.toList) :
    splitOnce? separator (front ++ separator.toString ++ back) = some (front, back) := by
  have hspan : (front ++ separator.toString ++ back).toList.span (· ≠ separator) =
      (front.toList, separator :: back.toList) := by
    have hchars : (front ++ separator.toString ++ back).toList =
        front.toList ++ separator :: back.toList := by simp
    have hfront := decide_ne_of_notMem h
    rw [hchars, List.span_eq_takeWhile_dropWhile, List.takeWhile_append_of_pos hfront,
      List.dropWhile_append_of_pos hfront]
    simp
  rw [splitOnce?, hspan]
  dsimp only
  rw [String.ofList_toList, String.ofList_toList]

/-- What a text is split into at a separator. -/
theorem eq_of_splitOnce? {separator : Char} {text front back : String}
    (h : splitOnce? separator text = some (front, back)) :
    text.toList = front.toList ++ separator :: back.toList := by
  unfold splitOnce? at h
  have hwhole := List.takeWhile_append_dropWhile (p := (· ≠ separator)) (l := text.toList)
  rw [List.span_eq_takeWhile_dropWhile] at h
  cases hrest : text.toList.dropWhile (· ≠ separator) with
  | nil =>
    rw [hrest] at h
    cases h
  | cons other rest =>
    have hnot := List.head?_dropWhile_not (· ≠ separator) text.toList
    rw [hrest] at hnot hwhole
    obtain rfl : other = separator := by simpa using hnot
    rw [hrest] at h
    cases h
    rw [String.toList_ofList, String.toList_ofList]
    exact hwhole.symm

/-- The text before the first separator, or all of it if there is none. -/
theorem before_eq_iff {separator : Char} {text front : String} :
    before separator text = front ↔ separator ∉ front.toList ∧
      (text = front ∨ ∃ back, text = front ++ separator.toString ++ back) := by
  constructor
  · rintro rfl
    have hplain : separator ∉ text.toList.takeWhile (· ≠ separator) := by
      intro hmem
      simpa using List.mem_takeWhile_imp hmem
    refine ⟨by rwa [before, String.toList_ofList], ?_⟩
    have hwhole := List.takeWhile_append_dropWhile (p := (· ≠ separator)) (l := text.toList)
    cases hrest : text.toList.dropWhile (· ≠ separator) with
    | nil =>
      rw [hrest, List.append_nil] at hwhole
      exact .inl (by rw [before, hwhole, String.ofList_toList])
    | cons other rest =>
      -- What is not taken begins with the separator.
      have hnot := List.head?_dropWhile_not (· ≠ separator) text.toList
      rw [hrest] at hnot
      obtain rfl : other = separator := by simpa using hnot
      refine .inr ⟨String.ofList rest, String.toList_inj.mp ?_⟩
      rw [← hwhole, hrest]
      simp [before]
  · rintro ⟨hplain, rfl | ⟨back, rfl⟩⟩
    · rw [before, List.takeWhile_eq_self_iff.mpr (decide_ne_of_notMem hplain),
        String.ofList_toList]
    · have hchars : (front ++ separator.toString ++ back).toList =
          front.toList ++ separator :: back.toList := by simp
      rw [before, hchars, List.takeWhile_append_of_pos (decide_ne_of_notMem hplain),
        List.takeWhile_cons_of_neg (by simp), List.append_nil, String.ofList_toList]

/-! ### Trimming -/

/-- What is cut off at the end does not reach further than this. -/
theorem dropEndWhile_append (p : Char → Bool) (chars : List Char) {tail : List Char}
    (htail : ∀ c ∈ tail, p c = true) :
    dropEndWhile p (chars ++ tail) = dropEndWhile p chars := by
  rw [dropEndWhile, List.reverse_append, List.dropWhile_append_of_pos, dropEndWhile]
  simpa using htail

/-- Nothing is cut off at the end of a text that ends in something else. -/
theorem dropEndWhile_of_last {p : Char → Bool} {chars : List Char}
    (h : ∀ c ∈ chars.getLast?, p c = false) : dropEndWhile p chars = chars := by
  rw [← List.head?_reverse] at h
  rw [dropEndWhile]
  cases hreverse : chars.reverse with
  | nil => rw [List.reverse_eq_nil_iff.mp hreverse]; rfl
  | cons c rest =>
    have hc : ¬ p c = true := by simp [h c (by rw [hreverse]; rfl)]
    rw [List.dropWhile_cons_of_neg hc, ← hreverse, List.reverse_reverse]

/-- What is cut off at the end are characters of this kind. -/
theorem exists_dropEndWhile (p : Char → Bool) (chars : List Char) :
    ∃ tail, chars = dropEndWhile p chars ++ tail ∧ ∀ c ∈ tail, p c = true := by
  refine ⟨(chars.reverse.takeWhile p).reverse, ?_, ?_⟩
  · rw [dropEndWhile, ← List.reverse_append, List.takeWhile_append_dropWhile, List.reverse_reverse]
  · intro c hc
    exact List.mem_takeWhile_imp (List.mem_reverse.mp hc)

/-- What is cut off at the ends is white space. -/
theorem exists_trimChars (chars : List Char) :
    ∃ left right, chars = left ++ trimChars chars ++ right ∧
      (∀ c ∈ left, isBlank c = true) ∧ ∀ c ∈ right, isBlank c = true := by
  obtain ⟨right, hright, hblank⟩ := exists_dropEndWhile isBlank (chars.dropWhile isBlank)
  refine ⟨chars.takeWhile isBlank, right, ?_, fun c hc => List.mem_takeWhile_imp hc, hblank⟩
  rw [trimChars, List.append_assoc, ← hright, List.takeWhile_append_dropWhile]

/-- No white space is left at the ends. -/
theorem isTrimmed_ofList (chars : List Char) : IsTrimmed (String.ofList (trimChars chars)) where
  first c hc := by
    rw [String.toList_ofList, trimChars] at hc
    obtain ⟨tail, htail, -⟩ := exists_dropEndWhile isBlank (chars.dropWhile isBlank)
    have hfirst : (chars.dropWhile isBlank).head? = some c := by
      rw [htail, List.head?_append, hc]
      rfl
    have hnot := List.head?_dropWhile_not isBlank chars
    rw [hfirst] at hnot
    simpa using hnot
  last c hc := by
    rw [String.toList_ofList, trimChars, dropEndWhile, List.getLast?_reverse] at hc
    have hnot := List.head?_dropWhile_not isBlank (chars.dropWhile isBlank).reverse
    rw [hc] at hnot
    simpa using hnot

/-- White space at the ends makes no difference. -/
theorem trimChars_append {left right : List Char} (chars : List Char)
    (hleft : ∀ c ∈ left, isBlank c = true) (hright : ∀ c ∈ right, isBlank c = true) :
    trimChars (left ++ chars ++ right) = trimChars chars := by
  have hnone : right.dropWhile isBlank = [] := by
    rw [List.dropWhile_eq_nil_iff]
    exact hright
  rw [trimChars, List.append_assoc, List.dropWhile_append_of_pos hleft, List.dropWhile_append,
    trimChars]
  -- If the text is all white space, what stands at its right is cut off from the left.
  by_cases hempty : (chars.dropWhile isBlank).isEmpty
  · rw [if_pos hempty, hnone, List.isEmpty_iff.mp hempty]
  · rw [if_neg hempty, dropEndWhile_append isBlank _ hright]

/-- White space around a text is no part of it. -/
theorem trim_append {left right : String} (text : String)
    (h : ∀ c ∈ left.toList ++ right.toList, isBlank c = true) :
    trim (left ++ text ++ right) = trim text := by
  rw [trim, trim, String.toList_append, String.toList_append,
    trimChars_append _ (fun c hc => h c (List.mem_append_left _ hc))
      fun c hc => h c (List.mem_append_right _ hc)]

/-- No characters are added. -/
theorem mem_of_mem_trim {text : String} {c : Char} (h : c ∈ (trim text).toList) :
    c ∈ text.toList := by
  obtain ⟨left, right, htrim, -⟩ := exists_trimChars text.toList
  rw [trim, String.toList_ofList] at h
  rw [htrim]
  simp [h]

/-- An element of a comma-separated list: what stands between two commas, or a comma and an end,
without the white space around it. -/
structure CommaElement (list element : String) : Prop where
  trimmed : IsTrimmed element
  noComma : ',' ∉ element.toList
  stands : ∃ before left right after,
    list = before ++ left ++ element ++ right ++ after ∧
    (∀ c ∈ left.toList ++ right.toList, isBlank c = true) ∧
    (∀ c ∈ before.toList.getLast?, c = ',') ∧ ∀ c ∈ after.toList.head?, c = ','

theorem commaElement_of_mem {list element : String} (h : element ∈ commaList list) :
    CommaElement list element := by
  obtain ⟨piece, hpiece, rfl⟩ := List.mem_map.mp h
  obtain ⟨hcomma, before, after, hlist, hbefore, hafter⟩ := of_mem_splitChars hpiece
  have htrimmed := isTrimmed_ofList piece
  obtain ⟨left, right, htrim, hleft, hright⟩ := exists_trimChars piece
  generalize trimChars piece = middle at htrimmed htrim
  subst htrim
  refine ⟨htrimmed, ?_, String.ofList before, String.ofList left, String.ofList right,
    String.ofList after, ?_, ?_, ?_, ?_⟩
  · intro hmem
    rw [String.toList_ofList] at hmem
    exact absurd (hcomma ',' (by simp [hmem])) (by decide)
  · apply String.toList_inj.mp
    simpa using hlist
  · simpa [or_imp, forall_and] using And.intro hleft hright
  · simpa using hbefore
  · simpa using hafter

/-- An element is made of characters of the list. -/
theorem CommaElement.mem {list element : String} (h : CommaElement list element) {c : Char}
    (hc : c ∈ element.toList) : c ∈ list.toList := by
  obtain ⟨before, left, right, after, rfl, -⟩ := h.stands
  simp [hc]

/-- Nothing is cut off a trimmed text. -/
theorem trim_of_trimmed {text : String} (h : IsTrimmed text) : trim text = text := by
  have hstart : text.toList.dropWhile isBlank = text.toList := by
    cases hchars : text.toList with
    | nil => rfl
    | cons c rest =>
      have hc : ¬ isBlank c = true := by simp [h.first c (by rw [hchars]; rfl)]
      rw [List.dropWhile_cons_of_neg hc]
  rw [trim, trimChars, hstart, dropEndWhile_of_last h.last, String.ofList_toList]

end SocketGate.Text
