import Mathlib.Data.List.Forall2
import Mathlib.Logic.Equiv.Defs
import SocketGate.Http.Request

/-!
# `SocketGate.Proofs.Http.Headers`: which header is found under a name

A header is looked up by its name without regard to case, and the first one of that name counts.
So a lookup does not depend on how the names are written, on how headers of different names are
mixed, or on headers of other names; nor on a header that stands behind another one of its name.

* `header?_congr`: the name that is asked for may be written in any case.
* `isUpgrade_iff`: which requests ask for an upgrade.
* `valueOf?_recased`: so may the names in the list.
* `valueOf?_reordered`: headers of different names may stand in any order.
* `valueOf?_insert`: a header that is not the first of its name is not found.
-/

set_option autoImplicit false

namespace SocketGate

namespace Text

theorem eqIgnoringCase_iff {a b : String} :
    eqIgnoringCase a b = true ↔ a.toList.map Char.toLower = b.toList.map Char.toLower :=
  beq_iff_eq

/-- Only the letters matter to the comparison, not their case. -/
theorem eqIgnoringCase_congr {a a' b b' : String} (ha : eqIgnoringCase a a' = true)
    (hb : eqIgnoringCase b b' = true) : eqIgnoringCase a b = eqIgnoringCase a' b' := by
  rw [eqIgnoringCase, eqIgnoringCase, eqIgnoringCase_iff.mp ha, eqIgnoringCase_iff.mp hb]

theorem eqIgnoringCase_refl (a : String) : eqIgnoringCase a a = true :=
  eqIgnoringCase_iff.mpr rfl

end Text

namespace Http

open Text (eqIgnoringCase eqIgnoringCase_congr eqIgnoringCase_refl)

/-- Whether a header has this name. -/
def isNamed (name : String) (header : String × String) : Bool :=
  eqIgnoringCase header.1 name

/-- The first value of a header in a list of headers. -/
def valueOf? (name : String) (headers : List (String × String)) : Option String :=
  (headers.find? (isNamed name)).map (·.2)

theorem Request.header?_eq_valueOf? (request : Request) (name : String) :
    request.header? name = valueOf? name request.headers :=
  rfl

/-- The name that is asked for may be written in any case. -/
theorem Request.header?_congr (request : Request) {name name' : String}
    (h : eqIgnoringCase name name' = true) : request.header? name = request.header? name' := by
  have hsame : isNamed name = isNamed name' := by
    funext header
    exact eqIgnoringCase_congr (eqIgnoringCase_refl header.1) h
  rw [header?_eq_valueOf?, header?_eq_valueOf?, valueOf?, hsame, valueOf?]

/-- A request asks for an upgrade if its first header of that name has the right value. -/
theorem Request.isUpgrade_iff {request : Request} :
    request.isUpgrade = true ↔ ∃ value, request.header? "Upgrade" = some value ∧
      eqIgnoringCase (Text.trim value) "websocket" = true := by
  unfold isUpgrade
  rw [request.header?_congr (show eqIgnoringCase "upgrade" "Upgrade" = true by decide)]
  cases request.header? "Upgrade" <;> simp

/-! ### Names in another case -/

/-- The same headers in the same order, whose names may be written in another case. -/
def Recased (headers headers' : List (String × String)) : Prop :=
  List.Forall₂ (fun header header' => eqIgnoringCase header'.1 header.1 = true ∧
    header'.2 = header.2) headers headers'

theorem valueOf?_recased {headers headers' : List (String × String)} (h : Recased headers headers')
    (name : String) : valueOf? name headers' = valueOf? name headers := by
  unfold valueOf?
  induction h with
  | nil => rfl
  | @cons header header' headers headers' hheader _ ih =>
    have hnamed : isNamed name header' = isNamed name header :=
      eqIgnoringCase_congr hheader.1 (eqIgnoringCase_refl name)
    rw [List.find?_cons, List.find?_cons, hnamed]
    cases isNamed name header with
    | true => exact congrArg some hheader.2
    | false => exact ih

/-! ### Headers in another order -/

/-- The same headers in another order: each of them has its place in the other list, and two of
the same name stand there in the same order as before. -/
def Reordered (headers headers' : List (String × String)) : Prop :=
  ∃ place : Fin headers.length ≃ Fin headers'.length,
    (∀ i, headers'.get (place i) = headers.get i) ∧
    ∀ i j, i < j → eqIgnoringCase (headers.get i).1 (headers.get j).1 = true → place i < place j

theorem valueOf?_reordered {headers headers' : List (String × String)}
    (h : Reordered headers headers') (name : String) :
    valueOf? name headers' = valueOf? name headers := by
  obtain ⟨place, hplace, hkept⟩ := h
  refine congrArg (Option.map _) ?_
  have hsource (k : Fin headers'.length) : headers'.get k = headers.get (place.symm k) := by
    rw [← hplace, place.apply_symm_apply]
  cases hfind : headers.find? (isNamed name) with
  | none =>
    rw [List.find?_eq_none] at hfind ⊢
    intro header hmem
    obtain ⟨k, rfl⟩ := List.mem_iff_get.mp hmem
    rw [hsource]
    exact hfind _ (List.get_mem headers _)
  | some header =>
    rw [List.find?_eq_some_iff_getElem] at hfind ⊢
    obtain ⟨hnamed, i, hi, rfl, hfirst⟩ := hfind
    refine ⟨hnamed, place ⟨i, hi⟩, (place ⟨i, hi⟩).isLt, hplace ⟨i, hi⟩, fun k hk => ?_⟩
    -- A header of this name in front of it would have come from in front of it or from behind it.
    let later : Fin headers'.length := ⟨k, Nat.lt_trans hk (place ⟨i, hi⟩).isLt⟩
    rw [Bool.not_eq_true', Bool.eq_false_iff]
    intro hother
    change isNamed name (headers'.get later) = true at hother
    rw [hsource] at hother
    rcases Nat.lt_trichotomy (place.symm later) i with hbefore | hsame | hbehind
    · have hnone := hfirst (place.symm later) hbefore
      rw [List.get_eq_getElem] at hother
      rw [hother] at hnone
      cases hnone
    · have hplaced : place ⟨i, hi⟩ = later := by
        rw [← place.apply_symm_apply later]
        exact congrArg place (Fin.ext hsame.symm)
      rw [hplaced] at hk
      exact Nat.lt_irrefl k hk
    · have hequal : eqIgnoringCase headers[i].1 (headers.get (place.symm later)).1 = true := by
        rw [eqIgnoringCase_congr (eqIgnoringCase_refl headers[i].1) hother]
        exact hnamed
      have hlater : place ⟨i, hi⟩ < place (place.symm later) :=
        hkept ⟨i, hi⟩ (place.symm later) hbehind hequal
      rw [place.apply_symm_apply] at hlater
      exact Nat.lt_asymm hk hlater

/-! ### More headers -/

/-- A header that has another name, or stands behind one of its name, is not found. -/
theorem valueOf?_insert {name : String} {before : List (String × String)}
    (after : List (String × String)) {header : String × String}
    (h : isNamed name header = true → ∃ first ∈ before, isNamed name first = true) :
    valueOf? name (before ++ header :: after) = valueOf? name (before ++ after) := by
  rw [valueOf?, valueOf?, List.find?_append, List.find?_append, List.find?_cons]
  cases hnamed : isNamed name header with
  | false => rfl
  | true =>
    obtain ⟨first, hmem, hfirst⟩ := h hnamed
    obtain ⟨found, hfound⟩ := Option.isSome_iff_exists.mp
      (List.find?_isSome.mpr ⟨first, hmem, hfirst⟩)
    rw [hfound, Option.some_or, Option.some_or]

end Http

end SocketGate
