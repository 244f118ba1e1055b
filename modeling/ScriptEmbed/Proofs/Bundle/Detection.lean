import Mathlib.Tactic.ByContra
import ScriptEmbed.Bundle.Wrapper

/-!
The wrapper that is detected, by its places: the opening is the first segment that opens one and the
closing the last that closes one (`detectWrapper_eq_some_iff`). Both are found alike, the last place
in a list being the first in its reverse, so what is said of one by the segments before it is said
of the other by those after it.
-/

set_option autoImplicit false
set_option relaxedAutoImplicit false

namespace ScriptEmbed.Bundle

section

variable {α : Type} {test : α → Bool} {xs : List α} {i : Nat}

theorem lt_length_of_any (h : xs[i]?.any test = true) : i < xs.length := by
  by_contra hout
  rw [List.getElem?_eq_none (Nat.not_lt.mp hout)] at h
  cases h

theorem findIdx?_eq_some_iff_any :
    xs.findIdx? test = some i ↔
      xs[i]?.any test = true ∧ ∀ j, j < i → xs[j]?.any test = false := by
  rw [List.findIdx?_eq_some_iff_getElem]
  constructor
  · rintro ⟨hi, htest, hbefore⟩
    refine ⟨by simpa [hi] using htest, ?_⟩
    intro j hj
    have hlt : j < xs.length := Nat.lt_trans hj hi
    simpa [hlt] using hbefore j hj
  · rintro ⟨htest, hbefore⟩
    have hi := lt_length_of_any htest
    refine ⟨hi, by simpa [hi] using htest, ?_⟩
    intro j hj
    have hlt : j < xs.length := Nat.lt_trans hj hi
    simpa [hlt] using hbefore j hj

theorem lastIndex?_eq_some_iff :
    lastIndex? test xs = some i ↔
      xs[i]?.any test = true ∧ ∀ j, i < j → xs[j]?.any test = false := by
  have hreverse : ∀ j, j < xs.length → xs.reverse[xs.length - 1 - j]? = xs[j]? := by
    intro j hj
    rw [List.getElem?_reverse (by omega)]
    congr 1
    omega
  simp only [lastIndex?, Option.map_eq_some_iff, findIdx?_eq_some_iff_any]
  constructor
  · rintro ⟨fromEnd, ⟨htest, hbefore⟩, rfl⟩
    have hend : fromEnd < xs.length := by simpa using lt_length_of_any htest
    rw [List.getElem?_reverse hend] at htest
    refine ⟨htest, ?_⟩
    intro j hj
    by_cases hlt : j < xs.length
    · rw [← hreverse j hlt]
      exact hbefore _ (by omega)
    · rw [List.getElem?_eq_none (Nat.not_lt.mp hlt)]
      rfl
  · rintro ⟨htest, hafter⟩
    have hi := lt_length_of_any htest
    refine ⟨xs.length - 1 - i, ⟨by rwa [hreverse i hi], ?_⟩, by omega⟩
    intro j hj
    rw [List.getElem?_reverse (by omega)]
    exact hafter _ (by omega)

/-- The first place stays the first, whatever comes after it. -/
theorem findIdx?_take_append (h : xs.findIdx? test = some i) (back : List α) :
    (xs.take (i + 1) ++ back).findIdx? test = some i := by
  obtain ⟨htest, hbefore⟩ := findIdx?_eq_some_iff_any.mp h
  have hi := lt_length_of_any htest
  have hsame : ∀ j, j ≤ i → (xs.take (i + 1) ++ back)[j]? = xs[j]? := by
    intro j hj
    have hlength : j < (xs.take (i + 1)).length := by
      rw [List.length_take]
      omega
    rw [List.getElem?_append_left hlength, List.getElem?_take_of_lt (Nat.lt_succ_of_le hj)]
  refine findIdx?_eq_some_iff_any.mpr ⟨by rwa [hsame i (Nat.le_refl i)], ?_⟩
  intro j hj
  rw [hsame j (Nat.le_of_lt hj)]
  exact hbefore j hj

/-- The last place stays the last, whatever comes before it. -/
theorem lastIndex?_append_drop (h : lastIndex? test xs = some i) (front : List α) :
    lastIndex? test (front ++ xs.drop i) = some front.length := by
  obtain ⟨htest, hafter⟩ := lastIndex?_eq_some_iff.mp h
  have hsame : ∀ j, front.length ≤ j →
      (front ++ xs.drop i)[j]? = xs[i + (j - front.length)]? := by
    intro j hj
    rw [List.getElem?_append_right hj, List.getElem?_drop]
  refine lastIndex?_eq_some_iff.mpr ⟨?_, ?_⟩
  · rw [hsame _ (Nat.le_refl _), Nat.sub_self]
    exact htest
  · intro j hj
    rw [hsame j (Nat.le_of_lt hj)]
    exact hafter _ (by omega)

end

theorem detectWrapper_eq_some_iff {segments : List Text} {bounds : Bounds} :
    detectWrapper segments = some bounds ↔
      segments.findIdx? isOpening = some bounds.opening ∧
        lastIndex? isClosing segments = some bounds.closing ∧
        bounds.opening < bounds.closing := by
  obtain ⟨opening, closing⟩ := bounds
  unfold detectWrapper
  cases hopening : segments.findIdx? isOpening with
  | none => simp
  | some first =>
    cases hclosing : lastIndex? isClosing segments with
    | none => simp
    | some last =>
      by_cases horder : first < last
      · simp only [horder, ↓reduceIte, Option.some.injEq, Bounds.mk.injEq]
        constructor
        · rintro ⟨rfl, rfl⟩
          exact ⟨rfl, rfl, horder⟩
        · rintro ⟨hfirst, hlast, -⟩
          exact ⟨hfirst, hlast⟩
      · simp only [horder, ↓reduceIte, reduceCtorEq, Option.some.injEq, false_iff]
        rintro ⟨rfl, rfl, hlt⟩
        exact horder hlt

section

variable {segments : List Text} {bounds : Bounds}

theorem opening_lt_closing (h : detectWrapper segments = some bounds) :
    bounds.opening < bounds.closing :=
  (detectWrapper_eq_some_iff.mp h).2.2

theorem closing_lt_length (h : detectWrapper segments = some bounds) :
    bounds.closing < segments.length :=
  lt_length_of_any (lastIndex?_eq_some_iff.mp (detectWrapper_eq_some_iff.mp h).2.1).1

end

end ScriptEmbed.Bundle
