import ScriptEmbed.Proofs.Bundle.Agreement
import ScriptEmbed.Proofs.Text.Trimming

/-!
The wrapper that is detected is the outermost one. The opening and the closing are searched for
apart, and only then compared. Since the first opening line is not after any other and the last
closing line not before any other, they come in order as soon as any two do
(`exists_detectWrapper_of_pair`), and they enclose every pair that does
(`WrapperPair.within_detected`). The search looks at trimmed segments only, so blanks at the ends of
segments do not count (`detectWrapper_of_map_trim`).
-/

set_option autoImplicit false
set_option relaxedAutoImplicit false

namespace ScriptEmbed

namespace Text

/-- The text with blanks, perhaps none, put at either end of it. -/
def Padded (body text : Text) : Prop :=
  ∃ front back, allBlank front = true ∧ allBlank back = true ∧ text = front ++ body ++ back

/-- One text comes from the other by taking blanks off its ends and adding some there. -/
def SameButPadding (first second : Text) : Prop := ∃ body, Padded body first ∧ Padded body second

theorem allBlank_append {front back : Text} (hfront : allBlank front = true)
    (hback : allBlank back = true) : allBlank (front ++ back) = true := by
  rw [allBlank, List.all_append, Bool.and_eq_true]
  exact ⟨hfront, hback⟩

theorem Padded.trim_eq {body text : Text} (h : Padded body text) : trim text = trim body := by
  obtain ⟨front, back, hfront, hback, rfl⟩ := h
  obtain ⟨before, after, hbefore, hafter, hbody⟩ := exists_trim body
  calc trim (front ++ body ++ back)
      = trim (front ++ before ++ trim body ++ (after ++ back)) := by
        conv_lhs => rw [hbody]
        simp only [List.append_assoc]
    _ = trim body :=
        trim_surrounded (allBlank_append hfront hbefore) (trimmed_trim body)
          (allBlank_append hafter hback)

theorem SameButPadding.trim_eq {first second : Text} (h : SameButPadding first second) :
    trim first = trim second := by
  obtain ⟨body, hfirst, hsecond⟩ := h
  exact hfirst.trim_eq.trans hsecond.trim_eq.symm

end Text

namespace Bundle

/-- Two segments in order, of which the first trims to an opening line of a wrapper and the second
to the closing line. -/
structure WrapperPair (segments : List Text) (i j : Nat) : Prop where
  ordered : i < j
  opening : ∃ segment, segments[i]? = some segment ∧ Text.trim segment ∈ openingWrappers
  closing : ∃ segment, segments[j]? = some segment ∧ Text.trim segment = closingWrapper

section

variable {segments : List Text} {i j : Nat} {bounds : Bounds}

theorem any_isOpening_iff : segments[i]?.any isOpening = true ↔
    ∃ segment, segments[i]? = some segment ∧ Text.trim segment ∈ openingWrappers := by
  simp [Option.any_eq_true, isOpening]

theorem any_isClosing_iff : segments[i]?.any isClosing = true ↔
    ∃ segment, segments[i]? = some segment ∧ Text.trim segment = closingWrapper := by
  simp [Option.any_eq_true, isClosing]

theorem wrapperPair_of_detectWrapper (h : detectWrapper segments = some bounds) :
    WrapperPair segments bounds.opening bounds.closing := by
  obtain ⟨hopening, hclosing, horder⟩ := detectWrapper_eq_some_iff.mp h
  exact ⟨horder, any_isOpening_iff.mp (findIdx?_eq_some_iff_any.mp hopening).1,
    any_isClosing_iff.mp (lastIndex?_eq_some_iff.mp hclosing).1⟩

/-- No opening line comes before the first and no closing line after the last. -/
theorem WrapperPair.between {first last : Nat} (hpair : WrapperPair segments i j)
    (hfirst : segments.findIdx? isOpening = some first)
    (hlast : lastIndex? isClosing segments = some last) : first ≤ i ∧ j ≤ last := by
  have hopening := any_isOpening_iff.mpr hpair.opening
  have hclosing := any_isClosing_iff.mpr hpair.closing
  constructor
  · by_contra hbefore
    have hnone := (findIdx?_eq_some_iff_any.mp hfirst).2 i (Nat.not_le.mp hbefore)
    rw [hopening] at hnone
    cases hnone
  · by_contra hafter
    have hnone := (lastIndex?_eq_some_iff.mp hlast).2 j (Nat.not_le.mp hafter)
    rw [hclosing] at hnone
    cases hnone

theorem WrapperPair.within_detected (hpair : WrapperPair segments i j)
    (h : detectWrapper segments = some bounds) : bounds.opening ≤ i ∧ j ≤ bounds.closing := by
  obtain ⟨hfirst, hlast, -⟩ := detectWrapper_eq_some_iff.mp h
  exact hpair.between hfirst hlast

theorem any_of_getElem? {α : Type} {test : α → Bool} {xs : List α} {k : Nat}
    (h : xs[k]?.any test = true) : xs.any test = true := by
  cases hx : xs[k]? with
  | none => simp [hx] at h
  | some x => exact List.any_eq_true.mpr ⟨x, List.mem_of_getElem? hx, by simpa [hx] using h⟩

/-- Where two segments come in order, the first opening line and the last closing line do. -/
theorem exists_detectWrapper_of_pair (hpair : WrapperPair segments i j) :
    ∃ bounds, detectWrapper segments = some bounds := by
  have hopens := any_of_getElem? (any_isOpening_iff.mpr hpair.opening)
  have hcloses := any_of_getElem? (any_isClosing_iff.mpr hpair.closing)
  obtain ⟨first, hfirst⟩ : ∃ first, segments.findIdx? isOpening = some first :=
    Option.isSome_iff_exists.mp (List.findIdx?_isSome.trans hopens)
  obtain ⟨fromEnd, hfromEnd⟩ : ∃ fromEnd, segments.reverse.findIdx? isClosing = some fromEnd :=
    Option.isSome_iff_exists.mp (List.findIdx?_isSome.trans (List.any_reverse.trans hcloses))
  have hlast : lastIndex? isClosing segments = some (segments.length - 1 - fromEnd) := by
    rw [lastIndex?, hfromEnd]
    rfl
  obtain ⟨hbefore, hafter⟩ := hpair.between hfirst hlast
  have horder : first < segments.length - 1 - fromEnd :=
    Nat.lt_of_le_of_lt hbefore (Nat.lt_of_lt_of_le hpair.ordered hafter)
  exact ⟨⟨first, _⟩, detectWrapper_eq_some_iff.mpr ⟨hfirst, hlast, horder⟩⟩

theorem isSome_detectWrapper_iff :
    (detectWrapper segments).isSome = true ↔ ∃ i j, WrapperPair segments i j := by
  rw [Option.isSome_iff_exists]
  constructor
  · rintro ⟨bounds, h⟩
    exact ⟨bounds.opening, bounds.closing, wrapperPair_of_detectWrapper h⟩
  · rintro ⟨i, j, hpair⟩
    exact exists_detectWrapper_of_pair hpair

theorem checkLayout_eq_unrecognized_iff :
    checkLayout segments = .unrecognized ↔ detectWrapper segments = none := by
  unfold checkLayout
  cases detectWrapper segments with
  | none => simp
  | some bounds =>
    simp only [reduceCtorEq, iff_false]
    split <;> simp

end

/-! ### Blanks at the ends of segments -/

section

variable {segments others : List Text}

theorem detectWrapper_of_map_trim (h : segments.map Text.trim = others.map Text.trim) :
    detectWrapper segments = detectWrapper others := by
  have hlength : segments.length = others.length := by
    simpa using congrArg List.length h
  have hopening : segments.findIdx? isOpening = others.findIdx? isOpening := by
    have hsame := congrArg (List.findIdx? openingWrappers.contains) h
    rwa [List.findIdx?_map, List.findIdx?_map] at hsame
  have hclosing : segments.reverse.findIdx? isClosing = others.reverse.findIdx? isClosing := by
    have hsame := congrArg (fun trimmed ↦ trimmed.reverse.findIdx? (· == closingWrapper)) h
    simp only [← List.map_reverse] at hsame
    rwa [List.findIdx?_map, List.findIdx?_map] at hsame
  rw [detectWrapper, detectWrapper, hopening, lastIndex?, lastIndex?, hclosing, hlength]

theorem map_trim_of_padding (h : List.Forall₂ Text.SameButPadding segments others) :
    segments.map Text.trim = others.map Text.trim := by
  induction h with
  | nil => rfl
  | cons hsegment _ ih => rw [List.map_cons, List.map_cons, hsegment.trim_eq, ih]

theorem checkLayout_of_map_trim (h : segments.map Text.trim = others.map Text.trim) :
    checkLayout segments = checkLayout others := by
  have hlength : segments.length = others.length := by
    simpa using congrArg List.length h
  rw [checkLayout, checkLayout, detectWrapper_of_map_trim h, hlength]

end

/-- A wrapper is found exactly if some opening line comes before some closing line. What is found is
such a pair itself and encloses every other. Blanks at the ends of segments change neither it nor
the layout check, which recognises no wrapper exactly if there is no such pair, and finds the usual
layout exactly if the opening line is the third segment and the closing line the last but one. -/
theorem detectWrapper_outermost (segments : List Text) :
    ((detectWrapper segments).isSome = true ↔ ∃ i j, WrapperPair segments i j) ∧
    (∀ bounds, detectWrapper segments = some bounds →
      WrapperPair segments bounds.opening bounds.closing ∧
      bounds.opening < bounds.closing ∧ bounds.closing < segments.length ∧
      ∀ i j, WrapperPair segments i j → bounds.opening ≤ i ∧ j ≤ bounds.closing) ∧
    (∀ others, List.Forall₂ Text.SameButPadding segments others →
      detectWrapper others = detectWrapper segments ∧
      checkLayout others = checkLayout segments) ∧
    (checkLayout segments = .unrecognized ↔ ¬ ∃ i j, WrapperPair segments i j) ∧
    (checkLayout segments = .agrees ↔
      ∃ bounds, detectWrapper segments = some bounds ∧ bounds.opening = 2 ∧
        bounds.closing = segments.length - 2) := by
  refine ⟨isSome_detectWrapper_iff, ?_, ?_, ?_, ?_⟩
  · intro bounds h
    exact ⟨wrapperPair_of_detectWrapper h, opening_lt_closing h, closing_lt_length h,
      fun i j hpair ↦ hpair.within_detected h⟩
  · intro others hpadding
    have htrim := map_trim_of_padding hpadding
    exact ⟨(detectWrapper_of_map_trim htrim).symm, (checkLayout_of_map_trim htrim).symm⟩
  · rw [checkLayout_eq_unrecognized_iff, ← isSome_detectWrapper_iff, Bool.not_eq_true,
      Option.isSome_eq_false_iff, Option.isNone_iff_eq_none]
  · rw [checkLayout_eq_agrees_iff]
    refine exists_congr fun bounds ↦ and_congr_right fun h ↦ and_congr_right fun hopening ↦ ?_
    have horder := opening_lt_closing h
    omega

/-- Two wrappers, one in the other, after a closing line that stands alone; then the same with the
outer lines indented and a carriage return after them. -/
theorem detectWrapper_outermost_nested :
    detectWrapper ["\x7d)();".toList, "(() => \x7b".toList, "(function() \x7b".toList,
        "\x7d)();".toList, "\x7d)();".toList] = some ⟨1, 4⟩ ∧
      (∃ i j, WrapperPair ["\x7d)();".toList, "(() => \x7b".toList, "(function() \x7b".toList,
        "\x7d)();".toList, "\x7d)();".toList] i j) ∧
      detectWrapper ["\x7d)();".toList, "  (() => \x7b\r".toList, "(function() \x7b".toList,
        "\x7d)();".toList, "\u00A0\x7d)();\r".toList] = some ⟨1, 4⟩ := by
  have hfound : detectWrapper ["\x7d)();".toList, "(() => \x7b".toList,
      "(function() \x7b".toList, "\x7d)();".toList, "\x7d)();".toList] = some ⟨1, 4⟩ := by
    decide
  obtain ⟨hsome, -, hpadding, -, -⟩ := detectWrapper_outermost ["\x7d)();".toList,
    "(() => \x7b".toList, "(function() \x7b".toList, "\x7d)();".toList, "\x7d)();".toList]
  have hsame : ∀ text : Text, Text.SameButPadding text text :=
    fun text ↦ ⟨text, ⟨[], [], rfl, rfl, by simp⟩, [], [], rfl, rfl, by simp⟩
  refine ⟨hfound, hsome.mp (by rw [hfound]; rfl), ?_⟩
  rw [(hpadding _ (.cons (hsame _) (.cons ?_ (.cons (hsame _) (.cons (hsame _)
    (.cons ?_ .nil)))))).1, hfound]
  · exact ⟨"(() => \x7b".toList, ⟨[], [], rfl, rfl, by simp⟩, "  ".toList, ['\r'], by decide,
      by decide, by decide⟩
  · exact ⟨"\x7d)();".toList, ⟨[], [], rfl, rfl, by simp⟩, ['\u00A0'], ['\r'], by decide,
      by decide, by decide⟩

end Bundle

end ScriptEmbed
