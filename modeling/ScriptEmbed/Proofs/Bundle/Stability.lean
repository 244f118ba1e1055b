import Mathlib.Order.Monotone.Basic
import ScriptEmbed.Proofs.Bundle.Insertion
import ScriptEmbed.Proofs.Text.Trimming

/-!
The wrapper of a bundle is found again in the wrapped bundle. Under a signature without newlines the
header is one line and the footer three, and none of these is a wrapper line. So every wrapper line
of the wrapped bundle is one of the bundle, in the place where wrapping has put it
(`atPlaces_wrappedAt`). These places are in the same order, hence the first opening line is
still the first, the last closing line still the last (`detectWrapper_of_places`), and the distances
that the layout check goes by stay what they were (`checkLayout_wrappedAt`).
-/

set_option autoImplicit false
set_option relaxedAutoImplicit false

namespace ScriptEmbed

/-! ### The lines of a signature -/

namespace Signature

/-- The lines of the footer, for a name without newlines. -/
def footerLines (signature : Signature) : List Text :=
  [['\x7d'], "    ".toList,
    "globalThis.".toList ++ signature.name ++ " = ".toList ++ signature.name ++ [';']]

/-- Neither the name nor a parameter holds a newline. -/
structure OneLine (signature : Signature) : Prop where
  name : '\n' ∉ signature.name
  params : ∀ param ∈ signature.params, '\n' ∉ param

variable {signature : Signature}

theorem notMem_intercalate {c : Char} {between : Text} {parts : List Text} (hbetween : c ∉ between)
    (hparts : ∀ part ∈ parts, c ∉ part) : c ∉ List.intercalate between parts := by
  induction parts with
  | nil => simp
  | cons part parts ih =>
    rw [List.forall_mem_cons] at hparts
    by_cases hlast : parts = []
    · simpa [hlast] using hparts.1
    · rw [List.intercalate_cons_of_ne_nil hlast]
      simp [hparts.1, hbetween, ih hparts.2]

theorem OneLine.segments_header (h : signature.OneLine) :
    Text.segments signature.header = [signature.header] := by
  have hparams : '\n' ∉ List.intercalate ", ".toList signature.params :=
    notMem_intercalate (by decide) h.params
  have hheader : '\n' ∉ signature.header := by
    unfold header
    simp only [List.mem_append, not_or]
    exact ⟨⟨⟨⟨by decide, h.name⟩, by decide⟩, hparams⟩, by decide⟩
  rw [Text.segments, List.splitOn_eq_singleton hheader]

theorem OneLine.segments_footer (h : signature.OneLine) :
    Text.segments signature.footer = signature.footerLines := by
  have hbrace : '\n' ∉ ['\x7d'] := by decide
  have hspaces : '\n' ∉ "    ".toList := by decide
  have hlast : '\n' ∉
      "globalThis.".toList ++ signature.name ++ " = ".toList ++ signature.name ++ [';'] := by
    simp only [List.mem_append, not_or]
    exact ⟨⟨⟨⟨by decide, h.name⟩, by decide⟩, h.name⟩, by decide⟩
  have hfooter : signature.footer = ['\x7d'] ++ '\n' :: ("    ".toList ++ '\n' ::
      ("globalThis.".toList ++ signature.name ++ " = ".toList ++ signature.name ++ [';'])) := rfl
  rw [hfooter, Text.segments, List.splitOn_append_cons_self_of_not_mem hbrace,
    List.splitOn_append_cons_self_of_not_mem hspaces, List.splitOn_eq_singleton hlast]
  rfl

end Signature

namespace Bundle

/-! ### Lines that are no wrapper lines -/

/-- A line that begins like no wrapper line is none. -/
theorem not_wrapper_of_head {c : Char} {rest : Text} (hc : Text.isBlank c = false)
    (hopening : c ≠ '(') (hclosing : c ≠ '\x7d') :
    isOpening (c :: rest) = false ∧ isClosing (c :: rest) = false := by
  have htrim : Text.trim (c :: rest) = c :: Text.trimEnd rest := by
    rw [Text.trim, Text.trimStart, List.dropWhile_cons_of_neg (by simp [hc]),
      Text.trimEnd_cons_of_visible hc]
  constructor
  · simp [isOpening, htrim, openingWrappers, hopening]
  · simp [isClosing, htrim, closingWrapper, hclosing]

theorem header_not_wrapper (signature : Signature) :
    isOpening signature.header = false ∧ isClosing signature.header = false :=
  not_wrapper_of_head (by decide) (by decide) (by decide)

theorem footerLines_not_wrapper (signature : Signature) :
    ∀ line ∈ signature.footerLines, isOpening line = false ∧ isClosing line = false := by
  have hbrace : isOpening ['\x7d'] = false ∧ isClosing ['\x7d'] = false := by decide
  have hspaces : isOpening "    ".toList = false ∧ isClosing "    ".toList = false := by decide
  simp only [Signature.footerLines, List.forall_mem_cons, List.not_mem_nil, false_implies,
    implies_true, and_true]
  exact ⟨hbrace, hspaces, not_wrapper_of_head (by decide) (by decide) (by decide)⟩

/-! ### Places in the same order -/

section

variable {α : Type} {test : α → Bool} {xs ys : List α} {place : Nat → Nat}

/-- The elements that pass a test are those of another list, each in the place that `place` says. -/
def AtPlaces (test : α → Bool) (place : Nat → Nat) (xs ys : List α) : Prop :=
  ∀ k : Nat, (ys[k]?).any test = true ↔ ∃ i : Nat, place i = k ∧ (xs[i]?).any test = true

theorem forall_any_eq_false_iff {zs : List α} :
    (∀ k : Nat, (zs[k]?).any test = false) ↔ ∀ z ∈ zs, test z = false := by
  constructor
  · intro hnone z hz
    obtain ⟨k, hk⟩ := List.mem_iff_getElem?.mp hz
    simpa [hk] using hnone k
  · intro hnone k
    cases hk : zs[k]? with
    | none => rfl
    | some z => exact hnone z (List.mem_of_getElem? hk)

/-- A search that finds the element which passes a test and has none before it that does, in some
order of the places, finds it in its new place if `place` keeps that order. -/
theorem AtPlaces.search (find : List α → Option Nat) (before : Nat → Nat → Prop)
    (hsome : ∀ {zs i}, find zs = some i ↔
      (zs[i]?).any test = true ∧ ∀ j, before j i → (zs[j]?).any test = false)
    (hnone : ∀ {zs}, find zs = none ↔ ∀ z ∈ zs, test z = false)
    (horder : ∀ {i j}, before (place i) (place j) → before i j)
    (h : AtPlaces test place xs ys) : find ys = (find xs).map place := by
  cases hfound : find xs with
  | none =>
    rw [hnone, ← forall_any_eq_false_iff] at hfound
    rw [Option.map_none, hnone, ← forall_any_eq_false_iff]
    intro k
    by_contra hany
    obtain ⟨i, -, hi⟩ := (h k).mp (by simpa using hany)
    rw [hfound i] at hi
    cases hi
  | some first =>
    obtain ⟨htest, hbefore⟩ := hsome.mp hfound
    refine hsome.mpr ⟨(h _).mpr ⟨first, rfl, htest⟩, ?_⟩
    intro k hk
    by_contra hany
    obtain ⟨i, rfl, hi⟩ := (h k).mp (by simpa using hany)
    rw [hbefore i (horder hk)] at hi
    cases hi

theorem lastIndex?_eq_none_iff {zs : List α} :
    lastIndex? test zs = none ↔ ∀ z ∈ zs, test z = false := by
  rw [lastIndex?, Option.map_eq_none_iff, List.findIdx?_eq_none_iff]
  simp only [List.mem_reverse]

theorem AtPlaces.findIdx? (h : AtPlaces test place xs ys) (hmono : StrictMono place) :
    ys.findIdx? test = (xs.findIdx? test).map place :=
  h.search (List.findIdx? test) (· < ·) findIdx?_eq_some_iff_any List.findIdx?_eq_none_iff
    hmono.lt_iff_lt.mp

theorem AtPlaces.lastIndex? (h : AtPlaces test place xs ys) (hmono : StrictMono place) :
    lastIndex? test ys = (lastIndex? test xs).map place :=
  h.search (Bundle.lastIndex? test) (fun j i ↦ i < j) lastIndex?_eq_some_iff
    lastIndex?_eq_none_iff hmono.lt_iff_lt.mp

end

/-- The bounds of a wrapper whose lines have been put in other places. -/
def Bounds.map (place : Nat → Nat) (bounds : Bounds) : Bounds :=
  ⟨place bounds.opening, place bounds.closing⟩

/-- The same verdict, with the bounds that it names in other places. -/
def Layout.map (place : Nat → Nat) : Layout → Layout
  | .agrees => .agrees
  | .disagrees bounds => .disagrees (bounds.map place)
  | .unrecognized => .unrecognized

theorem detectWrapper_of_places {place : Nat → Nat} {lines moved : List Text}
    (hopening : AtPlaces isOpening place lines moved)
    (hclosing : AtPlaces isClosing place lines moved) (hmono : StrictMono place) :
    detectWrapper moved = (detectWrapper lines).map (Bounds.map place) := by
  unfold detectWrapper
  rw [hopening.findIdx? hmono, hclosing.lastIndex? hmono]
  cases lines.findIdx? isOpening with
  | none => rfl
  | some opening =>
    cases Bundle.lastIndex? isClosing lines with
    | none => rfl
    | some closing =>
      simp only [Option.map_some, hmono.lt_iff_lt]
      by_cases horder : opening < closing
      · simp [horder, Bounds.map]
      · simp [horder]

/-! ### The lines of a wrapped bundle -/

/-- The line of the wrapped text at which a segment of the bundle is found: past the header, which
is one line, and the footer, which is three. -/
def Wrapped.line (wrapped : Wrapped) (i : Nat) : Nat :=
  if i < wrapped.headerIndex then i
  else if i < wrapped.footerIndex - 1 then i + 1
  else i + 4

theorem strictMono_line (wrapped : Wrapped) : StrictMono wrapped.line := by
  intro i j hij
  unfold Wrapped.line
  split_ifs <;> omega

section

variable {raw : Text} {signature : Signature} {placement : Placement} {h f : Nat}

theorem line_wrappedAt (raw : Text) (signature : Signature) (h f i : Nat) :
    (wrappedAt raw signature h f).line i = shift 1 3 h f i := rfl

theorem lines_wrappedAt (hsignature : signature.OneLine) :
    Text.segments (wrappedAt raw signature h f).text =
      insertBlocks [signature.header] signature.footerLines h f (Text.segments raw) := by
  rw [segments_wrappedAt, hsignature.segments_header, hsignature.segments_footer]

/-- A test that no line of the signature passes is passed by lines of the bundle only. -/
theorem atPlaces_wrappedAt {test : Text → Bool} (hsignature : signature.OneLine)
    (hheader : test signature.header = false)
    (hfooter : ∀ line ∈ signature.footerLines, test line = false) (hle : h ≤ f)
    (hlt : f < (Text.segments raw).length) :
    AtPlaces test (wrappedAt raw signature h f).line (Text.segments raw)
      (Text.segments (wrappedAt raw signature h f).text) := by
  have hthree : signature.footerLines.length = 3 := rfl
  intro k
  rw [lines_wrappedAt hsignature]
  constructor
  · intro hany
    rw [getElem?_insertBlocks _ _ hle hlt, List.length_singleton, hthree] at hany
    split_ifs at hany with hbefore hfirst hbetween hsecond
    · exact ⟨k, by rw [line_wrappedAt, shift, if_pos hbefore], hany⟩
    · obtain rfl : k = h := by omega
      simp [hheader] at hany
    · refine ⟨k - 1, ?_, hany⟩
      rw [line_wrappedAt, shift, if_neg (by omega), if_pos (by omega)]
      omega
    · rw [forall_any_eq_false_iff.mpr hfooter] at hany
      cases hany
    · refine ⟨k - 4, ?_, hany⟩
      rw [line_wrappedAt, shift, if_neg (by omega), if_neg (by omega)]
      omega
  · rintro ⟨i, rfl, hany⟩
    have hkept := getElem?_insertBlocks_shift [signature.header] signature.footerLines hle hlt i
    rw [line_wrappedAt]
    exact hkept ▸ hany

theorem detectWrapper_wrappedAt (hsignature : signature.OneLine) (hle : h ≤ f)
    (hlt : f < (Text.segments raw).length) :
    detectWrapper (Text.segments (wrappedAt raw signature h f).text) =
      (detectWrapper (Text.segments raw)).map
        (Bounds.map (wrappedAt raw signature h f).line) := by
  obtain ⟨hopening, hclosing⟩ := header_not_wrapper signature
  have hfooter := footerLines_not_wrapper signature
  exact detectWrapper_of_places
    (atPlaces_wrappedAt hsignature hopening (fun line hline ↦ (hfooter line hline).1) hle hlt)
    (atPlaces_wrappedAt hsignature hclosing (fun line hline ↦ (hfooter line hline).2) hle hlt)
    (strictMono_line _)

theorem length_lines_wrappedAt (hsignature : signature.OneLine) (hle : h ≤ f)
    (hlt : f < (Text.segments raw).length) :
    (Text.segments (wrappedAt raw signature h f).text).length =
      (Text.segments raw).length + 4 := by
  rw [lines_wrappedAt hsignature, length_insertBlocks _ _ hle hlt]
  rfl

/-- The layout check goes by two distances, which are the same before and after. -/
theorem usual_line_iff (hsignature : signature.OneLine)
    (hplace : Located (Text.segments raw) placement h f) {bounds : Bounds}
    (hfound : detectWrapper (Text.segments raw) = some bounds) :
    ((wrappedAt raw signature h f).line bounds.opening + 1 = preambleSegments ∧
      (wrappedAt raw signature h f).line bounds.closing + epilogueSegments =
        (Text.segments (wrappedAt raw signature h f).text).length) ↔
      bounds.opening + 1 = preambleSegments ∧
        bounds.closing + epilogueSegments = (Text.segments raw).length := by
  have horder := opening_lt_closing hfound
  have hinside := closing_lt_length hfound
  simp only [length_lines_wrappedAt hsignature hplace.le hplace.lt_length, line_wrappedAt, shift,
    preambleSegments, epilogueSegments]
  -- fixed places are next to the usual wrapper lines, structural ones next to those that were found
  cases hplace with
  | fixed hlong => split_ifs <;> omega
  | structural hsame =>
    cases hsame.symm.trans hfound
    split_ifs <;> omega

theorem checkLayout_wrappedAt (hsignature : signature.OneLine)
    (hplace : Located (Text.segments raw) placement h f) :
    checkLayout (Text.segments (wrappedAt raw signature h f).text) =
      (checkLayout (Text.segments raw)).map (wrappedAt raw signature h f).line := by
  unfold checkLayout
  rw [detectWrapper_wrappedAt hsignature hplace.le hplace.lt_length]
  cases hfound : detectWrapper (Text.segments raw) with
  | none => rfl
  | some bounds =>
    have husual := usual_line_iff hsignature hplace hfound
    by_cases hplaces : bounds.opening + 1 = preambleSegments ∧
        bounds.closing + epilogueSegments = (Text.segments raw).length
    · simp only [Option.map_some, if_pos hplaces]
      exact if_pos (husual.mpr hplaces)
    · simp only [Option.map_some, if_neg hplaces]
      exact if_neg (mt husual.mp hplaces)

end

/-- Under a signature without newlines the wrapped text has four lines more than the bundle: the
header at the place that is reported for it, and the three lines of the footer from the reported
place on. Every line of the bundle is there, moved past the lines before it. No line of the
signature is taken for a wrapper line, so the wrapper of the written text is that of the bundle,
moved alike, or none if the bundle has none; and the layout check gives the verdict that was
reported for the bundle. -/
theorem wrapper_stable {raw : Text} {signature : Signature} {placement : Placement}
    {wrapped : Wrapped} (hsignature : signature.OneLine)
    (hwrap : wrap raw signature placement = .ok wrapped) :
    (Text.segments wrapped.text).length = (Text.segments raw).length + 4 ∧
    (Text.segments wrapped.text)[wrapped.headerIndex]? = some signature.header ∧
    (∀ k, k < 3 →
      (Text.segments wrapped.text)[wrapped.footerIndex + k]? = signature.footerLines[k]?) ∧
    (∀ i, (Text.segments wrapped.text)[wrapped.line i]? = (Text.segments raw)[i]?) ∧
    (∀ line ∈ signature.header :: signature.footerLines,
      isOpening line = false ∧ isClosing line = false) ∧
    detectWrapper (Text.segments wrapped.text) =
      (detectWrapper (Text.segments raw)).map (Bounds.map wrapped.line) ∧
    checkLayout (Text.segments wrapped.text) = wrapped.layout.map wrapped.line := by
  obtain ⟨h, f, hplace, rfl⟩ := wrap_eq_ok_iff.mp hwrap
  have hle := hplace.le
  have hlt := hplace.lt_length
  refine ⟨length_lines_wrappedAt hsignature hle hlt, ?_, ?_, ?_, ?_,
    detectWrapper_wrappedAt hsignature hle hlt, checkLayout_wrappedAt hsignature hplace⟩
  · rw [lines_wrappedAt hsignature]
    exact getElem?_insertBlocks_first [signature.header] signature.footerLines hle hlt
      (Nat.lt_succ_self 0)
  · intro k hk
    rw [lines_wrappedAt hsignature]
    exact getElem?_insertBlocks_second [signature.header] signature.footerLines hle hlt hk
  · intro i
    rw [lines_wrappedAt hsignature]
    exact getElem?_insertBlocks_shift [signature.header] signature.footerLines hle hlt i
  · exact List.forall_mem_cons.mpr
      ⟨header_not_wrapper signature, footerLines_not_wrapper signature⟩

/-- A wrapper that closes before the places of the header and the footer, under a name that is a
closing line. -/
theorem wrapper_stable_early :
    (⟨"\x7d)();".toList, ["(() => \x7b".toList]⟩ : Signature).OneLine ∧
    ∃ wrapped, wrap "(() => \x7b\n\x7d)();\n1\n2\n3\n".toList
        ⟨"\x7d)();".toList, ["(() => \x7b".toList]⟩ .fixed = .ok wrapped ∧
      (Text.segments wrapped.text).length = 10 ∧
      detectWrapper (Text.segments wrapped.text) = some ⟨0, 1⟩ ∧
      checkLayout (Text.segments wrapped.text) = .disagrees ⟨0, 1⟩ := by
  have hsignature : (⟨"\x7d)();".toList, ["(() => \x7b".toList]⟩ : Signature).OneLine :=
    ⟨by decide, by decide⟩
  refine ⟨hsignature, _, rfl, ?_⟩
  obtain ⟨hlength, -, -, -, -, hfound, hlayout⟩ :=
    @wrapper_stable "(() => \x7b\n\x7d)();\n1\n2\n3\n".toList
      ⟨"\x7d)();".toList, ["(() => \x7b".toList]⟩ .fixed _ hsignature rfl
  exact ⟨hlength.trans (by decide), hfound.trans (by decide), hlayout.trans (by decide)⟩

end Bundle

end ScriptEmbed
