import ScriptEmbed.Proofs.Bundle.Exits
import ScriptEmbed.Proofs.Bundle.Outermost

/-!
The warning about a layout that is not the usual one. It names two ranges of lines, counted from
one: where the wrapper was found, and where fixed offsets assume it. The second is computed from the
number of segments after wrapping, but is about the lines before it (`assumedLines_wrappedAt`). A
wrapper at the assumed lines is no reason for a warning (`checkLayout_eq_agrees_iff_lines`), so the
ranges differ; and since a range can be read back from its text (`LineRange.text_injective`), they
are seen to differ.
-/

set_option autoImplicit false
set_option relaxedAutoImplicit false

namespace ScriptEmbed

open Files

/-! ### Ranges of lines -/

namespace Text

theorem ofNat_injective : Function.Injective ofNat := by
  intro m n h
  simpa [ofNat] using congrArg (fun digits ↦ Nat.ofDigitChars 10 digits 0) h

theorem period_notMem_ofNat (n : Nat) : '.' ∉ ofNat n := by
  intro hmem
  have hdigit : ('.').isDigit = true := Nat.isDigit_of_mem_toDigits (by decide) (by decide) hmem
  revert hdigit
  decide

/-- A line of a text by its number, the first being number one. -/
def line? (text : Text) : Nat → Option Text
  | 0 => none
  | number + 1 => (segments text)[number]?

end Text

namespace Bundle

/-- The numbers of a first and of a last line. -/
structure LineRange where
  first : Nat
  last : Nat
  deriving DecidableEq

/-- How the console shows it. -/
def LineRange.text (range : LineRange) : Text :=
  Text.ofNat range.first ++ "..".toList ++ Text.ofNat range.last

theorem LineRange.text_injective : Function.Injective LineRange.text := by
  rintro ⟨first, last⟩ ⟨first', last'⟩ h
  simp only [text, List.append_assoc] at h
  obtain ⟨hfirst, hrest⟩ := (Text.append_cons_inj_of_notMem (Text.period_notMem_ofNat first)
    (Text.period_notMem_ofNat first')).mp h
  obtain rfl := Text.ofNat_injective hfirst
  obtain rfl := Text.ofNat_injective (List.cons_inj_right _ |>.mp hrest)
  rfl

/-- The lines that a wrapper which was found begins and ends with. -/
def Bounds.lines (bounds : Bounds) : LineRange where
  first := bounds.opening + 1
  last := bounds.closing + 1

/-- The lines that the warning says fixed offsets assume. -/
def Wrapped.assumedLines (wrapped : Wrapped) : LineRange where
  first := 3
  last := wrapped.segments - 3

theorem layoutNotice_of_disagrees {wrapped : Wrapped} {bounds : Bounds}
    (h : wrapped.layout = .disagrees bounds) :
    layoutNotice wrapped = [.announced .warn
      ("IIFE wrapper found at lines ".toList ++ bounds.lines.text ++
        ", fixed offsets assume lines ".toList ++ wrapped.assumedLines.text)] := by
  have hassumed : ", fixed offsets assume lines 3..".toList =
      ", fixed offsets assume lines ".toList ++ (Text.ofNat 3 ++ "..".toList) := by
    decide
  simp only [layoutNotice, h, LineRange.text, Bounds.lines, Wrapped.assumedLines, hassumed,
    List.append_assoc]

/-! ### What the ranges say -/

section

variable {segments : List Text} {bounds : Bounds}

theorem checkLayout_eq_disagrees_iff :
    checkLayout segments = .disagrees bounds ↔
      detectWrapper segments = some bounds ∧ checkLayout segments ≠ .agrees := by
  unfold checkLayout
  cases detectWrapper segments with
  | none => simp
  | some found =>
    simp only [Option.some.injEq]
    split <;> simp

/-- The layout is the usual one exactly if the wrapper is found at the third and the last line but
one. -/
theorem checkLayout_eq_agrees_iff_lines :
    checkLayout segments = .agrees ↔
      ∃ bounds, detectWrapper segments = some bounds ∧
        bounds.lines = ⟨3, segments.length - 1⟩ := by
  rw [checkLayout_eq_agrees_iff]
  refine exists_congr fun bounds ↦ and_congr_right fun hfound ↦ ?_
  have hclosing := closing_lt_length hfound
  simp only [Bounds.lines, LineRange.mk.injEq]
  omega

end

theorem segmentCount_wrappedAt {raw : Text} {placement : Placement} {h f : Nat}
    (hplace : Located (Text.segments raw) placement h f) (signature : Signature) :
    (wrappedAt raw signature h f).segments = (Text.segments raw).length + 2 :=
  length_spliceSegments signature.header signature.footer hplace.le hplace.lt_length

/-- Though it is computed from the segments after wrapping, two more than the lines before it, the
assumed range is the one in which a wrapper of the usual layout is found. -/
theorem assumedLines_wrappedAt {raw : Text} {placement : Placement} {h f : Nat}
    (hplace : Located (Text.segments raw) placement h f) (signature : Signature) :
    (wrappedAt raw signature h f).assumedLines = ⟨3, (Text.segments raw).length - 1⟩ := by
  rw [Wrapped.assumedLines, segmentCount_wrappedAt hplace]
  rfl

/-- What the warning claims of the lines of a text: that a wrapper was found at one range of them,
and that fixed offsets assume it at another. -/
structure Truthful (raw : Text) (found assumed : LineRange) : Prop where
  /-- Both lines exist, and are in order. -/
  inside : 1 ≤ found.first ∧ found.first < found.last ∧
    found.last ≤ (Text.segments raw).length
  opening : ∃ line, raw.line? found.first = some line ∧ Text.trim line ∈ openingWrappers
  closing : ∃ line, raw.line? found.last = some line ∧ Text.trim line = closingWrapper
  /-- A text with as many lines has the usual layout if its wrapper is found at the assumed ones. -/
  usual : ∀ other, (Text.segments other).length = (Text.segments raw).length →
    (checkLayout (Text.segments other) = .agrees ↔
      ∃ bounds, detectWrapper (Text.segments other) = some bounds ∧ bounds.lines = assumed)
  /-- At fixed offsets the header comes just after the first assumed line and the footer just before
  the last. -/
  offsets : ∀ h f, splicePoints .fixed (Text.segments raw) = .ok (h, f) →
    h = assumed.first ∧ f + 1 = assumed.last

theorem truthful_of_detectWrapper {raw : Text} {bounds : Bounds}
    (hfound : detectWrapper (Text.segments raw) = some bounds) :
    Truthful raw bounds.lines ⟨3, (Text.segments raw).length - 1⟩ := by
  have hpair := wrapperPair_of_detectWrapper hfound
  refine ⟨⟨Nat.le_add_left 1 _, ?_, ?_⟩, hpair.opening, hpair.closing, ?_, ?_⟩
  · exact Nat.succ_lt_succ (opening_lt_closing hfound)
  · exact closing_lt_length hfound
  · intro other hlength
    rw [checkLayout_eq_agrees_iff_lines, hlength]
  · intro h f hpoints
    rcases refused_or_located (Text.segments raw) .fixed with ⟨cause, hrefused⟩ | ⟨h', f', hplace⟩
    · cases (splicePoints_eq_error_iff.mpr hrefused).symm.trans hpoints
    · cases hplace.splicePoints_eq.symm.trans hpoints
      cases hplace with
      | fixed hlong => exact ⟨rfl, by dsimp only; omega⟩

theorem events_wrapInPlace {working : Place} {recipe : Recipe} {session : Session} {raw : Text}
    {wrapped : Wrapped}
    (hread : session.files.readText working recipe.spec.outputPath = .ok raw)
    (hwrap : wrap raw recipe.signature recipe.placement = .ok wrapped) :
    ((wrapInPlace working recipe).result session).2.events =
      session.events ++ layoutNotice wrapped := by
  simp only [result_wrapInPlace, hread, hwrap]
  cases session.files.write working recipe.spec.outputPath (.ofText wrapped.text) <;> rfl

/-- The warning is true, for every text that is wrapped and whose layout is another than the usual
one. The number of segments is not below the three that are taken off it. What is left is the number
of the last line but one, so the assumed range is where the usual layout has its wrapper; the found
range is where this text has it. As shown on the console, the two are never the same. -/
theorem layoutWarning_truthful {raw : Text} {signature : Signature} {placement : Placement}
    {wrapped : Wrapped} {bounds : Bounds}
    (hwrap : wrap raw signature placement = .ok wrapped)
    (hlayout : wrapped.layout = .disagrees bounds) :
    3 ≤ wrapped.segments ∧
    wrapped.assumedLines = ⟨3, (Text.segments raw).length - 1⟩ ∧
    Truthful raw bounds.lines wrapped.assumedLines ∧
    bounds.lines.text ≠ wrapped.assumedLines.text ∧
    ∀ working recipe session, recipe.signature = signature → recipe.placement = placement →
      session.files.readText working recipe.spec.outputPath = .ok raw →
      ((wrapInPlace working recipe).result session).2.events =
        session.events ++ [.announced .warn
          ("IIFE wrapper found at lines ".toList ++ bounds.lines.text ++
            ", fixed offsets assume lines ".toList ++ wrapped.assumedLines.text)] := by
  have hnotice := layoutNotice_of_disagrees hlayout
  obtain ⟨h, f, hplace, rfl⟩ := wrap_eq_ok_iff.mp hwrap
  obtain ⟨hfound, hunusual⟩ := checkLayout_eq_disagrees_iff.mp hlayout
  have hassumed := assumedLines_wrappedAt hplace signature
  have htrue := truthful_of_detectWrapper hfound
  refine ⟨?_, hassumed, hassumed ▸ htrue, ?_, ?_⟩
  · have hlines := hplace.lt_length
    rw [segmentCount_wrappedAt hplace]
    omega
  · intro hsame
    have hlines := LineRange.text_injective hsame
    exact hunusual (checkLayout_eq_agrees_iff_lines.mpr ⟨bounds, hfound, hlines.trans hassumed⟩)
  · rintro working recipe session rfl rfl hread
    rw [events_wrapInPlace hread hwrap, hnotice]

/-- A wrapper around nothing, in two lines: at fixed offsets it would end before it begins. -/
theorem layoutWarning_truthful_two_lines :
    ∃ wrapped, wrap "(() => \x7b\n\x7d)();".toList .standard .structural = .ok wrapped ∧
      wrapped.layout = .disagrees ⟨0, 1⟩ ∧ 3 ≤ wrapped.segments ∧
      Bounds.lines ⟨0, 1⟩ = ⟨1, 2⟩ ∧ wrapped.assumedLines = ⟨3, 1⟩ ∧
      Truthful "(() => \x7b\n\x7d)();".toList ⟨1, 2⟩ ⟨3, 1⟩ := by
  have hfound : detectWrapper (Text.segments "(() => \x7b\n\x7d)();".toList) = some ⟨0, 1⟩ := by
    decide
  have hwrap : wrap "(() => \x7b\n\x7d)();".toList .standard .structural =
      .ok (wrappedAt "(() => \x7b\n\x7d)();".toList .standard 1 1) :=
    wrap_eq_ok_iff.mpr ⟨1, 1, .structural hfound, rfl⟩
  have hlayout : checkLayout (Text.segments "(() => \x7b\n\x7d)();".toList) =
      .disagrees ⟨0, 1⟩ := by
    decide
  obtain ⟨hsegments, hassumed, htrue, -⟩ := layoutWarning_truthful hwrap hlayout
  exact ⟨_, hwrap, hlayout, hsegments, rfl, hassumed, hassumed ▸ htrue⟩

end Bundle

end ScriptEmbed
