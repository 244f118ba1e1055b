import ScriptEmbed.Failure
import ScriptEmbed.Proofs.Bundle.Detection
import ScriptEmbed.Proofs.Text.Segments

/-!
What wrapping does to a bundle, character by character. `Located` says before which segments the
header and the footer belong, for either placement, and `Refused` when there is no such place and
why. The segments that `Located` names are in the bundle and in order (`Located.le`,
`Located.lt_length`), so putting the header and the footer among the segments puts each of them,
with a newline after it, at the offset in the text at which its segment begins
(`ofSegments_spliceSegments`). A signature may hold newlines of its own: the header and the footer
still are one segment each.
-/

set_option autoImplicit false
set_option relaxedAutoImplicit false

namespace ScriptEmbed.Bundle

/-! ### Where the header and the footer belong -/

/-- The segments that the header and the footer belong before: at fixed distances from the two ends
of a bundle of five segments or more, or inside the wrapper that was detected. -/
inductive Located (segments : List Text) : Placement → Nat → Nat → Prop
  | fixed (long : 5 ≤ segments.length) : Located segments .fixed 3 (segments.length - 2)
  | structural {bounds : Bounds} (found : detectWrapper segments = some bounds) :
    Located segments .structural (bounds.opening + 1) bounds.closing

/-- That a bundle has no place for the header and the footer, and why. -/
inductive Refused (segments : List Text) : Placement → SpliceError → Prop
  | short (short : segments.length < 5) : Refused segments .fixed (.tooShort segments.length)
  | bare (bare : detectWrapper segments = none) : Refused segments .structural .wrapperNotFound

section

variable {segments : List Text} {placement : Placement} {h f : Nat}

theorem splicePoints_eq_error_iff {cause : SpliceError} :
    splicePoints placement segments = .error cause ↔ Refused segments placement cause := by
  constructor
  · intro hcause
    cases placement with
    | fixed =>
      by_cases hshort : segments.length < 5
      · simp only [splicePoints, preambleSegments, epilogueSegments, hshort, ↓reduceIte,
          Except.error.injEq] at hcause
        exact hcause ▸ .short hshort
      · simp [splicePoints, preambleSegments, epilogueSegments, hshort] at hcause
    | structural =>
      cases hfound : detectWrapper segments with
      | none =>
        simp only [splicePoints, hfound, Except.error.injEq] at hcause
        exact hcause ▸ .bare hfound
      | some bounds => simp [splicePoints, hfound] at hcause
  · rintro (hshort | hbare)
    · simp [splicePoints, preambleSegments, epilogueSegments, hshort]
    · simp [splicePoints, hbare]

theorem refused_or_located (segments : List Text) (placement : Placement) :
    (∃ cause, Refused segments placement cause) ∨ ∃ h f, Located segments placement h f := by
  cases placement with
  | fixed =>
    by_cases hshort : segments.length < 5
    · exact Or.inl ⟨_, .short hshort⟩
    · exact Or.inr ⟨_, _, .fixed (Nat.not_lt.mp hshort)⟩
  | structural =>
    cases hfound : detectWrapper segments with
    | none => exact Or.inl ⟨_, .bare hfound⟩
    | some bounds => exact Or.inr ⟨_, _, .structural hfound⟩

theorem Located.splicePoints_eq (hplace : Located segments placement h f) :
    splicePoints placement segments = .ok (h, f) := by
  cases hplace with
  | fixed hlong =>
    have hnot : ¬ segments.length < 5 := Nat.not_lt.mpr hlong
    simp [splicePoints, preambleSegments, epilogueSegments, hnot]
  | structural hfound => simp [splicePoints, hfound]

theorem Located.le (hplace : Located segments placement h f) : h ≤ f := by
  cases hplace with
  | fixed hlong => omega
  | structural hfound => exact opening_lt_closing hfound

theorem Located.lt_length (hplace : Located segments placement h f) : f < segments.length := by
  cases hplace with
  | fixed hlong => omega
  | structural hfound => exact closing_lt_length hfound

end

/-! ### The text that comes of it -/

theorem length_spliceSegments (header footer : Text) {h f : Nat} {segments : List Text}
    (hle : h ≤ f) (hlt : f < segments.length) :
    (spliceSegments header footer h f segments).length = segments.length + 2 := by
  simp only [spliceSegments, List.length_append, List.length_cons, List.length_take,
    List.length_drop]
  omega

/-- Splicing among the segments is splicing at the offsets at which they begin. -/
theorem ofSegments_spliceSegments (header footer raw : Text) {h f : Nat} (hle : h ≤ f)
    (hlt : f < (Text.segments raw).length) :
    Text.ofSegments (spliceSegments header footer h f (Text.segments raw)) =
      raw.take (raw.segmentStart h) ++ header ++ '\n' ::
        (raw.drop (raw.segmentStart h)).take (raw.segmentStart f - raw.segmentStart h) ++
        footer ++ '\n' :: raw.drop (raw.segmentStart f) := by
  have hrest : (Text.segments raw).drop f ≠ [] := by simp [hlt]
  have hparts : spliceSegments header footer h f (Text.segments raw) =
      ((Text.segments raw).take h ++ header :: ((Text.segments raw).drop h).take (f - h) ++
        [footer]) ++ (Text.segments raw).drop f := by
    simp [spliceSegments]
  rw [hparts, Text.ofSegments_append _ hrest,
    Text.take_segmentStart (Nat.lt_of_le_of_lt hle hlt), Text.slice_segmentStart hle hlt,
    Text.drop_segmentStart hlt]
  simp [Text.terminated_append]

/-- Two cuts, the first before the second, leave three parts that make up the whole. -/
theorem take_append_slice_append_drop {α : Type} (xs : List α) {p q : Nat} (hle : p ≤ q) :
    xs.take p ++ (xs.drop p).take (q - p) ++ xs.drop q = xs := by
  rw [List.append_assoc, Text.slice_append_drop xs hle, List.take_append_drop]

theorem wrap_eq_error_iff {raw : Text} {signature : Signature} {placement : Placement}
    {cause : SpliceError} :
    wrap raw signature placement = .error cause ↔
      Refused (Text.segments raw) placement cause := by
  rw [← splicePoints_eq_error_iff]
  cases hpoints : splicePoints placement (Text.segments raw) <;> simp [wrap, hpoints]

theorem mapError_eq_error_iff {ε δ α : Type} {blame : ε → δ} {result : Except ε α} {e : δ} :
    result.mapError blame = .error e ↔ ∃ cause, result = .error cause ∧ e = blame cause := by
  constructor
  · intro h
    cases result with
    | error cause =>
      cases h
      exact ⟨cause, rfl, rfl⟩
    | ok value => cases h
  · rintro ⟨cause, rfl, rfl⟩
    rfl

/-- A bundle that has no place for the header and the footer is refused as a failure of the bundle,
and every other one is kept character for character around them: the header and a newline come in
where the segment that it belongs before begins, and so do the footer and a newline. -/
theorem wrap_splices (raw : Text) (signature : Signature) (placement : Placement) :
    (Text.segments raw).length = raw.count '\n' + 1 ∧
    (∀ failure, (wrap raw signature placement).mapError SpliceError.failure = .error failure ↔
      ∃ cause, Refused (Text.segments raw) placement cause ∧
        failure = .bundle (.unwrappable cause)) ∧
    ((∃ cause, Refused (Text.segments raw) placement cause) ∨
      ∃ h f, Located (Text.segments raw) placement h f) ∧
    ∀ h f, Located (Text.segments raw) placement h f →
      h ≤ f ∧ f < (Text.segments raw).length ∧
      raw.take (raw.segmentStart h) ++
          (raw.drop (raw.segmentStart h)).take (raw.segmentStart f - raw.segmentStart h) ++
          raw.drop (raw.segmentStart f) = raw ∧
      wrap raw signature placement = .ok {
        text := raw.take (raw.segmentStart h) ++ signature.header ++ '\n' ::
          (raw.drop (raw.segmentStart h)).take (raw.segmentStart f - raw.segmentStart h) ++
          signature.footer ++ '\n' :: raw.drop (raw.segmentStart f)
        segments := (Text.segments raw).length + 2
        headerIndex := h
        footerIndex := f + 1
        layout := checkLayout (Text.segments raw) } := by
  refine ⟨Text.length_segments raw, ?_, refused_or_located (Text.segments raw) placement, ?_⟩
  · intro failure
    rw [mapError_eq_error_iff]
    exact exists_congr fun cause ↦ and_congr_left fun _ ↦ wrap_eq_error_iff
  · intro h f hplace
    have hle := hplace.le
    have hlt := hplace.lt_length
    refine ⟨hle, hlt,
      take_append_slice_append_drop raw (Text.segmentStart_le_segmentStart hle hlt), ?_⟩
    simp only [wrap, hplace.splicePoints_eq]
    rw [ofSegments_spliceSegments _ _ _ hle hlt, length_spliceSegments _ _ hle hlt]

/-- A wrapper around nothing, under a name that holds a newline: the header and the footer both come
before the closing line. -/
theorem wrap_splices_empty_body :
    Located (Text.segments "(() => \x7b\n\x7d)();".toList) .structural 1 1 ∧
    wrap "(() => \x7b\n\x7d)();".toList ⟨"a\nb".toList, []⟩ .structural = .ok {
      text := ("(() => \x7b\nfunction a\nb() \x7b\n\x7d\n    \nglobalThis.a\nb = a\nb;" ++
        "\n\x7d)();").toList
      segments := 4
      headerIndex := 1
      footerIndex := 2
      layout := .disagrees ⟨0, 1⟩ } := by
  have hfound : detectWrapper (Text.segments "(() => \x7b\n\x7d)();".toList) = some ⟨0, 1⟩ := by
    decide
  have hplace : Located (Text.segments "(() => \x7b\n\x7d)();".toList) .structural 1 1 :=
    .structural hfound
  obtain ⟨-, -, -, hwrap⟩ := (wrap_splices "(() => \x7b\n\x7d)();".toList ⟨"a\nb".toList, []⟩
    .structural).2.2.2 1 1 hplace
  exact ⟨hplace, hwrap.trans (congrArg Except.ok (by decide))⟩

end ScriptEmbed.Bundle
