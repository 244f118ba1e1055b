import ScriptEmbed.Proofs.Bundle.Insertion

/-!
When the two placements of the header and the footer coincide. The layout check compares the wrapper
that was found with the places that fixed offsets assume (`checkLayout_eq_agrees_iff`), so it holds
exactly where both placements name the same two segments. The wrapped bundle says at which segments
its header and footer are and where each segment of the bundle went (`Wrapped.place`), and two
wrapped bundles with the header and the footer at the same segments are the same.
-/

set_option autoImplicit false
set_option relaxedAutoImplicit false

namespace ScriptEmbed.Bundle

theorem checkLayout_eq_agrees_iff {segments : List Text} :
    checkLayout segments = .agrees ↔
      ∃ bounds, detectWrapper segments = some bounds ∧ bounds.opening = 2 ∧
        bounds.closing + 2 = segments.length := by
  unfold checkLayout
  cases hfound : detectWrapper segments with
  | none => simp
  | some bounds =>
    simp only [preambleSegments, epilogueSegments, Nat.reduceEqDiff, Option.some.injEq,
      exists_eq_left']
    by_cases husual : bounds.opening = 2 ∧ bounds.closing + 2 = segments.length
    · simp [husual]
    · simp [husual]

theorem spliceSegments_eq_insertBlocks (header footer : Text) (h f : Nat)
    (segments : List Text) :
    spliceSegments header footer h f segments = insertBlocks [header] [footer] h f segments := by
  simp [spliceSegments, insertBlocks]

/-- Where a segment of the bundle is among those of the wrapped bundle. -/
def Wrapped.place (wrapped : Wrapped) (i : Nat) : Nat :=
  shift 1 1 wrapped.headerIndex (wrapped.footerIndex - 1) i

/-- The segments that a wrapped bundle is joined from: the header and the footer where it says that
they are, and those of the bundle in the places that `Wrapped.place` gives. -/
structure JoinedFrom (raw : Text) (signature : Signature) (wrapped : Wrapped)
    (parts : List Text) : Prop where
  text : wrapped.text = Text.ofSegments parts
  length : parts.length = wrapped.segments
  header : parts[wrapped.headerIndex]? = some signature.header
  footer : parts[wrapped.footerIndex]? = some signature.footer
  kept : ∀ i, parts[wrapped.place i]? = (Text.segments raw)[i]?

section

variable {raw : Text} {signature : Signature} {h f : Nat}

theorem joinedFrom_wrappedAt (hle : h ≤ f) (hlt : f < (Text.segments raw).length) :
    JoinedFrom raw signature (wrappedAt raw signature h f)
      (spliceSegments signature.header signature.footer h f (Text.segments raw)) where
  text := rfl
  length := rfl
  header := by
    rw [spliceSegments_eq_insertBlocks]
    exact getElem?_insertBlocks_first [signature.header] [signature.footer] hle hlt
      (Nat.lt_succ_self 0)
  footer := by
    rw [spliceSegments_eq_insertBlocks]
    exact getElem?_insertBlocks_second [signature.header] [signature.footer] hle hlt
      (Nat.lt_succ_self 0)
  kept i := by
    rw [spliceSegments_eq_insertBlocks]
    exact getElem?_insertBlocks_shift [signature.header] [signature.footer] hle hlt i

/-- The header and the footer are next to two segments exactly if they were put there. -/
theorem next_to_iff (raw : Text) (signature : Signature) (h f : Nat) {opening closing : Nat}
    (horder : opening < closing) :
    (h = (wrappedAt raw signature h f).place opening + 1 ∧
      f + 1 + 1 = (wrappedAt raw signature h f).place closing) ↔
      opening + 1 = h ∧ closing = f := by
  simp only [Wrapped.place, wrappedAt, shift, Nat.add_sub_cancel]
  split_ifs <;> omega

end

theorem agrees_iff_same_places {segments : List Text} :
    checkLayout segments = .agrees ↔
      ∃ h f, Located segments .fixed h f ∧ Located segments .structural h f := by
  rw [checkLayout_eq_agrees_iff]
  constructor
  · rintro ⟨bounds, hfound, hopening, hclosing⟩
    have horder := opening_lt_closing hfound
    have hlong : 5 ≤ segments.length := by omega
    have hplaces := Located.structural hfound
    have hlast : bounds.closing = segments.length - 2 := by omega
    rw [hopening, hlast] at hplaces
    exact ⟨3, segments.length - 2, .fixed hlong, hplaces⟩
  · rintro ⟨h, f, hfixed, hstructural⟩
    obtain ⟨bounds, hfound, hopening, hclosing⟩ : ∃ bounds, detectWrapper segments = some bounds ∧
        bounds.opening + 1 = h ∧ bounds.closing = f := by
      cases hstructural with
      | structural hfound => exact ⟨_, hfound, rfl, rfl⟩
    cases hfixed with
    | fixed hlong => exact ⟨bounds, hfound, by omega, by omega⟩

/-- The layout check tells whether it matters which placement is used. It holds exactly if both
succeed with the same result; the fixed offsets cannot be refused then. Wherever they are not
refused, the header stands directly after the opening line that was detected and the footer directly
before the closing one exactly if the reported layout is the usual one. -/
theorem placements_coincide_iff (raw : Text) (signature : Signature) :
    (checkLayout (Text.segments raw) = .agrees ↔
      ∃ wrapped, wrap raw signature .fixed = .ok wrapped ∧
        wrap raw signature .structural = .ok wrapped) ∧
    (checkLayout (Text.segments raw) = .agrees → 5 ≤ (Text.segments raw).length) ∧
    ∀ wrapped, wrap raw signature .fixed = .ok wrapped →
      (∃ parts, JoinedFrom raw signature wrapped parts) ∧
      (wrapped.layout = .agrees ↔
        ∃ bounds, detectWrapper (Text.segments raw) = some bounds ∧
          wrapped.headerIndex = wrapped.place bounds.opening + 1 ∧
          wrapped.footerIndex + 1 = wrapped.place bounds.closing) := by
  refine ⟨?_, ?_, ?_⟩
  · rw [agrees_iff_same_places]
    constructor
    · rintro ⟨h, f, hfixed, hstructural⟩
      exact ⟨wrappedAt raw signature h f, wrap_eq_ok_iff.mpr ⟨h, f, hfixed, rfl⟩,
        wrap_eq_ok_iff.mpr ⟨h, f, hstructural, rfl⟩⟩
    · rintro ⟨wrapped, hfixed, hstructural⟩
      obtain ⟨h, f, hplace, rfl⟩ := wrap_eq_ok_iff.mp hfixed
      obtain ⟨h', f', hplace', hsame⟩ := wrap_eq_ok_iff.mp hstructural
      have hheader : h = h' := congrArg Wrapped.headerIndex hsame
      have hfooter : f + 1 = f' + 1 := congrArg Wrapped.footerIndex hsame
      obtain rfl := hheader
      obtain rfl := Nat.succ.inj hfooter
      exact ⟨h, f, hplace, hplace'⟩
  · rw [agrees_iff_same_places]
    rintro ⟨h, f, hfixed, -⟩
    cases hfixed with
    | fixed hlong => exact hlong
  · intro wrapped hwrap
    obtain ⟨h, f, hplace, rfl⟩ := wrap_eq_ok_iff.mp hwrap
    refine ⟨⟨_, joinedFrom_wrappedAt hplace.le hplace.lt_length⟩, ?_⟩
    change checkLayout (Text.segments raw) = .agrees ↔ _
    rw [checkLayout_eq_agrees_iff]
    refine exists_congr fun bounds ↦ and_congr_right fun hfound ↦ ?_
    refine Iff.trans ?_ (next_to_iff raw signature h f (opening_lt_closing hfound)).symm
    cases hplace with
    | fixed hlong => exact and_congr (by omega) (by omega)

/-- A bundle without code, whose closing line is the last but one. -/
theorem placements_coincide_iff_empty_body :
    checkLayout (Text.segments "a\nb\n(() => \x7b\n\x7d)();\n".toList) = .agrees ∧
    5 ≤ (Text.segments "a\nb\n(() => \x7b\n\x7d)();\n".toList).length ∧
    ∃ wrapped, wrap "a\nb\n(() => \x7b\n\x7d)();\n".toList .standard .fixed = .ok wrapped ∧
      wrap "a\nb\n(() => \x7b\n\x7d)();\n".toList .standard .structural = .ok wrapped ∧
      ∃ bounds : Bounds, wrapped.headerIndex = wrapped.place bounds.opening + 1 ∧
        wrapped.footerIndex + 1 = wrapped.place bounds.closing := by
  have hagrees : checkLayout (Text.segments "a\nb\n(() => \x7b\n\x7d)();\n".toList) = .agrees := by
    decide
  obtain ⟨hsame, hlong, hnext⟩ :=
    placements_coincide_iff "a\nb\n(() => \x7b\n\x7d)();\n".toList .standard
  obtain ⟨wrapped, hfixed, hstructural⟩ := hsame.mp hagrees
  have hlayout : wrapped.layout = .agrees := by
    obtain ⟨h, f, -, rfl⟩ := wrap_eq_ok_iff.mp hfixed
    exact hagrees
  obtain ⟨bounds, -, hheader, hfooter⟩ := (hnext wrapped hfixed).2.mp hlayout
  exact ⟨hagrees, hlong hagrees, wrapped, hfixed, hstructural, bounds, hheader, hfooter⟩

end ScriptEmbed.Bundle
