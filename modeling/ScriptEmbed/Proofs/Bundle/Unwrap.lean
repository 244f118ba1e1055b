import ScriptEmbed.Proofs.Bundle.Insertion

/-!
A wrapped bundle without its header and footer is the bundle again, and where they are is read off
the wrapped bundle itself. The places that a placement names in the wrapped text are the same ones,
counted from the same end or found by the same search: the header comes after the opening line and
the footer before the closing one, so neither can be taken for it, whatever its lines hold
(`Located.insertBlocks`).
-/

set_option autoImplicit false
set_option relaxedAutoImplicit false

namespace ScriptEmbed.Bundle

/-- Lines without `first` lines from line `h` on and `second` lines up to line `g`. -/
def removeBlocks (first second h g : Nat) (lines : List Text) : List Text :=
  lines.take h ++ (lines.take (g - second)).drop (h + first) ++ lines.drop g

/-- The bundle that a text was before it was wrapped. Where there is no place for a header and a
footer, the text is no wrapped bundle and is left as it is. -/
def unwrap (signature : Signature) (placement : Placement) (text : Text) : Text :=
  match splicePoints placement (Text.segments text) with
  | .error _ => text
  | .ok (h, g) =>
    Text.ofSegments (removeBlocks (Text.segments signature.header).length
      (Text.segments signature.footer).length h g (Text.segments text))

section

variable {lines : List Text} {placement : Placement} {h f : Nat}

theorem removeBlocks_insertBlocks (first second : List Text) (hle : h ≤ f)
    (hlt : f < lines.length) :
    removeBlocks first.length second.length h (f + first.length + second.length)
      (insertBlocks first second h f lines) = lines := by
  have hmiddle : ((insertBlocks first second h f lines).take (f + first.length)).drop
      (h + first.length) = (lines.drop h).take (f - h) := by
    have hfront : (lines.take h ++ first).length = h + first.length := by
      rw [List.length_append, List.length_take_of_le (by omega)]
    have hkept : (lines.take h ++ first ++ (lines.drop h).take (f - h)).length =
        f + first.length := by
      rw [List.length_append, hfront, List.length_take, List.length_drop]
      omega
    rw [insertBlocks, List.append_assoc _ second, List.take_left' hkept, List.drop_left' hfront]
  rw [removeBlocks, Nat.add_sub_cancel, take_insertBlocks first second hle hlt,
    drop_insertBlocks first second hle hlt, hmiddle, take_append_slice_append_drop lines hle]

/-- The wrapper that is detected stays the same: the blocks are inside it. -/
theorem detectWrapper_insertBlocks (first second : List Text) {bounds : Bounds}
    (hfound : detectWrapper lines = some bounds) :
    detectWrapper (insertBlocks first second (bounds.opening + 1) bounds.closing lines) =
      some ⟨bounds.opening, bounds.closing + first.length + second.length⟩ := by
  obtain ⟨hopening, hclosing, horder⟩ := detectWrapper_eq_some_iff.mp hfound
  obtain ⟨front, hfront, hlength⟩ :=
    insertBlocks_eq_append first second horder (closing_lt_length hfound)
  refine detectWrapper_eq_some_iff.mpr ⟨?_, ?_, by dsimp only; omega⟩
  · simp only [insertBlocks, List.append_assoc]
    exact findIdx?_take_append hopening _
  · rw [hfront, lastIndex?_append_drop hclosing, hlength]

/-- A placement names the same places again once two blocks of lines are there. -/
theorem Located.insertBlocks (first second : List Text) (hplace : Located lines placement h f) :
    Located (insertBlocks first second h f lines) placement h
      (f + first.length + second.length) := by
  have hlength := length_insertBlocks first second hplace.le hplace.lt_length
  cases hplace with
  | fixed hlong =>
    have hplaces : lines.length - 2 + first.length + second.length =
        (Bundle.insertBlocks first second 3 (lines.length - 2) lines).length - 2 := by omega
    rw [hplaces]
    exact .fixed (by omega)
  | structural hfound => exact .structural (detectWrapper_insertBlocks first second hfound)

end

theorem unwrap_of_wrap {raw : Text} {signature : Signature} {placement : Placement}
    {wrapped : Wrapped} (h : wrap raw signature placement = .ok wrapped) :
    unwrap signature placement wrapped.text = raw := by
  obtain ⟨start, stop, hplace, rfl⟩ := wrap_eq_ok_iff.mp h
  have hagain := hplace.insertBlocks (Text.segments signature.header)
    (Text.segments signature.footer)
  rw [unwrap, segments_wrappedAt, hagain.splicePoints_eq]
  dsimp only
  rw [removeBlocks_insertBlocks _ _ hplace.le hplace.lt_length, Text.ofSegments_segments]

/-- Under a given signature and placement a bundle is recovered from its wrapped text alone, so two
bundles never become the same text. Where the placement goes by the wrapper, the wrapper found in
the wrapped text is that of the bundle: all lines up to the opening one, and all from the closing
one on, are the same, and the search comes to the same two. -/
theorem unwrap_wrap (signature : Signature) (placement : Placement) :
    (∀ raw wrapped, wrap raw signature placement = .ok wrapped →
      unwrap signature placement wrapped.text = raw) ∧
    (∀ raw other wrapped wrappedOther, wrap raw signature placement = .ok wrapped →
      wrap other signature placement = .ok wrappedOther → raw ≠ other →
        wrapped.text ≠ wrappedOther.text) ∧
    ∀ raw wrapped, wrap raw signature .structural = .ok wrapped →
      ∃ opening closing added,
        detectWrapper (Text.segments raw) = some ⟨opening, closing⟩ ∧
        detectWrapper (Text.segments wrapped.text) = some ⟨opening, closing + added⟩ ∧
        (Text.segments wrapped.text).take (opening + 1) =
          (Text.segments raw).take (opening + 1) ∧
        (Text.segments wrapped.text).drop (closing + added) =
          (Text.segments raw).drop closing := by
  refine ⟨fun raw wrapped ↦ unwrap_of_wrap, ?_, ?_⟩
  · intro raw other wrapped wrappedOther hraw hother hdiffer hsame
    apply hdiffer
    rw [← unwrap_of_wrap hraw, ← unwrap_of_wrap hother, hsame]
  · intro raw wrapped hwrap
    obtain ⟨start, stop, hplace, rfl⟩ := wrap_eq_ok_iff.mp hwrap
    have htake := take_insertBlocks (Text.segments signature.header)
      (Text.segments signature.footer) hplace.le hplace.lt_length
    have hdrop := drop_insertBlocks (Text.segments signature.header)
      (Text.segments signature.footer) hplace.le hplace.lt_length
    rw [segments_wrappedAt]
    cases hplace with
    | @structural bounds hfound =>
      refine ⟨bounds.opening, bounds.closing, (Text.segments signature.header).length +
        (Text.segments signature.footer).length, hfound, ?_, htake, ?_⟩
      · rw [← Nat.add_assoc]
        exact detectWrapper_insertBlocks _ _ hfound
      · rw [← Nat.add_assoc]
        exact hdrop

/-- A name that holds both wrapper lines itself. -/
theorem unwrap_wrap_wrapper_in_name :
    ∃ wrapped other,
      wrap "(() => \x7b\n\x7d)();".toList ⟨"\n\x7d)();\n(() => \x7b\n".toList, []⟩ .structural =
        .ok wrapped ∧
      wrap "(() => \x7b\n\n\x7d)();".toList ⟨"\n\x7d)();\n(() => \x7b\n".toList, []⟩ .structural =
        .ok other ∧
      unwrap ⟨"\n\x7d)();\n(() => \x7b\n".toList, []⟩ .structural wrapped.text =
        "(() => \x7b\n\x7d)();".toList ∧
      wrapped.text ≠ other.text := by
  refine ⟨_, _, rfl, rfl, ?_, ?_⟩
  · exact (unwrap_wrap ⟨"\n\x7d)();\n(() => \x7b\n".toList, []⟩ .structural).1
      "(() => \x7b\n\x7d)();".toList _ rfl
  · exact (unwrap_wrap ⟨"\n\x7d)();\n(() => \x7b\n".toList, []⟩ .structural).2.1
      "(() => \x7b\n\x7d)();".toList "(() => \x7b\n\n\x7d)();".toList _ _ rfl rfl (by decide)

end ScriptEmbed.Bundle
