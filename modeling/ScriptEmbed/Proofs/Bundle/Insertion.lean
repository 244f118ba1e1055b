import Mathlib.Data.List.Basic
import ScriptEmbed.Proofs.Bundle.Splice

/-!
A bundle's lines before and after it is wrapped. A header or a footer is one segment, but as many
lines as its own newlines make of it, so the lines of a wrapped bundle are those of the bundle with
two blocks of lines among them (`segments_ofSegments_spliceSegments`). `shift` says where each line
goes. The first line that passes a test stays the first if both blocks come after it
(`findIdx?_take_append`), and the last one the last if both come before it
(`lastIndex?_append_drop`).
-/

set_option autoImplicit false
set_option relaxedAutoImplicit false

namespace ScriptEmbed

/-! ### Segments that hold newlines -/

namespace Text

theorem newline_notMem_of_mem_segments {text part : Text} (h : part ∈ segments text) :
    '\n' ∉ part := by
  induction text generalizing part with
  | nil =>
    obtain rfl : part = [] := by simpa [segments] using h
    exact List.not_mem_nil
  | cons c text ih =>
    obtain ⟨first, others, hsegments⟩ := List.exists_cons_of_ne_nil (segments_ne_nil text)
    rw [segments_cons] at h
    by_cases hc : c = '\n'
    · rw [if_pos hc, List.mem_cons] at h
      rcases h with rfl | h
      · exact List.not_mem_nil
      · exact ih h
    · rw [if_neg hc, hsegments, List.modifyHead_cons, List.mem_cons] at h
      rcases h with rfl | h
      · have hfirst : '\n' ∉ first := ih (by simp [hsegments])
        simp [hfirst, Ne.symm hc]
      · exact ih (by simp [hsegments, h])

/-- Cutting joined segments at all newlines cuts each segment at those of its own. -/
theorem segments_ofSegments {parts : List Text} (h : parts ≠ []) :
    segments (ofSegments parts) = parts.flatMap segments := by
  induction parts with
  | nil => exact (h rfl).elim
  | cons part parts ih =>
    by_cases hparts : parts = []
    · simp [hparts, ofSegments]
    · have hjoined : ofSegments (part :: parts) = part ++ '\n' :: ofSegments parts := by
        simp [ofSegments, List.intercalate_cons_of_ne_nil hparts]
      rw [hjoined, segments, List.splitOn_append_cons_self, List.flatMap_cons, ← ih hparts]
      rfl

theorem flatMap_segments {parts : List Text} (h : ∀ part ∈ parts, '\n' ∉ part) :
    parts.flatMap segments = parts := by
  have hsingle : ∀ part ∈ parts, segments part = [part] :=
    fun part hpart ↦ List.splitOn_eq_singleton (h part hpart)
  rw [List.flatMap_congr hsingle, List.flatMap_singleton']

end Text

namespace Bundle

/-! ### Two blocks among lines -/

/-- Lines with one block put before line `h` and another before line `f`. -/
def insertBlocks (first second : List Text) (h f : Nat) (lines : List Text) : List Text :=
  lines.take h ++ first ++ (lines.drop h).take (f - h) ++ second ++ lines.drop f

/-- Where a line is after blocks of so many lines have been put before the lines `h` and `f`. -/
def shift (first second h f i : Nat) : Nat :=
  if i < h then i else if i < f then i + first else i + first + second

section

variable (first second : List Text) {lines : List Text} {h f : Nat}

theorem insertBlocks_eq_append (hle : h ≤ f) (hlt : f < lines.length) :
    ∃ front, insertBlocks first second h f lines = front ++ lines.drop f ∧
      front.length = f + first.length + second.length := by
  refine ⟨_, rfl, ?_⟩
  simp only [List.length_append, List.length_take, List.length_drop]
  omega

theorem length_insertBlocks (hle : h ≤ f) (hlt : f < lines.length) :
    (insertBlocks first second h f lines).length =
      lines.length + first.length + second.length := by
  obtain ⟨front, hblocks, hlength⟩ := insertBlocks_eq_append first second hle hlt
  rw [hblocks, List.length_append, List.length_drop]
  omega

theorem take_insertBlocks (hle : h ≤ f) (hlt : f < lines.length) :
    (insertBlocks first second h f lines).take h = lines.take h := by
  have hlength : (lines.take h).length = h := List.length_take_of_le (by omega)
  simp only [insertBlocks, List.append_assoc]
  exact List.take_left' hlength

theorem drop_insertBlocks (hle : h ≤ f) (hlt : f < lines.length) :
    (insertBlocks first second h f lines).drop (f + first.length + second.length) =
      lines.drop f := by
  obtain ⟨front, hblocks, hlength⟩ := insertBlocks_eq_append first second hle hlt
  rw [hblocks]
  exact List.drop_left' hlength

/-- The line at each place: five stretches, each as long as what was put or kept there. -/
theorem getElem?_insertBlocks (hle : h ≤ f) (hlt : f < lines.length) (k : Nat) :
    (insertBlocks first second h f lines)[k]? =
      if k < h then lines[k]?
      else if k < h + first.length then first[k - h]?
      else if k < f + first.length then lines[k - first.length]?
      else if k < f + first.length + second.length then second[k - (f + first.length)]?
      else lines[k - (first.length + second.length)]? := by
  simp only [insertBlocks, List.getElem?_append, List.length_append, List.length_take,
    List.length_drop, List.getElem?_take, List.getElem?_drop]
  grind

theorem getElem?_insertBlocks_shift (hle : h ≤ f) (hlt : f < lines.length) (i : Nat) :
    (insertBlocks first second h f lines)[shift first.length second.length h f i]? =
      lines[i]? := by
  rw [getElem?_insertBlocks first second hle hlt]
  unfold shift
  by_cases hih : i < h
  · rw [if_pos hih, if_pos hih]
  rw [if_neg hih]
  by_cases hif : i < f
  · rw [if_pos hif, if_neg (by omega), if_neg (by omega), if_pos (by omega),
      Nat.add_sub_cancel]
  · rw [if_neg hif, if_neg (by omega), if_neg (by omega), if_neg (by omega), if_neg (by omega),
      Nat.add_assoc, Nat.add_sub_cancel]

theorem getElem?_insertBlocks_first (hle : h ≤ f) (hlt : f < lines.length) {k : Nat}
    (hk : k < first.length) :
    (insertBlocks first second h f lines)[h + k]? = first[k]? := by
  rw [getElem?_insertBlocks first second hle hlt, if_neg (by omega), if_pos (by omega),
    Nat.add_sub_cancel_left]

theorem getElem?_insertBlocks_second (hle : h ≤ f) (hlt : f < lines.length) {k : Nat}
    (hk : k < second.length) :
    (insertBlocks first second h f lines)[f + first.length + k]? = second[k]? := by
  rw [getElem?_insertBlocks first second hle hlt, if_neg (by omega), if_neg (by omega),
    if_neg (by omega), if_pos (by omega), Nat.add_sub_cancel_left]

end

/-- Putting a header and a footer among the segments puts their lines among the lines. -/
theorem segments_ofSegments_spliceSegments (header footer raw : Text) (h f : Nat) :
    Text.segments (Text.ofSegments (spliceSegments header footer h f (Text.segments raw))) =
      insertBlocks (Text.segments header) (Text.segments footer) h f (Text.segments raw) := by
  have hraw : ∀ parts : List Text, (∀ part ∈ parts, part ∈ Text.segments raw) →
      parts.flatMap Text.segments = parts := fun parts hparts ↦
    Text.flatMap_segments fun part hpart ↦ Text.newline_notMem_of_mem_segments (hparts part hpart)
  have hparts : spliceSegments header footer h f (Text.segments raw) ≠ [] := by
    simp [spliceSegments]
  rw [Text.segments_ofSegments hparts]
  simp only [spliceSegments, insertBlocks, List.flatMap_append, List.flatMap_cons]
  rw [hraw _ fun _ ↦ List.mem_of_mem_take,
    hraw _ fun _ hpart ↦ List.mem_of_mem_drop (List.mem_of_mem_take hpart),
    hraw _ fun _ ↦ List.mem_of_mem_drop]
  simp

/-! ### A wrapped bundle -/

/-- A bundle with the header before segment `h` and the footer before segment `f`. -/
def wrappedAt (raw : Text) (signature : Signature) (h f : Nat) : Wrapped where
  text := Text.ofSegments
    (spliceSegments signature.header signature.footer h f (Text.segments raw))
  segments :=
    (spliceSegments signature.header signature.footer h f (Text.segments raw)).length
  headerIndex := h
  footerIndex := f + 1
  layout := checkLayout (Text.segments raw)

theorem wrap_eq_ok_iff {raw : Text} {signature : Signature} {placement : Placement}
    {wrapped : Wrapped} :
    wrap raw signature placement = .ok wrapped ↔
      ∃ h f, Located (Text.segments raw) placement h f ∧ wrapped = wrappedAt raw signature h f := by
  constructor
  · intro hwrap
    rcases refused_or_located (Text.segments raw) placement with
      ⟨cause, hrefused⟩ | ⟨h, f, hplace⟩
    · rw [wrap_eq_error_iff.mpr hrefused] at hwrap
      cases hwrap
    · simp only [wrap, hplace.splicePoints_eq, Except.ok.injEq] at hwrap
      exact ⟨h, f, hplace, hwrap.symm⟩
  · rintro ⟨h, f, hplace, rfl⟩
    simp only [wrap, hplace.splicePoints_eq]
    rfl

theorem segments_wrappedAt (raw : Text) (signature : Signature) (h f : Nat) :
    Text.segments (wrappedAt raw signature h f).text =
      insertBlocks (Text.segments signature.header) (Text.segments signature.footer) h f
        (Text.segments raw) :=
  segments_ofSegments_spliceSegments signature.header signature.footer raw h f

end Bundle

end ScriptEmbed
