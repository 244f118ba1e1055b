import ScriptEmbed.Text.Lines
import Mathlib.Data.List.TakeDrop

/-!
Where the segments of a text begin. A text is its first segments, a newline after each, followed by
the rest of its segments joined; so the offset at which a segment begins is the length of the
segments before it with their newlines, and cutting the text there cuts its list of segments.
-/

set_option autoImplicit false
set_option relaxedAutoImplicit false

namespace ScriptEmbed.Text

/-- The offset, in characters, at which a segment of a text begins: just after as many newlines as
there are segments before it. -/
def segmentStart : Text → Nat → Nat
  | _, 0 => 0
  | [], _ + 1 => 0
  | c :: text, i + 1 => (if c = '\n' then segmentStart text i else segmentStart text (i + 1)) + 1

/-- Segments with a newline after each of them, the last one included. -/
def terminated (parts : List Text) : Text := parts.flatMap (· ++ ['\n'])

@[simp] theorem terminated_nil : terminated [] = [] := rfl

@[simp] theorem terminated_cons (part : Text) (parts : List Text) :
    terminated (part :: parts) = part ++ '\n' :: terminated parts := by
  simp [terminated]

theorem terminated_append (front back : List Text) :
    terminated (front ++ back) = terminated front ++ terminated back := by
  simp [terminated]

theorem slice_append_drop {α : Type} (xs : List α) {i j : Nat} (hij : i ≤ j) :
    (xs.drop i).take (j - i) ++ xs.drop j = xs.drop i := by
  have hcut := List.drop_take_append_drop xs i (j - i)
  rwa [Nat.add_sub_cancel' hij] at hcut

/-- There is one way to cut a list at the first place of an element. -/
theorem append_cons_inj_of_notMem {α : Type} {x : α} {front back rest rest' : List α}
    (hfront : x ∉ front) (hback : x ∉ back) :
    front ++ x :: rest = back ++ x :: rest' ↔ front = back ∧ rest = rest' := by
  induction front generalizing back with
  | nil =>
    cases back with
    | nil => simp
    | cons y back =>
      have hy : x ≠ y := fun heq ↦ hback (heq ▸ List.mem_cons_self)
      simp [hy]
  | cons z front ih =>
    rw [List.mem_cons, not_or] at hfront
    cases back with
    | nil => simp [Ne.symm hfront.1]
    | cons y back =>
      rw [List.mem_cons, not_or] at hback
      simp [ih hfront.2 hback.2, and_assoc]

theorem segments_ne_nil (text : Text) : segments text ≠ [] := List.splitOn_ne_nil '\n' text

theorem segments_cons (c : Char) (text : Text) :
    segments (c :: text) =
      if c = '\n' then [] :: segments text else (segments text).modifyHead (c :: ·) := by
  simp [segments, List.splitOn_cons_eq_if_modifyHead]

theorem length_segments (text : Text) : (segments text).length = text.count '\n' + 1 := by
  induction text with
  | nil => rfl
  | cons c text ih =>
    rw [segments_cons]
    by_cases hc : c = '\n'
    · simp [hc, ih]
    · simp [hc, ih]

/-- Joining segments in two parts. The second part must hold a segment, since joining puts no
newline after the last one. -/
theorem ofSegments_append (front : List Text) {back : List Text} (hback : back ≠ []) :
    ofSegments (front ++ back) = terminated front ++ ofSegments back := by
  induction front with
  | nil => rfl
  | cons part front ih =>
    have hrest : front ++ back ≠ [] := by simp [hback]
    have hcons : ofSegments (part :: (front ++ back)) =
        part ++ '\n' :: ofSegments (front ++ back) := by
      simp [ofSegments, List.intercalate_cons_of_ne_nil hrest]
    rw [List.cons_append, hcons, ih]
    simp

/-- A segment begins after all segments before it and their newlines. -/
theorem segmentStart_eq_length (text : Text) (i : Nat) (hi : i < (segments text).length) :
    segmentStart text i = (terminated ((segments text).take i)).length := by
  induction text generalizing i with
  | nil =>
    have hzero : i = 0 := by simpa [segments] using hi
    simp [hzero, segmentStart]
  | cons c text ih =>
    cases i with
    | zero => simp [segmentStart]
    | succ i =>
      rw [segments_cons] at hi ⊢
      by_cases hc : c = '\n'
      · have hi' : i < (segments text).length := by simpa [hc] using hi
        simp [segmentStart, hc, ih i hi']
      · have hi' : i + 1 < (segments text).length := by simpa [hc] using hi
        obtain ⟨first, others, hsegments⟩ := List.exists_cons_of_ne_nil (segments_ne_nil text)
        have hstart := ih (i + 1) hi'
        simp only [hsegments, List.take_succ_cons] at hstart
        simp [segmentStart, hc, hsegments, hstart]

section

variable {text : Text} {i j : Nat}

theorem eq_terminated_append (hi : i < (segments text).length) :
    text = terminated ((segments text).take i) ++ ofSegments ((segments text).drop i) := by
  have hrest : (segments text).drop i ≠ [] := by simp [hi]
  rw [← ofSegments_append _ hrest, List.take_append_drop, ofSegments_segments]

theorem take_segmentStart (hi : i < (segments text).length) :
    text.take (segmentStart text i) = terminated ((segments text).take i) := by
  rw [segmentStart_eq_length text i hi]
  calc text.take (terminated ((segments text).take i)).length
      = (terminated ((segments text).take i) ++ ofSegments ((segments text).drop i)).take
          (terminated ((segments text).take i)).length :=
        congrArg (List.take _) (eq_terminated_append hi)
    _ = terminated ((segments text).take i) := List.take_left

theorem drop_segmentStart (hi : i < (segments text).length) :
    text.drop (segmentStart text i) = ofSegments ((segments text).drop i) := by
  rw [segmentStart_eq_length text i hi]
  calc text.drop (terminated ((segments text).take i)).length
      = (terminated ((segments text).take i) ++ ofSegments ((segments text).drop i)).drop
          (terminated ((segments text).take i)).length :=
        congrArg (List.drop _) (eq_terminated_append hi)
    _ = ofSegments ((segments text).drop i) := List.drop_left

/-- What lies between the beginnings of two segments: the segments from the first on to before the
second, with their newlines. -/
theorem segmentStart_add_length (hij : i ≤ j) (hj : j < (segments text).length) :
    segmentStart text i + (terminated (((segments text).drop i).take (j - i))).length =
      segmentStart text j := by
  have htake : (segments text).take j =
      (segments text).take i ++ ((segments text).drop i).take (j - i) := by
    rw [← List.take_add, Nat.add_sub_cancel' hij]
  rw [segmentStart_eq_length text i (Nat.lt_of_le_of_lt hij hj), segmentStart_eq_length text j hj,
    htake, terminated_append, List.length_append]

theorem segmentStart_le_segmentStart (hij : i ≤ j) (hj : j < (segments text).length) :
    segmentStart text i ≤ segmentStart text j :=
  Nat.le.intro (segmentStart_add_length hij hj)

theorem slice_segmentStart (hij : i ≤ j) (hj : j < (segments text).length) :
    (text.drop (segmentStart text i)).take (segmentStart text j - segmentStart text i) =
      terminated (((segments text).drop i).take (j - i)) := by
  have hlength := segmentStart_add_length hij hj
  have hrest : (segments text).drop j ≠ [] := by simp [hj]
  have hsplit : text.drop (segmentStart text i) =
      terminated (((segments text).drop i).take (j - i)) ++
        ofSegments ((segments text).drop j) := by
    rw [drop_segmentStart (Nat.lt_of_le_of_lt hij hj), ← ofSegments_append _ hrest,
      slice_append_drop (segments text) hij]
  rw [hsplit, ← hlength, Nat.add_sub_cancel_left]
  exact List.take_left

/-! ### Lines -/

/-- The segments of a text without the empty one that a last newline leaves. -/
def lines (text : Text) : List Text :=
  if (segments text).getLast? = some [] then (segments text).dropLast else segments text

theorem lines_of_newline_notMem (h : '\n' ∉ text) :
    lines text = if text = [] then [] else [text] := by
  rw [lines, segments, List.splitOn_eq_singleton h]
  by_cases hempty : text = [] <;> simp [hempty]

theorem lines_append_newline {body : Text} (h : '\n' ∉ body) (rest : Text) :
    lines (body ++ '\n' :: rest) = body :: lines rest := by
  obtain ⟨first, others, hrest⟩ := List.exists_cons_of_ne_nil (segments_ne_nil rest)
  have hcut : segments (body ++ '\n' :: rest) = body :: segments rest :=
    List.splitOn_append_cons_self_of_not_mem h rest
  rw [lines, lines, hcut, hrest, List.getLast?_cons_cons, List.dropLast_cons_cons]
  exact (apply_ite (body :: ·) _ _ _).symm

end

end ScriptEmbed.Text
