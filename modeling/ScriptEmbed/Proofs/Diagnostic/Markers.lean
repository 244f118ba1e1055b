import ScriptEmbed.Diagnostic.Basic
import ScriptEmbed.Proofs.Text.Trimming

/-!
Header lines by what they look like: a marker with at most one character in front of it, blanks
apart. A marker begins with two characters that are not blank and has its bracket at the beginning
only, so of two markers in a line the second has at least two such characters in front of it. Hence
a line can be taken for a header line in one way at most (`Marked.unique`). In that way its marker is
the first of its severity (`Marked.breakOn_eq`), so looking for the first marker of one severity and
then of the other, in either order (`header?_eq_or`), finds it (`header?_eq_some_iff`).
-/

set_option autoImplicit false
set_option relaxedAutoImplicit false

namespace ScriptEmbed.Diagnostic

variable {marker text front back before after line : Text} {severity : Severity}

/-! ### The first occurrence of a marker -/

theorem afterMarker?_eq_some_iff :
    afterMarker? marker text = some after ↔ text = marker ++ after := by
  induction marker generalizing text with
  | nil => simp [afterMarker?]
  | cons m marker ih =>
    cases text with
    | nil => simp [afterMarker?]
    | cons c text =>
      by_cases hc : m = c
      · simp [afterMarker?, hc, ih]
      · simp [afterMarker?, hc, Ne.symm hc]

/-- One step of the search. -/
theorem breakOnFrom_eq (marker passed text : Text) :
    breakOnFrom marker passed text =
      match afterMarker? marker text with
      | some after => some (passed.reverse, after)
      | none =>
        match text with
        | [] => none
        | c :: rest => breakOnFrom marker (c :: passed) rest := by
  cases text with
  | nil => cases h : afterMarker? marker [] <;> simp [breakOnFrom, h]
  | cons c rest => rfl

theorem eq_of_breakOnFrom {passed : Text}
    (h : breakOnFrom marker passed text = some (before, after)) :
    passed.reverse ++ text = before ++ marker ++ after := by
  induction text generalizing passed with
  | nil =>
    rw [breakOnFrom_eq] at h
    cases hmarker : afterMarker? marker [] with
    | none => simp [hmarker] at h
    | some rest =>
      simp only [hmarker, Option.some.injEq, Prod.mk.injEq] at h
      obtain ⟨rfl, rfl⟩ := h
      rw [afterMarker?_eq_some_iff.mp hmarker, List.append_assoc]
  | cons c text ih =>
    rw [breakOnFrom_eq] at h
    cases hmarker : afterMarker? marker (c :: text) with
    | none =>
      simp only [hmarker] at h
      rw [← ih h]
      simp
    | some rest =>
      simp only [hmarker, Option.some.injEq, Prod.mk.injEq] at h
      obtain ⟨rfl, rfl⟩ := h
      rw [afterMarker?_eq_some_iff.mp hmarker, List.append_assoc]

theorem eq_of_breakOn (h : breakOn marker text = some (before, after)) :
    text = before ++ marker ++ after := eq_of_breakOnFrom h

/-- Where a marker occurs, the search comes to an end there or earlier. -/
theorem breakOnFrom_of_occurs (marker front back passed : Text) :
    ∃ skipped after, breakOnFrom marker passed (front ++ (marker ++ back)) =
      some (passed.reverse ++ skipped, after) ∧ skipped <+: front := by
  induction front generalizing passed with
  | nil =>
    refine ⟨[], back, ?_, List.prefix_rfl⟩
    rw [breakOnFrom_eq, List.nil_append, afterMarker?_eq_some_iff.mpr rfl, List.append_nil]
  | cons c front ih =>
    rw [breakOnFrom_eq]
    cases hmarker : afterMarker? marker (c :: front ++ (marker ++ back)) with
    | some after => exact ⟨[], after, by simp, List.nil_prefix⟩
    | none =>
      obtain ⟨skipped, after, hfound, hskipped⟩ := ih (c :: passed)
      refine ⟨c :: skipped, after, ?_, (List.cons_prefix_cons).mpr ⟨rfl, hskipped⟩⟩
      simpa using hfound

theorem breakOn_of_occurs (marker front back : Text) :
    ∃ before after, breakOn marker (front ++ (marker ++ back)) = some (before, after) ∧
      before <+: front := by
  obtain ⟨skipped, after, hfound, hskipped⟩ := breakOnFrom_of_occurs marker front back []
  exact ⟨skipped, after, hfound, hskipped⟩

/-! ### Marked lines -/

/-- A line is a marker between two texts, of which the first has at most one character when its
blanks are trimmed. -/
structure Marked (line : Text) (severity : Severity) (before after : Text) : Prop where
  line_eq : line = before ++ (severity.marker ++ after)
  short : (Text.trim before).length ≤ 1

/-- The first letter of a marker, which tells the severity. -/
def markerLetter : Severity → Char
  | .warning => 'W'
  | .error => 'E'

theorem markerLetter_injective : Function.Injective markerLetter := by
  intro first second h
  cases first <;> cases second <;> simp_all [markerLetter]

theorem markerLetter_visible (severity : Severity) :
    markerLetter severity ≠ '[' ∧ Text.isBlank (markerLetter severity) = false := by
  cases severity <;> decide

theorem exists_marker_eq (severity : Severity) :
    ∃ rest, severity.marker = '[' :: markerLetter severity :: rest := by
  cases severity
  · exact ⟨"ARNING]".toList, rfl⟩
  · exact ⟨"RROR]".toList, rfl⟩

/-- Where one marker begins, no other one begins a little later: either its bracket would be the
second character of the first, or two characters of the first would be in front of it. -/
theorem nothing_between {first second : Severity} {between after' : Text}
    (h : first.marker ++ after = between ++ (second.marker ++ after'))
    (hfew : Text.visibleCount between ≤ 1) : between = [] := by
  obtain ⟨rest, hfirst⟩ := exists_marker_eq first
  obtain ⟨rest', hsecond⟩ := exists_marker_eq second
  obtain ⟨hletter, hvisible⟩ := markerLetter_visible first
  rw [hfirst, hsecond] at h
  cases between with
  | nil => rfl
  | cons x between =>
    obtain ⟨hx, h⟩ := List.cons.inj h
    cases between with
    | nil => exact (hletter (List.cons.inj h).1).elim
    | cons y between =>
      obtain ⟨hy, -⟩ := List.cons.inj h
      have htwo : 2 ≤ Text.visibleCount (x :: y :: between) := by
        have hbracket : Text.isBlank '[' = false := by decide
        simp [Text.visibleCount, ← hx, ← hy, hbracket, hvisible]
      omega

theorem Marked.unique {first second : Severity} {before' after' : Text}
    (hfirst : Marked line first before after) (hsecond : Marked line second before' after') :
    first = second ∧ before = before' ∧ after = after' := by
  have hline := hfirst.line_eq.symm.trans hsecond.line_eq
  have hfew := Text.length_trim_le_one_iff.mp hfirst.short
  have hfew' := Text.length_trim_le_one_iff.mp hsecond.short
  have hbefore : before = before' := by
    rcases List.append_eq_append_iff.mp hline with ⟨between, rfl, hrest⟩ | ⟨between, rfl, hrest⟩
    · rw [Text.visibleCount_append] at hfew'
      rw [nothing_between hrest (by omega), List.append_nil]
    · rw [Text.visibleCount_append] at hfew
      rw [nothing_between hrest (by omega), List.append_nil]
  rw [hbefore, List.append_cancel_left_eq] at hline
  have hseverity : first = second := by
    obtain ⟨rest, hrest⟩ := exists_marker_eq first
    obtain ⟨rest', hrest'⟩ := exists_marker_eq second
    rw [hrest, hrest'] at hline
    exact markerLetter_injective (List.cons.inj (List.cons.inj hline).2).1
  subst hseverity
  exact ⟨rfl, hbefore, List.append_cancel_left hline⟩

/-- In a marked line no marker of the severity comes before the one that marks it. -/
theorem Marked.breakOn_eq (hmarked : Marked line severity before after) :
    breakOn severity.marker line = some (before, after) := by
  obtain ⟨found, rest, hbreak, hprefix⟩ := breakOn_of_occurs severity.marker before after
  rw [← hmarked.line_eq] at hbreak
  have hshort : (Text.trim found).length ≤ 1 := by
    rw [Text.length_trim_le_one_iff]
    exact Nat.le_trans hprefix.sublist.countP_le
      (Text.length_trim_le_one_iff.mp hmarked.short)
  -- where the search stopped is a way to mark the line as well, and there is only one
  have hfound : Marked line severity found rest :=
    ⟨by rw [← List.append_assoc]; exact eq_of_breakOn hbreak, hshort⟩
  obtain ⟨-, rfl, rfl⟩ := hfound.unique hmarked
  exact hbreak

theorem headerAs?_eq_some_iff {record : Diagnostic} :
    headerAs? severity line = some record ↔
      ∃ before after, Marked line severity before after ∧
        record = ⟨severity, Text.trim after, []⟩ := by
  unfold headerAs?
  constructor
  · intro h
    split at h
    · cases h
    · rename_i before after hbreak
      split_ifs at h with hshort
      have hline : line = before ++ (severity.marker ++ after) := by
        rw [← List.append_assoc]
        exact eq_of_breakOn hbreak
      exact ⟨before, after, ⟨hline, hshort⟩, (Option.some.inj h).symm⟩
  · rintro ⟨before, after, hmarked, rfl⟩
    simp [hmarked.breakOn_eq, hmarked.short]

/-- A line is a header line exactly if it is marked, whichever way its marker was found. -/
theorem header?_eq_some_iff {record : Diagnostic} :
    header? line = some record ↔
      ∃ severity before after, Marked line severity before after ∧
        record = ⟨severity, Text.trim after, []⟩ := by
  rw [header?, Option.or_eq_some_iff]
  constructor
  · rintro (herror | ⟨-, hwarning⟩)
    · obtain ⟨before, after, hmarked, rfl⟩ := headerAs?_eq_some_iff.mp herror
      exact ⟨.error, before, after, hmarked, rfl⟩
    · obtain ⟨before, after, hmarked, rfl⟩ := headerAs?_eq_some_iff.mp hwarning
      exact ⟨.warning, before, after, hmarked, rfl⟩
  · rintro ⟨severity, before, after, hmarked, rfl⟩
    cases severity with
    | error => exact Or.inl (headerAs?_eq_some_iff.mpr ⟨before, after, hmarked, rfl⟩)
    | warning =>
      -- the search for an error comes first, and it finds nothing since the line is marked once
      refine Or.inr ⟨?_, headerAs?_eq_some_iff.mpr ⟨before, after, hmarked, rfl⟩⟩
      by_contra hsome
      obtain ⟨record, hrecord⟩ := Option.ne_none_iff_exists'.mp hsome
      obtain ⟨before', after', hother, -⟩ := headerAs?_eq_some_iff.mp hrecord
      cases (hother.unique hmarked).1

theorem header?_eq_none_iff :
    header? line = none ↔ ∀ severity before after, ¬ Marked line severity before after := by
  constructor
  · intro hnone severity before after hmarked
    have hsome := header?_eq_some_iff.mpr ⟨severity, before, after, hmarked, rfl⟩
    rw [hnone] at hsome
    cases hsome
  · intro hnone
    by_contra hsome
    obtain ⟨record, hrecord⟩ := Option.ne_none_iff_exists'.mp hsome
    obtain ⟨severity, before, after, hmarked, -⟩ := header?_eq_some_iff.mp hrecord
    exact hnone severity before after hmarked

/-! ### Every way to mark a line -/

/-- The two searches can be made in either order. -/
theorem header?_eq_or (line : Text) :
    header? line = (headerAs? .warning line).or (headerAs? .error line) := by
  rw [header?]
  cases herror : headerAs? .error line with
  | none => simp
  | some record =>
    have hwarning : headerAs? .warning line = none := by
      by_contra hsome
      obtain ⟨other, hother⟩ := Option.ne_none_iff_exists'.mp hsome
      obtain ⟨before, after, hmarked, -⟩ := headerAs?_eq_some_iff.mp herror
      obtain ⟨before', after', hmarked', -⟩ := headerAs?_eq_some_iff.mp hother
      cases (hmarked.unique hmarked').1
    simp [hwarning]

/-- A line opens a record with a severity and a message exactly if it can be written as a text with
at most one character besides the blanks at its ends, the marker of the severity, and a text that is
the message when it is trimmed. There is at most one way to write a line so, whichever markers it
has and however many; in that way the marker is the first of its severity; and it does not matter
which severity is looked for first. -/
theorem opens_iff_division (line : Text) :
    (∀ record : Diagnostic, header? line = some record ↔
      record.notes = [] ∧ ∃ before after, line = before ++ record.severity.marker ++ after ∧
        (Text.trim before).length ≤ 1 ∧ record.message = Text.trim after) ∧
    (∀ (first second : Severity) (before after before' after' : Text),
      line = before ++ first.marker ++ after → (Text.trim before).length ≤ 1 →
      line = before' ++ second.marker ++ after' → (Text.trim before').length ≤ 1 →
        first = second ∧ before = before' ∧ after = after') ∧
    (∀ (severity : Severity) (before after : Text),
      line = before ++ severity.marker ++ after → (Text.trim before).length ≤ 1 →
        breakOn severity.marker line = some (before, after)) ∧
    header? line = (headerAs? .warning line).or (headerAs? .error line) := by
  have hmarked : ∀ {severity : Severity} {before after : Text},
      line = before ++ severity.marker ++ after → (Text.trim before).length ≤ 1 →
        Marked line severity before after := by
    intro severity before after hline hshort
    exact ⟨by rw [← List.append_assoc]; exact hline, hshort⟩
  refine ⟨?_, ?_, ?_, header?_eq_or line⟩
  · rintro ⟨severity, message, notes⟩
    rw [header?_eq_some_iff]
    constructor
    · rintro ⟨severity', before, after, hfound, hrecord⟩
      cases hrecord
      exact ⟨rfl, before, after, by rw [List.append_assoc]; exact hfound.line_eq, hfound.short, rfl⟩
    · rintro ⟨rfl, before, after, hline, hshort, rfl⟩
      exact ⟨severity, before, after, hmarked hline hshort, rfl⟩
  · intro first second before after before' after' hline hshort hline' hshort'
    exact (hmarked hline hshort).unique (hmarked hline' hshort')
  · intro severity before after hline hshort
    exact (hmarked hline hshort).breakOn_eq

/-- A line with a bracket in front of its marker, and with markers of both severities after it. -/
theorem opens_iff_division_bracket :
    header? " [[WARNING] a [ERROR] b [WARNING]".toList =
      some ⟨.warning, "a [ERROR] b [WARNING]".toList, []⟩ ∧
    breakOn Severity.warning.marker " [[WARNING] a [ERROR] b [WARNING]".toList =
      some (" [".toList, " a [ERROR] b [WARNING]".toList) := by
  obtain ⟨haccepts, -, hfirst, -⟩ :=
    opens_iff_division " [[WARNING] a [ERROR] b [WARNING]".toList
  have hline : " [[WARNING] a [ERROR] b [WARNING]".toList =
      " [".toList ++ Severity.warning.marker ++ " a [ERROR] b [WARNING]".toList := by decide
  have hshort : (Text.trim " [".toList).length ≤ 1 := by decide
  exact ⟨(haccepts _).mpr ⟨rfl, _, _, hline, hshort, by decide⟩, hfirst _ _ _ hline hshort⟩

end ScriptEmbed.Diagnostic
