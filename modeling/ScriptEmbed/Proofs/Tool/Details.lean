import ScriptEmbed.Proofs.Tool.Diagnosed

/-!
Indented lines in an open record. Such a line is a detail of the record, unless it is a header line:
that it is one is decided by its marker alone and before its indentation is looked at, and blanks in
front of a marker do not count. So a record keeps its details exactly if none of them is a header
line (`run_details_iff`, by induction on the details from `feed_indented` and `feed_header`), and
the errors of a run are the same with and without the details exactly if none of them is the header
line of an error (`errors_details_iff`).
-/

set_option autoImplicit false
set_option relaxedAutoImplicit false

namespace ScriptEmbed

namespace Diagnostic

/-- A record with one more detail, unless the line is blank. -/
def taking (record : Diagnostic) (line : Text) : Diagnostic :=
  { record with
    notes := record.notes ++ if Text.allBlank line then [] else [Text.trimEnd line] }

variable {current next : Diagnostic} {line : Text} {details : List Text}

/-! ### One detail -/

theorem feed_indented (hindented : isIndented line = true) (hheader : header? line = none) :
    Reader.feed (some current) line = ({}, some (current.taking line)) := by
  have hblank : line.head?.any Text.isBlank = true := hindented
  cases hall : Text.allBlank line <;> simp [Reader.feed, taking, hheader, hall, hblank]

theorem feed_header (reader : Reader) (hheader : header? line = some next) :
    reader.feed line = (⟨reader, false⟩, some next) := by
  simp [Reader.feed, hheader]

/-- An indented line is a detail of the open record exactly if it is no header line. -/
theorem feed_indented_iff (current : Diagnostic) (hindented : isIndented line = true) :
    Reader.feed (some current) line = ({}, some (current.taking line)) ↔ header? line = none := by
  refine ⟨?_, feed_indented hindented⟩
  intro hfeed
  cases hheader : header? line with
  | none => rfl
  | some next =>
    rw [feed_header _ hheader] at hfeed
    cases hfeed

/-! ### A run of details -/

theorem run_details_iff (current : Diagnostic)
    (hindented : ∀ line ∈ details, isIndented line = true) :
    (Reader.run (some current) (details.map .line) = List.replicate details.length {} ∧
      Reader.after (some current) (details.map .line) = some (details.foldl taking current)) ↔
    ∀ line ∈ details, header? line = none := by
  induction details generalizing current with
  | nil => simp [Reader.run, Reader.after]
  | cons line details ih =>
    rw [List.forall_mem_cons] at hindented ⊢
    cases hheader : header? line with
    | some next =>
      -- the first operation gives back the open record, which is not what a detail gives back
      have hfeed : (Reader.operate (some current) (.line line)).1 = ⟨some current, false⟩ :=
        congrArg Prod.fst (feed_header (some current) hheader)
      simp [Reader.run, hfeed, List.replicate_succ]
    | none =>
      have hfeed : Reader.operate (some current) (.line line) =
          ({}, some (current.taking line)) := feed_indented hindented.1 hheader
      rw [← ih (current.taking line) hindented.2]
      simp [Reader.run, Reader.after, hfeed, List.replicate_succ]

end Diagnostic

namespace Tool

open Files Diagnostic

/-- Lines in the middle of a stream leave the errors of a run as many as they are without them
exactly if none of the lines is the header line of an error. -/
theorem errors_details_iff {conduct other : Conduct} {before details after : List Text}
    (hwith : stderrLines conduct = before ++ details ++ after)
    (hwithout : stderrLines other = before ++ after) :
    (resultOf conduct).errors.length = (resultOf other).errors.length ↔
      ∀ line ∈ details, ∀ next, header? line = some next → next.severity ≠ .error := by
  rw [length_errors_resultOf, length_errors_resultOf, hwith, hwithout, headerCount_append,
    headerCount_append, headerCount_append, ← headerCount_eq_zero_iff]
  omega

/-- When the details of an open record stay with it, and when they leave the errors of a run alone.
One indented line gives back nothing and stays in the open record, as a note if it is not blank,
exactly if it is no header line; so do any number of them, one after the other, exactly if none is a
header line; and with them a run has as many errors as without them exactly if none is the header
line of an error. -/
theorem details_stay_iff (current : Diagnostic) {details : List Text}
    (hindented : ∀ line ∈ details, isIndented line = true) :
    (∀ line ∈ details,
      Reader.feed (some current) line = ({}, some (current.taking line)) ↔ header? line = none) ∧
    ((Reader.run (some current) (details.map .line) = List.replicate details.length {} ∧
        Reader.after (some current) (details.map .line) = some (details.foldl taking current)) ↔
      ∀ line ∈ details, header? line = none) ∧
    ∀ (conduct other : Conduct) (before after : List Text),
      stderrLines conduct = before ++ details ++ after → stderrLines other = before ++ after →
        ((resultOf conduct).errors.length = (resultOf other).errors.length ↔
          ∀ line ∈ details, ∀ next, header? line = some next → next.severity ≠ .error) := by
  refine ⟨?_, run_details_iff current hindented, ?_⟩
  · intro line hline
    exact feed_indented_iff current (hindented line hline)
  · intro conduct other before after hwith hwithout
    exact errors_details_iff hwith hwithout

/-- A code frame that quotes a marker, but not at its beginning. -/
theorem details_stay_iff_quoted_marker :
    isIndented "  1 │ say(\"[ERROR] x\")".toList = true ∧
    Reader.feed (some ⟨.warning, "w".toList, []⟩) "  1 │ say(\"[ERROR] x\")".toList =
      ({}, some ⟨.warning, "w".toList, ["  1 │ say(\"[ERROR] x\")".toList]⟩) := by
  have hindented : ∀ line ∈ ["  1 │ say(\"[ERROR] x\")".toList], isIndented line = true := by
    decide
  obtain ⟨hfeed, -⟩ := details_stay_iff ⟨.warning, "w".toList, []⟩ hindented
  exact ⟨by decide, (hfeed _ (List.mem_singleton_self _)).mpr (by decide)⟩

/-- A detail of a warning that begins with a marker: it closes the warning and opens an error, so a
run with it has one error and a run without it has none. -/
theorem detail_taken_for_error :
    isIndented "  [ERROR] x".toList = true ∧
    Reader.feed (some ⟨.warning, "w".toList, []⟩) "  [ERROR] x".toList =
      (⟨some ⟨.warning, "w".toList, []⟩, false⟩, some ⟨.error, "x".toList, []⟩) ∧
    Reader.feed (some ⟨.warning, "w".toList, []⟩) "  [ERROR] x".toList ≠
      ({}, some ⟨.warning, "w".toList, ["  [ERROR] x".toList]⟩) ∧
    (resultOf { stderr := .ofText "▲ [WARNING] w\n  [ERROR] x\n".toList }).errors.length = 1 ∧
    (resultOf { stderr := .ofText "▲ [WARNING] w\n".toList }).errors.length = 0 := by
  exact ⟨by decide, by decide, by decide, by decide, by decide⟩

end Tool

end ScriptEmbed
