import ScriptEmbed.Proofs.Diagnostic.Blocks

/-!
The records of a sequence of lines, by its header lines: there is one record for each, in their
order, whatever notes it has (`headers_blockRecords`). So the records of a severity are counted by
counting header lines.
-/

set_option autoImplicit false
set_option relaxedAutoImplicit false

namespace ScriptEmbed.Diagnostic

/-- A record as its header line opened it. -/
def header (record : Diagnostic) : Diagnostic := { record with notes := [] }

/-- How many lines open a record of a severity. -/
def headerCount (severity : Severity) (lines : List Text) : Nat :=
  lines.countP fun line ↦ (header? line).any (·.severity == severity)

theorem headerCount_append (severity : Severity) (front back : List Text) :
    headerCount severity (front ++ back) = headerCount severity front + headerCount severity back :=
  List.countP_append

theorem headerCount_eq_zero_iff (severity : Severity) (lines : List Text) :
    headerCount severity lines = 0 ↔
      ∀ line ∈ lines, ∀ next, header? line = some next → next.severity ≠ severity := by
  rw [headerCount, List.countP_eq_zero]
  refine forall₂_congr fun line _ ↦ ?_
  cases header? line <;> simp

theorem header_of_opens? {operation : Operation} {record : Diagnostic}
    (h : operation.opens? = some record) (notes : List Text) :
    ({ record with notes := notes } : Diagnostic).header = record := by
  obtain ⟨severity, message, none⟩ := record
  obtain rfl : none = [] := Operation.notes_opens? h
  rfl

/-- The records are those of the header lines, apart from their notes. -/
theorem headers_blockRecords (operations : List Operation) :
    (blockRecords operations).map header = operations.filterMap Operation.opens? := by
  induction operations with
  | nil => rfl
  | cons operation rest ih =>
    rw [blockRecords_cons, List.map_append, ih]
    cases hopens : operation.opens? with
    | none => simp [blockRecord?, hopens]
    | some record => simp [blockRecord?, hopens, header_of_opens? hopens]

theorem headers_of_lines (lines : List Text) :
    (blockRecords (lines.map .line ++ [.finish])).map header = lines.filterMap header? := by
  have hline : Operation.opens? ∘ Operation.line = header? := rfl
  rw [headers_blockRecords, List.filterMap_append, List.filterMap_map, hline]
  simp [Operation.opens?]

theorem countP_blockRecords (severity : Severity) (lines : List Text) :
    (blockRecords (lines.map .line ++ [.finish])).countP (·.severity == severity) =
      headerCount severity lines := by
  have hseverity : ((·.severity == severity) ∘ header : Diagnostic → Bool) =
      (·.severity == severity) := rfl
  rw [← hseverity, ← List.countP_map, headers_of_lines, List.countP_filterMap, headerCount]
  refine List.countP_congr fun line _ ↦ ?_
  cases header? line <;> rfl

end ScriptEmbed.Diagnostic
