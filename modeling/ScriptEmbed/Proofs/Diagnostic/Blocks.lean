import Mathlib.Data.List.Induction
import Mathlib.Logic.ExistsUnique
import ScriptEmbed.Diagnostic.Reader

/-!
Reading line by line, against the grammar of whole blocks. A header line opens a block, which lasts
until the next operation that ends one: another header line, a line that is neither blank nor
indented, or the end of the lines. `blockRecords` looks ahead from each header to the end of its
block and needs no state; `OpenAt` says of the operations so far which block is open.

One operation gives back the open record exactly if it ends a block, and otherwise adds at most a
note to it (`operate_eq`). By induction on the operations from the right, the reader holds exactly
the block that is open, with the notes so far (`after_eq_some_iff`), and from the left, what a whole
run gives back are the records of the blocks (`completed_run`). No other operation can have opened
the block that is open (`OpenAt.start_eq`), so each line has one role.
-/

set_option autoImplicit false
set_option relaxedAutoImplicit false

namespace ScriptEmbed.Diagnostic

/-! ### Operations on a reader -/

inductive Operation
  | line (text : Text)
  | finish
  deriving DecidableEq

/-- One operation: what it gives back, and the reader after it. The end of the lines passes nothing
through. -/
def Reader.operate (reader : Reader) : Operation → Feed × Reader
  | .line text => reader.feed text
  | .finish => (⟨reader.finish.1, false⟩, reader.finish.2)

/-- What each of a sequence of operations gives back. -/
def Reader.run : Reader → List Operation → List Feed
  | _, [] => []
  | reader, operation :: rest =>
    (reader.operate operation).1 :: (reader.operate operation).2.run rest

/-- The reader after a sequence of operations. -/
def Reader.after (reader : Reader) (operations : List Operation) : Reader :=
  operations.foldl (fun reader operation ↦ (reader.operate operation).2) reader

/-! ### Blocks -/

/-- A line that starts with a blank. -/
def isIndented (line : Text) : Bool := line.head?.any Text.isBlank

namespace Operation

/-- The record of a header line, which has no notes yet. -/
def opens? : Operation → Option Diagnostic
  | .line text => header? text
  | .finish => none

/-- Whether a block that is open ends here. -/
def ends : Operation → Bool
  | .line text => (header? text).isSome || (!Text.allBlank text && !isIndented text)
  | .finish => true

/-- The note that a line adds to the block that it is in. -/
def note? : Operation → Option Text
  | .line text =>
    if (header? text).isNone && !Text.allBlank text && isIndented text then
      some (Text.trimEnd text)
    else none
  | .finish => none

/-- Whether a line is passed through, for a given reader. -/
def passes (reader : Reader) : Operation → Bool
  | .line text =>
    (header? text).isNone && (reader.isNone || (!Text.allBlank text && !isIndented text))
  | .finish => false

end Operation

/-- The rest of a block: the operations before the next one that ends a block. -/
def blockRest (operations : List Operation) : List Operation := operations.takeWhile (!·.ends)

/-- The notes of the lines of a block. -/
def notesOf (block : List Operation) : List Text := block.filterMap Operation.note?

/-- The record of the block that a sequence of operations begins with, if it begins with one. -/
def blockRecord? : List Operation → Option Diagnostic
  | [] => none
  | operation :: rest => operation.opens?.map fun header ↦
    { header with notes := notesOf (blockRest rest) }

/-- The records of all blocks, one for each header line, in the order of the header lines. -/
def blockRecords (operations : List Operation) : List Diagnostic :=
  operations.tails.filterMap blockRecord?

/-- After these operations the block is open that the operation at `start` opened. -/
def OpenAt (operations : List Operation) (start : Nat) (header : Diagnostic) : Prop :=
  (operations[start]?).bind Operation.opens? = some header ∧
    ∀ operation ∈ operations.drop (start + 1), operation.ends = false

/-- What a line is to the reader: a header line, a note or a blank line of the block that was opened
at `start`, or a line that is passed through. -/
inductive Role
  | header
  | note (start : Nat)
  | blank (start : Nat)
  | passed

/-- The role of a line, read off the operations before it and what it gave back. -/
def HasRole (before : List Operation) (line : Text) (feed : Feed) : Role → Prop
  | .header => (header? line).isSome = true
  | .note start => (∃ header, OpenAt before start header) ∧
      (Operation.line line).note? = some (Text.trimEnd line)
  | .blank start => (∃ header, OpenAt before start header) ∧
      header? line = none ∧ Text.allBlank line = true
  | .passed => feed.passthrough = true

/-! ### One operation -/

theorem notes_headerAs? {severity : Severity} {line : Text} {record : Diagnostic}
    (h : headerAs? severity line = some record) : record.notes = [] := by
  unfold headerAs? at h
  split at h
  · cases h
  · split at h
    · cases h
      rfl
    · cases h

theorem notes_header? {line : Text} {record : Diagnostic} (h : header? line = some record) :
    record.notes = [] := by
  rcases Option.or_eq_some_iff.mp h with herror | ⟨-, hwarning⟩
  · exact notes_headerAs? herror
  · exact notes_headerAs? hwarning

theorem Operation.notes_opens? {operation : Operation} {header : Diagnostic}
    (h : operation.opens? = some header) : header.notes = [] := by
  cases operation with
  | line text => exact notes_header? h
  | finish => cases h

theorem Operation.ends_of_opens? {operation : Operation} {header : Diagnostic}
    (h : operation.opens? = some header) : operation.ends = true := by
  cases operation with
  | line text =>
    have hheader : header? text = some header := h
    simp [Operation.ends, hheader]
  | finish => cases h

theorem Operation.opens?_of_not_ends {operation : Operation} (h : operation.ends = false) :
    operation.opens? = none := by
  cases hopens : operation.opens? with
  | none => rfl
  | some header => simp [Operation.ends_of_opens? hopens] at h

namespace Reader

/-- All that one operation does: it gives back the open record exactly if it ends a block, and
leaves the block that it opens or else the open one with its note added. -/
theorem operate_eq (reader : Reader) (operation : Operation) :
    reader.operate operation =
      (⟨if operation.ends then reader else none, operation.passes reader⟩,
        if operation.ends then operation.opens?
        else reader.map fun record ↦
          { record with notes := record.notes ++ operation.note?.toList }) := by
  cases operation with
  | finish => rfl
  | line text =>
    cases hheader : header? text with
    | some header =>
      simp [operate, feed, Operation.ends, Operation.opens?, Operation.passes, hheader]
    | none =>
      cases reader with
      | none => simp [operate, feed, Operation.opens?, Operation.passes, hheader]
      | some record =>
        cases hblank : Text.allBlank text with
        | true =>
          simp [operate, feed, Operation.ends, Operation.passes, Operation.note?, hheader, hblank]
        | false =>
          cases hindented : text.head?.any Text.isBlank <;>
            simp [operate, feed, isIndented, Operation.ends, Operation.opens?, Operation.passes,
              Operation.note?, hheader, hblank, hindented]

/-! ### A run -/

@[simp] theorem length_run (reader : Reader) (operations : List Operation) :
    (reader.run operations).length = operations.length := by
  induction operations generalizing reader with
  | nil => rfl
  | cons operation rest ih => simp [run, ih]

/-- What an operation in a run gives back is what it gives back to the reader that all operations
before it leave. -/
theorem getElem?_run_append (reader : Reader) (before : List Operation) (operation : Operation)
    (rest : List Operation) :
    (reader.run (before ++ operation :: rest))[before.length]? =
      some ((reader.after before).operate operation).1 := by
  induction before generalizing reader with
  | nil => simp [run, after]
  | cons first before ih => simpa [run, after] using ih (reader.operate first).2

theorem after_append_singleton (reader : Reader) (before : List Operation)
    (operation : Operation) :
    reader.after (before ++ [operation]) = ((reader.after before).operate operation).2 := by
  simp [after]

end Reader

/-! ### The open block -/

theorem openAt_append_singleton (before : List Operation) (operation : Operation) (start : Nat)
    (header : Diagnostic) :
    OpenAt (before ++ [operation]) start header ↔
      (start = before.length ∧ operation.opens? = some header) ∨
        (OpenAt before start header ∧ operation.ends = false) := by
  rcases Nat.lt_trichotomy start before.length with hlt | heq | hgt
  · have hdrop : (before ++ [operation]).drop (start + 1) =
        before.drop (start + 1) ++ [operation] := List.drop_append_of_le_length hlt
    simp only [OpenAt, List.getElem?_append_left hlt, hdrop, List.forall_mem_append,
      List.forall_mem_singleton, Nat.ne_of_lt hlt, false_and, false_or, and_assoc]
  · subst heq
    simp [OpenAt]
  · have hout : (before ++ [operation])[start]? = none :=
      List.getElem?_eq_none (by simpa using Nat.succ_le_of_lt hgt)
    simp [OpenAt, hout, List.getElem?_eq_none (Nat.le_of_lt hgt), Nat.ne_of_gt hgt]

theorem OpenAt.start_lt {operations : List Operation} {start : Nat} {header : Diagnostic}
    (h : OpenAt operations start header) : start < operations.length := by
  by_contra hout
  have hnone : operations[start]? = none := List.getElem?_eq_none (Nat.not_lt.mp hout)
  simp [OpenAt, hnone] at h

/-- Later operations than the one that opened the block open none. -/
theorem OpenAt.le_start {operations : List Operation} {first second : Nat}
    {header other : Diagnostic} (hfirst : OpenAt operations first header)
    (hsecond : OpenAt operations second other) : second ≤ first := by
  by_contra hlater
  obtain ⟨operation, hget, hopens⟩ := Option.bind_eq_some_iff.mp hsecond.1
  have hmem : operation ∈ operations.drop (first + 1) := by
    rw [List.mem_iff_getElem?]
    refine ⟨second - (first + 1), ?_⟩
    rw [List.getElem?_drop, Nat.add_sub_cancel' (Nat.not_le.mp hlater), hget]
  have hends := hfirst.2 operation hmem
  rw [Operation.ends_of_opens? hopens] at hends
  cases hends

theorem OpenAt.start_eq {operations : List Operation} {first second : Nat}
    {header other : Diagnostic} (hfirst : OpenAt operations first header)
    (hsecond : OpenAt operations second other) : first = second :=
  Nat.le_antisymm (hsecond.le_start hfirst) (hfirst.le_start hsecond)

theorem notesOf_append (front back : List Operation) :
    notesOf (front ++ back) = notesOf front ++ notesOf back := List.filterMap_append

theorem notesOf_singleton (operation : Operation) :
    notesOf [operation] = operation.note?.toList := by
  cases h : operation.note? <;> simp [notesOf, h]

/-- What the reader holds is the block that is open, with the notes that it has so far. -/
theorem Reader.after_eq_some_iff (before : List Operation) (record : Diagnostic) :
    Reader.after none before = some record ↔
      ∃ start header, OpenAt before start header ∧
        record = { header with notes := notesOf (before.drop (start + 1)) } := by
  induction before using List.reverseRecOn generalizing record with
  | nil => simp [Reader.after, OpenAt]
  | append_singleton before operation ih =>
    rw [Reader.after_append_singleton, Reader.operate_eq]
    cases hends : operation.ends with
    | true =>
      simp only [openAt_append_singleton, hends, ↓reduceIte, Bool.true_eq_false, and_false,
        or_false]
      constructor
      · intro hopens
        refine ⟨before.length, record, ⟨rfl, hopens⟩, ?_⟩
        simp [notesOf, ← Operation.notes_opens? hopens]
      · rintro ⟨start, header, ⟨rfl, hopens⟩, rfl⟩
        simp [notesOf, ← Operation.notes_opens? hopens, hopens]
    | false =>
      have hkeeps : ∀ start, start < before.length →
          notesOf ((before ++ [operation]).drop (start + 1)) =
            notesOf (before.drop (start + 1)) ++ operation.note?.toList := by
        intro start hlt
        rw [List.drop_append_of_le_length hlt, notesOf_append, notesOf_singleton]
      simp only [openAt_append_singleton, hends, Operation.opens?_of_not_ends hends,
        Bool.false_eq_true, ↓reduceIte, reduceCtorEq, and_false, false_or, and_true,
        Option.map_eq_some_iff, ih]
      constructor
      · rintro ⟨held, ⟨start, header, hopen, rfl⟩, rfl⟩
        exact ⟨start, header, hopen, by rw [hkeeps start hopen.start_lt]⟩
      · rintro ⟨start, header, hopen, rfl⟩
        exact ⟨_, ⟨start, header, hopen, rfl⟩, by rw [hkeeps start hopen.start_lt]⟩

theorem Reader.after_eq_none_iff (before : List Operation) :
    Reader.after none before = none ↔ ∀ start header, ¬ OpenAt before start header := by
  constructor
  · intro hnone start header hopen
    have hsome := (Reader.after_eq_some_iff before _).mpr ⟨start, header, hopen, rfl⟩
    rw [hnone] at hsome
    cases hsome
  · intro hclosed
    cases hafter : Reader.after none before with
    | none => rfl
    | some record =>
      obtain ⟨start, header, hopen, -⟩ := (Reader.after_eq_some_iff before record).mp hafter
      exact (hclosed start header hopen).elim

/-! ### The records of a run -/

theorem blockRecords_cons (operation : Operation) (rest : List Operation) :
    blockRecords (operation :: rest) =
      (blockRecord? (operation :: rest)).toList ++ blockRecords rest := by
  cases h : blockRecord? (operation :: rest) <;> simp [blockRecords, h]

theorem Reader.completed_run_cons (reader : Reader) (operation : Operation)
    (rest : List Operation) :
    (reader.run (operation :: rest)).filterMap (·.completed) =
      (reader.operate operation).1.completed.toList ++
        ((reader.operate operation).2.run rest).filterMap (·.completed) := by
  cases h : (reader.operate operation).1.completed <;> simp [run, h]

/-- From any reader on, a run that comes to the end of the lines gives back the open record, with
the notes of the lines before the next end of a block, and then the records of the blocks. -/
theorem Reader.completed_run (reader : Reader) (operations : List Operation) :
    (reader.run (operations ++ [.finish])).filterMap (·.completed) =
      (reader.map fun record ↦ { record with
        notes := record.notes ++
          notesOf (blockRest (operations ++ [.finish])) }).toList ++
      blockRecords (operations ++ [.finish]) := by
  induction operations generalizing reader with
  | nil =>
    cases reader <;>
      simp [run, operate_eq, Operation.ends, blockRecords, blockRecord?, Operation.opens?,
        blockRest, notesOf]
  | cons operation rest ih =>
    rw [List.cons_append, blockRecords_cons, completed_run_cons, ih, operate_eq]
    cases hends : operation.ends with
    | true =>
      have hrest : blockRest (operation :: (rest ++ [.finish])) = [] := by
        simp [blockRest, hends]
      cases hopens : operation.opens? with
      | none => cases reader <;> simp [blockRecord?, hopens, hrest, notesOf]
      | some header =>
        have hnotes := Operation.notes_opens? hopens
        cases reader <;> simp [blockRecord?, hopens, hrest, hnotes, notesOf]
    | false =>
      have hopens := Operation.opens?_of_not_ends hends
      have hrest : notesOf (blockRest (operation :: (rest ++ [.finish]))) =
          operation.note?.toList ++ notesOf (blockRest (rest ++ [.finish])) := by
        simp only [blockRest, List.takeWhile_cons, hends, Bool.not_false, ↓reduceIte]
        rw [← notesOf_singleton, ← notesOf_append, List.singleton_append]
      cases reader <;> simp [blockRecord?, hopens, hrest]

/-! ### The role of a line -/

theorem Operation.passes_line_iff (reader : Reader) (line : Text) :
    (Operation.line line).passes reader = true ↔ header? line = none ∧
      (reader = none ∨ (Text.allBlank line = false ∧ isIndented line = false)) := by
  simp [Operation.passes]

theorem Operation.note?_line_eq_some_iff (line note : Text) :
    (Operation.line line).note? = some note ↔ header? line = none ∧
      Text.allBlank line = false ∧ isIndented line = true ∧ Text.trimEnd line = note := by
  simp [Operation.note?, and_assoc]

/-- A line after given operations has exactly one role. -/
theorem existsUnique_role (before : List Operation) (line : Text) :
    ∃! role, HasRole before line ((Reader.after none before).operate (.line line)).1 role := by
  rw [Reader.operate_eq]
  cases hheader : header? line with
  | some header =>
    refine ⟨.header, by simp [HasRole, hheader], ?_⟩
    intro role hrole
    cases role <;>
      simp_all [HasRole, Operation.note?_line_eq_some_iff, Operation.passes_line_iff]
  | none =>
    cases hafter : Reader.after none before with
    | none =>
      have hclosed := (Reader.after_eq_none_iff before).mp hafter
      refine ⟨.passed, by simp [HasRole, Operation.passes_line_iff, hheader], ?_⟩
      intro role hrole
      cases role <;> simp_all [HasRole]
    | some record =>
      obtain ⟨start, header, hopen, -⟩ := (Reader.after_eq_some_iff before record).mp hafter
      have hsame : ∀ other, (∃ header, OpenAt before other header) → other = start := by
        rintro other ⟨header', hother⟩
        exact hother.start_eq hopen
      by_cases hblank : Text.allBlank line = true
      · refine ⟨.blank start, ⟨⟨header, hopen⟩, hheader, hblank⟩, ?_⟩
        intro role hrole
        cases role with
        | blank other => rw [hsame other hrole.1]
        | header | note | passed =>
          simp_all [HasRole, Operation.note?_line_eq_some_iff, Operation.passes_line_iff]
      rw [Bool.not_eq_true] at hblank
      by_cases hindented : isIndented line = true
      · have hnote : (Operation.line line).note? = some (Text.trimEnd line) := by
          simp [Operation.note?_line_eq_some_iff, hheader, hblank, hindented]
        refine ⟨.note start, ⟨⟨header, hopen⟩, hnote⟩, ?_⟩
        intro role hrole
        cases role with
        | note other => rw [hsame other hrole.1]
        | header | blank | passed => simp_all [HasRole, Operation.passes_line_iff]
      · rw [Bool.not_eq_true] at hindented
        refine ⟨.passed, ?_, ?_⟩
        · simp [HasRole, Operation.passes_line_iff, hheader, hblank, hindented]
        · intro role hrole
          cases role <;> simp_all [HasRole, Operation.note?_line_eq_some_iff]

/-- A run that comes to the end of the lines is the grammar of blocks: all in all it gives back the
record of each header line, in order; a record is given back by the operation that ends its block
and by no other; a line is passed through that is no header and is outside every block or, being
neither blank nor indented, ends one; and each line has exactly one role. -/
theorem run_eq_blocks (operations : List Operation) :
    (Reader.run none (operations ++ [.finish])).filterMap (·.completed) =
      blockRecords (operations ++ [.finish]) ∧
    (Reader.run none (operations ++ [.finish])).length = operations.length + 1 ∧
    ∀ before operation rest, operations ++ [.finish] = before ++ operation :: rest →
      ∃ feed, (Reader.run none (operations ++ [.finish]))[before.length]? = some feed ∧
        (∀ record, feed.completed = some record ↔
          operation.ends = true ∧ ∃ start header, OpenAt before start header ∧
            record = { header with notes := notesOf (before.drop (start + 1)) }) ∧
        (feed.passthrough = true ↔ ∃ line, operation = .line line ∧ header? line = none ∧
          ((∀ start header, ¬ OpenAt before start header) ∨
            (Text.allBlank line = false ∧ isIndented line = false))) ∧
        ∀ line, operation = .line line → ∃! role, HasRole before line feed role := by
  refine ⟨?_, by simp, ?_⟩
  · simpa using Reader.completed_run none operations
  · intro before operation rest hcut
    refine ⟨((Reader.after none before).operate operation).1, ?_, ?_, ?_, ?_⟩
    · rw [hcut]
      exact Reader.getElem?_run_append none before operation rest
    · intro record
      rw [Reader.operate_eq, ← Reader.after_eq_some_iff]
      cases operation.ends <;> simp
    · rw [Reader.operate_eq, ← Reader.after_eq_none_iff]
      cases operation with
      | finish => simp [Operation.passes]
      | line text => simp [Operation.passes_line_iff]
    · rintro line rfl
      exact existsUnique_role before line

/-- A line that both ends the second block and is passed through. -/
theorem run_eq_blocks_summary_line :
    [.line "[WARNING] a".toList, .line "  b".toList, .line "✘ [ERROR] c".toList,
        .line "1 error".toList] ++ [.finish] =
      [.line "[WARNING] a".toList, .line "  b".toList, .line "✘ [ERROR] c".toList] ++
        Operation.line "1 error".toList :: [.finish] ∧
    ∃ feed, (Reader.run none ([.line "[WARNING] a".toList, .line "  b".toList,
        .line "✘ [ERROR] c".toList, .line "1 error".toList] ++ [.finish]))[3]? = some feed ∧
      feed.completed = some ⟨.error, "c".toList, []⟩ ∧ feed.passthrough = true := by
  obtain ⟨feed, hget, hcompleted, hpassthrough, -⟩ :=
    (run_eq_blocks [.line "[WARNING] a".toList, .line "  b".toList, .line "✘ [ERROR] c".toList,
      .line "1 error".toList]).2.2
      [.line "[WARNING] a".toList, .line "  b".toList, .line "✘ [ERROR] c".toList]
      (.line "1 error".toList) [.finish] rfl
  refine ⟨rfl, feed, hget, ?_, ?_⟩
  · exact (hcompleted _).mpr
      ⟨by decide, 2, ⟨.error, "c".toList, []⟩, ⟨by decide, by decide⟩, by decide⟩
  · exact hpassthrough.mpr
      ⟨"1 error".toList, rfl, by decide, Or.inr ⟨by decide, by decide⟩⟩

end ScriptEmbed.Diagnostic
