import ScriptEmbed.Proofs.Diagnostic.Blocks
import ScriptEmbed.Proofs.Diagnostic.Markers

/-!
Which records reading can give back, and how each of them is written so that it does. A record that
was read is well formed: a header line trims its message, and a note is kept only if it is indented,
not blank and no header line, without the blanks at its end. One operation keeps the open record so
(`wellFormed_operate`), hence every record of a run is (`wellFormed_of_run`).

Conversely a well-formed record is written as a header line of its own, whatever its message holds
(`header?_headerLine`), and its notes, with blank lines among them. None of these lines ends the
block that the header line opens, and the next header line or the end of the lines does, so the
blocks of what was written are the records (`blockRecords_printed`).
-/

set_option autoImplicit false
set_option relaxedAutoImplicit false

namespace ScriptEmbed.Diagnostic

/-! ### Well-formed records -/

/-- A line that is kept as a note just as it is. -/
structure IsNote (note : Text) : Prop where
  visible : Text.allBlank note = false
  indented : isIndented note = true
  trimmed : Text.EndTrimmed note
  plain : header? note = none

structure WellFormed (record : Diagnostic) : Prop where
  message : Text.Trimmed record.message
  notes : ∀ note ∈ record.notes, IsNote note

theorem wellFormed_of_header? {line : Text} {record : Diagnostic}
    (h : header? line = some record) : record.WellFormed := by
  obtain ⟨severity, before, after, -, rfl⟩ := header?_eq_some_iff.mp h
  exact ⟨Text.trimmed_trim after, fun note hnote ↦ absurd hnote List.not_mem_nil⟩

/-- Blanks at the end of a line do not matter to whether it is a header line. -/
theorem header?_trimEnd_eq_none {line : Text} (h : header? line = none) :
    header? (Text.trimEnd line) = none := by
  obtain ⟨back, -, hline⟩ := Text.exists_trimEnd line
  rw [header?_eq_none_iff] at h ⊢
  intro severity before after hmarked
  refine h severity before (after ++ back) ⟨?_, hmarked.short⟩
  calc line = Text.trimEnd line ++ back := hline
    _ = before ++ (severity.marker ++ (after ++ back)) := by
      rw [hmarked.line_eq]
      simp

theorem isNote_trimEnd {line : Text} (hheader : header? line = none)
    (hvisible : Text.allBlank line = false) (hindented : isIndented line = true) :
    IsNote (Text.trimEnd line) := by
  obtain ⟨back, hback, hline⟩ := Text.exists_trimEnd line
  have hkept : Text.allBlank (Text.trimEnd line) = false := by
    have hparts : Text.allBlank (Text.trimEnd line ++ back) =
        (Text.allBlank (Text.trimEnd line) && Text.allBlank back) := List.all_append
    rw [← hline, hvisible, hback, Bool.and_true] at hparts
    exact hparts.symm
  refine ⟨hkept, ?_, Text.endTrimmed_trimEnd line, header?_trimEnd_eq_none hheader⟩
  cases hbody : Text.trimEnd line with
  | nil => simp [hbody, Text.allBlank] at hkept
  | cons c rest =>
    rw [hline, hbody] at hindented
    exact hindented

theorem isNote_of_note? {operation : Operation} {note : Text} (h : operation.note? = some note) :
    IsNote note := by
  cases operation with
  | finish => cases h
  | line line =>
    obtain ⟨hheader, hvisible, hindented, rfl⟩ := (Operation.note?_line_eq_some_iff line note).mp h
    exact isNote_trimEnd hheader hvisible hindented

/-- That the open record is well formed, if there is one. -/
def Reader.HoldsWellFormed (reader : Reader) : Prop := ∀ record ∈ reader, WellFormed record

theorem wellFormed_operate {reader : Reader} (hreader : reader.HoldsWellFormed)
    (operation : Operation) :
    (∀ record ∈ (reader.operate operation).1.completed, WellFormed record) ∧
      Reader.HoldsWellFormed (reader.operate operation).2 := by
  rw [Reader.operate_eq]
  cases hends : operation.ends with
  | true =>
    -- the open record is given back, and another one opens only at a header line
    refine ⟨hreader, ?_⟩
    intro record hrecord
    cases operation with
    | line line => exact wellFormed_of_header? hrecord
    | finish => cases hrecord
  | false =>
    refine ⟨fun record hrecord ↦ absurd hrecord (Option.not_mem_none record), ?_⟩
    intro record hrecord
    obtain ⟨held, hheld, rfl⟩ := Option.map_eq_some_iff.mp hrecord
    have hwell := hreader held hheld
    refine ⟨hwell.message, ?_⟩
    intro note hnote
    rcases List.mem_append.mp hnote with hold | hnew
    · exact hwell.notes note hold
    · exact isNote_of_note? (Option.mem_toList.mp hnew)

theorem wellFormed_of_run {reader : Reader} (hreader : reader.HoldsWellFormed)
    (operations : List Operation) {feed : Feed} (hfeed : feed ∈ reader.run operations)
    {record : Diagnostic} (hrecord : feed.completed = some record) : record.WellFormed := by
  induction operations generalizing reader with
  | nil => cases hfeed
  | cons operation rest ih =>
    obtain ⟨hcompleted, hnext⟩ := wellFormed_operate hreader operation
    rcases List.mem_cons.mp hfeed with rfl | hrest
    · exact hcompleted record hrecord
    · exact ih hnext hrest

/-! ### Written records -/

/-- Lines that are some notes in their order, with any number of blank lines among them. -/
inductive Spaced : List Text → List Text → Prop
  | nil : Spaced [] []
  | blank {notes lines : List Text} {line : Text} (blank : Text.allBlank line = true)
    (rest : Spaced notes lines) : Spaced notes (line :: lines)
  | note {notes lines : List Text} {note : Text} (rest : Spaced notes lines) :
    Spaced (note :: notes) (note :: lines)

theorem spaced_self (notes : List Text) : Spaced notes notes := by
  induction notes with
  | nil => exact .nil
  | cons note notes ih => exact .note ih

/-- The header line of a record, with a glyph in front of its marker. -/
def headerLine (glyph : Char) (record : Diagnostic) : Text :=
  glyph :: ' ' :: (record.severity.marker ++ ' ' :: record.message)

/-- A well-formed record and a way to write it. -/
structure Printed where
  glyph : Char
  record : Diagnostic
  body : List Text
  glyph_visible : Text.isBlank glyph = false
  wellFormed : record.WellFormed
  spaced : Spaced record.notes body

def Printed.operations (printed : Printed) : List Operation :=
  .line (headerLine printed.glyph printed.record) :: printed.body.map .line

/-- All lines of some written records, and then the end of the lines. -/
def printedOperations (printed : List Printed) : List Operation :=
  printed.flatMap Printed.operations ++ [.finish]

theorem header?_headerLine {glyph : Char} {record : Diagnostic}
    (hglyph : Text.isBlank glyph = false) (hrecord : record.WellFormed) :
    header? (headerLine glyph record) = some { record with notes := [] } := by
  have hglyphs : Text.Trimmed [glyph] := by
    constructor <;> simpa [Text.EndTrimmed] using hglyph
  have hnothing : Text.allBlank [] = true := rfl
  have hspace : Text.allBlank [' '] = true := by decide
  have hshort : Text.trim [glyph, ' '] = [glyph] := Text.trim_surrounded hnothing hglyphs hspace
  have hmessage : Text.trim (' ' :: record.message) = record.message := by
    have htrim := Text.trim_surrounded hspace hrecord.message hnothing
    rwa [List.append_nil] at htrim
  refine header?_eq_some_iff.mpr ⟨record.severity, [glyph, ' '], ' ' :: record.message,
    ⟨rfl, ?_⟩, ?_⟩
  · rw [hshort, List.length_singleton]
  · rw [hmessage]

theorem header?_of_allBlank {line : Text} (h : Text.allBlank line = true) :
    header? line = none := by
  rw [header?_eq_none_iff]
  intro severity before after hmarked
  obtain ⟨rest, hmarker⟩ := exists_marker_eq severity
  have hbracket : '[' ∈ line := by
    rw [hmarked.line_eq, hmarker]
    simp
  exact absurd (Text.isBlank_of_mem h hbracket) (by decide)

/-! ### The blocks of written records -/

theorem ends_of_allBlank {line : Text} (h : Text.allBlank line = true) :
    (Operation.line line).ends = false := by
  simp [Operation.ends, header?_of_allBlank h, h]

theorem note?_of_allBlank {line : Text} (h : Text.allBlank line = true) :
    (Operation.line line).note? = none := by
  simp [Operation.note?, h]

theorem IsNote.ends {note : Text} (h : IsNote note) : (Operation.line note).ends = false := by
  simp [Operation.ends, h.plain, h.indented]

theorem IsNote.note? {note : Text} (h : IsNote note) :
    (Operation.line note).note? = some note :=
  (Operation.note?_line_eq_some_iff note note).mpr
    ⟨h.plain, h.visible, h.indented, Text.trimEnd_eq_self h.trimmed⟩

theorem Spaced.not_ends {notes body : List Text} (h : Spaced notes body)
    (hnotes : ∀ note ∈ notes, IsNote note) :
    ∀ operation ∈ body.map Operation.line, operation.ends = false := by
  induction h with
  | nil => simp
  | blank hblank _ ih => exact List.forall_mem_cons.mpr ⟨ends_of_allBlank hblank, ih hnotes⟩
  | note _ ih =>
    obtain ⟨hnote, hrest⟩ := List.forall_mem_cons.mp hnotes
    exact List.forall_mem_cons.mpr ⟨hnote.ends, ih hrest⟩

theorem Spaced.notesOf {notes body : List Text} (h : Spaced notes body)
    (hnotes : ∀ note ∈ notes, IsNote note) : notesOf (body.map Operation.line) = notes := by
  induction h with
  | nil => rfl
  | blank hblank _ ih =>
    rw [List.map_cons, Diagnostic.notesOf, List.filterMap_cons_none (note?_of_allBlank hblank)]
    exact ih hnotes
  | note _ ih =>
    obtain ⟨hnote, hrest⟩ := List.forall_mem_cons.mp hnotes
    rw [List.map_cons, Diagnostic.notesOf, List.filterMap_cons_some hnote.note?]
    exact congrArg _ (ih hrest)

theorem Printed.opens? (printed : Printed) :
    (Operation.line (headerLine printed.glyph printed.record)).opens? =
      some { printed.record with notes := [] } :=
  header?_headerLine printed.glyph_visible printed.wellFormed

theorem printedOperations_cons (first : Printed) (printed : List Printed) :
    printedOperations (first :: printed) =
      .line (headerLine first.glyph first.record) ::
        (first.body.map Operation.line ++ printedOperations printed) := by
  simp [printedOperations, Printed.operations]

/-- A block lasts to the next header line that was written or to the end of the lines. -/
theorem blockRest_printed {block : List Operation}
    (h : ∀ operation ∈ block, operation.ends = false) (printed : List Printed) :
    blockRest (block ++ printedOperations printed) = block := by
  have hkept : ∀ operation ∈ block, (!operation.ends) = true := by
    intro operation hoperation
    rw [h operation hoperation, Bool.not_false]
  have hnext : (printedOperations printed).takeWhile (!·.ends) = [] := by
    cases printed with
    | nil => rfl
    | cons first printed =>
      rw [printedOperations_cons, List.takeWhile_cons_of_neg]
      simp [Operation.ends_of_opens? first.opens?]
  rw [blockRest, List.takeWhile_append_of_pos hkept, hnext, List.append_nil]

theorem blockRecords_append {block : List Operation}
    (h : ∀ operation ∈ block, operation.ends = false) (rest : List Operation) :
    blockRecords (block ++ rest) = blockRecords rest := by
  induction block with
  | nil => rfl
  | cons operation block ih =>
    obtain ⟨hfirst, hrest⟩ := List.forall_mem_cons.mp h
    rw [List.cons_append, blockRecords_cons, ih hrest]
    simp [blockRecord?, Operation.opens?_of_not_ends hfirst]

theorem blockRecords_printed (printed : List Printed) :
    blockRecords (printedOperations printed) = printed.map (·.record) := by
  induction printed with
  | nil => rfl
  | cons first printed ih =>
    have hends := first.spaced.not_ends first.wellFormed.notes
    have hrecord : blockRecord? (printedOperations (first :: printed)) = some first.record := by
      rw [printedOperations_cons, blockRecord?, blockRest_printed hends, first.opens?,
        first.spaced.notesOf first.wellFormed.notes]
      rfl
    calc blockRecords (printedOperations (first :: printed))
        = (blockRecord? (printedOperations (first :: printed))).toList ++
            blockRecords (first.body.map Operation.line ++ printedOperations printed) := by
          rw [printedOperations_cons, blockRecords_cons]
      _ = first.record :: printed.map (·.record) := by
          rw [hrecord, blockRecords_append hends, ih]
          rfl

/-! ### No written line is passed through -/

/-- That a run passes nothing through. -/
def Reader.Quiet (reader : Reader) (operations : List Operation) : Prop :=
  ∀ feed ∈ reader.run operations, feed.passthrough = false

theorem quiet_cons {reader : Reader} {operation : Operation} {rest : List Operation}
    (hfirst : operation.passes reader = false)
    (hrest : Reader.Quiet (reader.operate operation).2 rest) :
    reader.Quiet (operation :: rest) := by
  refine List.forall_mem_cons.mpr ⟨?_, hrest⟩
  rw [Reader.operate_eq]
  exact hfirst

theorem passes_of_not_ends {operation : Operation} (h : operation.ends = false)
    (record : Diagnostic) : operation.passes (some record) = false := by
  cases operation with
  | finish => rfl
  | line line =>
    rw [Operation.ends, Bool.or_eq_false_iff] at h
    simp [Operation.passes, h.2]

/-- While a record is open, the lines that do not end its block are quiet. -/
theorem quiet_append {block rest : List Operation}
    (h : ∀ operation ∈ block, operation.ends = false)
    (hrest : ∀ record, Reader.Quiet (some record) rest) (record : Diagnostic) :
    Reader.Quiet (some record) (block ++ rest) := by
  induction block generalizing record with
  | nil => exact hrest record
  | cons operation block ih =>
    obtain ⟨hfirst, hblock⟩ := List.forall_mem_cons.mp h
    refine quiet_cons (passes_of_not_ends hfirst record) ?_
    rw [Reader.operate_eq, hfirst]
    exact ih hblock _

theorem quiet_printed (reader : Reader) (printed : List Printed) :
    reader.Quiet (printedOperations printed) := by
  induction printed generalizing reader with
  | nil =>
    intro feed hfeed
    rw [List.mem_singleton.mp hfeed]
    rfl
  | cons first printed ih =>
    rw [printedOperations_cons]
    have hopens := first.opens?
    refine quiet_cons ?_ ?_
    · have hheader : header? (headerLine first.glyph first.record) = _ := hopens
      simp [Operation.passes, hheader]
    · rw [Reader.operate_eq, Operation.ends_of_opens? hopens, hopens]
      exact quiet_append (first.spaced.not_ends first.wellFormed.notes) (fun _ ↦ ih _) _

/-! ### Reading what was written -/

theorem completed_printed (printed : List Printed) :
    (Reader.run none (printedOperations printed)).filterMap (·.completed) =
      printed.map (·.record) := by
  rw [← blockRecords_printed, printedOperations, Reader.completed_run]
  rfl

/-- Reading gives back the well-formed records and no others, and the records of any list of them
that was written come back as they are, in their order, with nothing passed through. -/
theorem read_printed :
    (∀ record, (∃ operations, ∃ feed ∈ Reader.run none operations,
      feed.completed = some record) ↔ record.WellFormed) ∧
    ∀ printed : List Printed,
      (Reader.run none (printedOperations printed)).filterMap (·.completed) =
        printed.map (·.record) ∧
      ∀ feed ∈ Reader.run none (printedOperations printed), feed.passthrough = false := by
  refine ⟨?_, fun printed ↦ ⟨completed_printed printed, quiet_printed none printed⟩⟩
  intro record
  constructor
  · rintro ⟨operations, feed, hfeed, hrecord⟩
    have hclosed : Reader.HoldsWellFormed none :=
      fun held hheld ↦ absurd hheld (Option.not_mem_none held)
    exact wellFormed_of_run hclosed operations hfeed hrecord
  · intro hrecord
    let printed : Printed :=
      ⟨'✘', record, record.notes, by decide, hrecord, spaced_self record.notes⟩
    have hmem :
        record ∈ (Reader.run none (printedOperations [printed])).filterMap (·.completed) := by
      rw [completed_printed]
      exact List.mem_singleton_self record
    obtain ⟨feed, hfeed, hcompleted⟩ := List.mem_filterMap.mp hmem
    exact ⟨printedOperations [printed], feed, hfeed, hcompleted⟩

/-- Messages, notes and glyphs that look like markers. -/
theorem read_printed_markers :
    (Reader.run none [.line "[ [ERROR] a [WARNING] b [ERROR]".toList, .line [],
        .line "  at c [ERROR]".toList, .line " \t".toList, .line "E [WARNING] [ERROR]".toList,
        .finish]).filterMap (·.completed) =
      [⟨.error, "a [WARNING] b [ERROR]".toList, ["  at c [ERROR]".toList]⟩,
        ⟨.warning, "[ERROR]".toList, []⟩] := by
  have hnote : IsNote "  at c [ERROR]".toList :=
    @isNote_trimEnd "  at c [ERROR]".toList (by decide) (by decide) (by decide)
  have hfirst : WellFormed ⟨.error, "a [WARNING] b [ERROR]".toList, ["  at c [ERROR]".toList]⟩ :=
    ⟨Text.trimmed_trim "a [WARNING] b [ERROR]".toList, List.forall_mem_singleton.mpr hnote⟩
  have hsecond : WellFormed ⟨.warning, "[ERROR]".toList, []⟩ :=
    ⟨Text.trimmed_trim "[ERROR]".toList, List.forall_mem_nil _⟩
  exact (read_printed.2
    [⟨'[', _, [[], "  at c [ERROR]".toList, " \t".toList], by decide, hfirst,
        .blank (by decide) (.note (.blank (by decide) .nil))⟩,
      ⟨'E', _, [], by decide, hsecond, .nil⟩]).1

end ScriptEmbed.Diagnostic
