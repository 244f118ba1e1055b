import ScriptEmbed.Diagnostic.Stream
import ScriptEmbed.Proofs.Diagnostic.Blocks
import ScriptEmbed.Proofs.Octets.Newlines

/-!
What an engine's standard error sends out, read off the stream as a whole. `offlineLines` reads all
octets at once and cuts the text afterwards; the lines that come of it are those of the stream
(`map_decodeLine_lines`), by induction on its lines. Of these lines the records are the blocks of
the grammar (`records_relayLines`), and a line is passed on if no block is open before it or if it
ends one itself (`lines_relayLines`); `blockOpen` says without a reader which of the two it is.
-/

set_option autoImplicit false
set_option relaxedAutoImplicit false

namespace ScriptEmbed.Diagnostic

/-! ### The lines of a whole stream -/

/-- The lines of a stream that is read at once, without the newlines and carriage returns at their
ends. -/
def offlineLines (stream : Octets) : List Text :=
  (Text.lines stream.toTextLossy).map (Text.dropEndWhile isLineEnd)

theorem decodeLine_append_newline (body : Octets) :
    decodeLine (body ++ [Octets.newline]) = Text.dropEndWhile isLineEnd body.toTextLossy := by
  have hnothing : Octets.toTextLossy [] = [] := rfl
  have hnewline : isLineEnd '\n' = true := rfl
  rw [decodeLine, Octets.toTextLossy_append_newline, hnothing,
    Text.dropEndWhile_append_singleton, if_pos hnewline]

/-- Reading each line on its own comes to the same as reading the whole stream. -/
theorem map_decodeLine_lines (stream : Octets) :
    stream.lines.map decodeLine = offlineLines stream := by
  induction stream using Octets.induction_on_lines with
  | last body hbody =>
    rw [offlineLines, Octets.lines_of_newline_notMem hbody,
      Text.lines_of_newline_notMem (Octets.newline_notMem_toTextLossy hbody)]
    by_cases hempty : body = []
    · simp [hempty, Octets.toTextLossy_eq_nil_iff]
    · simp [hempty, Octets.toTextLossy_eq_nil_iff, decodeLine]
  | line body rest hbody ih =>
    rw [offlineLines, Octets.toTextLossy_append_newline,
      Text.lines_append_newline (Octets.newline_notMem_toTextLossy hbody),
      Octets.lines_append_newline hbody, List.map_cons, List.map_cons, ih,
      decodeLine_append_newline, offlineLines]

/-! ### The lines that are passed on -/

/-- Whether a block is open after some operations: the last of them that ends a block opens
another. -/
def blockOpen (operations : List Operation) : Bool :=
  ((operations.reverse.find? (·.ends)).bind (·.opens?)).isSome

/-- Whether a line after some operations is passed on: it is no header line and either no block is
open or the line, being neither blank nor indented, ends it. -/
def isPassed (before : List Operation) (line : Text) : Bool :=
  (header? line).isNone && (!blockOpen before || (!Text.allBlank line && !isIndented line))

def passedAfter (before : List Operation) : List Text → List Text
  | [] => []
  | line :: rest =>
    (if isPassed before line then [line] else []) ++ passedAfter (before ++ [.line line]) rest

/-- Those of a sequence of lines that are passed on. -/
def passedLines (lines : List Text) : List Text := passedAfter [] lines

theorem blockOpen_eq (operations : List Operation) :
    blockOpen operations = (Reader.after none operations).isSome := by
  induction operations using List.reverseRecOn with
  | nil => rfl
  | append_singleton before operation ih =>
    rw [Reader.after_append_singleton, Reader.operate_eq, blockOpen, List.reverse_concat,
      List.find?_cons]
    cases hends : operation.ends with
    | true => simp
    | false =>
      rw [blockOpen] at ih
      simpa using ih

theorem isPassed_eq_passes (before : List Operation) (line : Text) :
    isPassed before line = (Operation.line line).passes (Reader.after none before) := by
  rw [isPassed, blockOpen_eq, Operation.passes, Option.not_isSome]

theorem isPassed_eq (before : List Operation) (line : Text) :
    isPassed before line = ((Reader.after none before).feed line).1.passthrough := by
  rw [isPassed_eq_passes]
  exact (congrArg (·.1.passthrough)
    (Reader.operate_eq (Reader.after none before) (.line line))).symm

/-! ### What is sent out -/

/-- What lines send out from a reader on, the record still open at the end included. -/
def relayFrom (reader : Reader) : List Text → List Relay
  | [] => (reader.map Relay.reported).toList
  | line :: rest => (reader.feed line).1.relays line ++ relayFrom (reader.feed line).2 rest

theorem relayLines_eq_relayFrom (lines : List Text) : relayLines lines = relayFrom none lines := by
  have hfold : ∀ (reader : Reader) (sent : List Relay),
      (lines.foldl relayLine (reader, sent)).2.reverse ++
        ((lines.foldl relayLine (reader, sent)).1.map Relay.reported).toList =
      sent.reverse ++ relayFrom reader lines := by
    induction lines with
    | nil =>
      intro reader sent
      rfl
    | cons line rest ih =>
      intro reader sent
      rw [List.foldl_cons, relayLine, ih, relayFrom, List.reverse_append, List.reverse_reverse,
        List.append_assoc]
  exact hfold none []

@[simp] theorem records_relays (feed : Feed) (line : Text) :
    (feed.relays line).filterMap Relay.record? = feed.completed.toList := by
  cases feed with
  | mk completed passthrough =>
    cases completed <;> cases passthrough <;> rfl

@[simp] theorem lines_relays (feed : Feed) (line : Text) :
    (feed.relays line).filterMap Relay.line? = if feed.passthrough then [line] else [] := by
  cases feed with
  | mk completed passthrough =>
    cases completed <;> cases passthrough <;> rfl

theorem records_relayFrom (reader : Reader) (lines : List Text) :
    (relayFrom reader lines).filterMap Relay.record? =
      (reader.run (lines.map .line ++ [.finish])).filterMap (·.completed) := by
  induction lines generalizing reader with
  | nil => cases reader <;> rfl
  | cons line rest ih =>
    rw [relayFrom, List.filterMap_append, records_relays, ih, List.map_cons, List.cons_append,
      Reader.completed_run_cons]
    rfl

theorem lines_relayFrom (before : List Operation) (lines : List Text) :
    (relayFrom (Reader.after none before) lines).filterMap Relay.line? =
      passedAfter before lines := by
  induction lines generalizing before with
  | nil => cases h : Reader.after none before <;> rfl
  | cons line rest ih =>
    have hnext : ((Reader.after none before).feed line).2 =
        Reader.after none (before ++ [.line line]) :=
      (Reader.after_append_singleton none before (.line line)).symm
    rw [relayFrom, List.filterMap_append, lines_relays, hnext, ih, passedAfter, isPassed_eq]

/-- The records that are sent out are those of the blocks of the lines. -/
theorem records_relayLines (lines : List Text) :
    (relayLines lines).filterMap Relay.record? = blockRecords (lines.map .line ++ [.finish]) := by
  rw [relayLines_eq_relayFrom, records_relayFrom, Reader.completed_run]
  simp

theorem lines_relayLines (lines : List Text) :
    (relayLines lines).filterMap Relay.line? = passedLines lines := by
  rw [relayLines_eq_relayFrom]
  exact lines_relayFrom [] lines

end ScriptEmbed.Diagnostic
