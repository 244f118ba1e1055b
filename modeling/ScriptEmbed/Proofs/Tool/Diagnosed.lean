import ScriptEmbed.Proofs.Diagnostic.Headers
import ScriptEmbed.Proofs.Diagnostic.Offline
import ScriptEmbed.Tool.Machine

/-!
What comes of a program whose standard error is read for records while it runs. Its result counts
as many errors and warnings as there are header lines of them. The reading takes one line at a time,
each decoded on its own; what it shows and gives back is nevertheless what the grammar of blocks
finds in the whole stream, decoded at once and cut into lines afterwards.
-/

set_option autoImplicit false
set_option relaxedAutoImplicit false

namespace ScriptEmbed.Tool

open Files Diagnostic

/-! ### Starting a program -/

section

variable {machine : Machine} {command : Command} {session : Session}
variable {directory : Place} {deed : Deed}

theorem result_launch_of_located
    (h : locate machine session.files command = .ok (directory, deed)) :
    (launch machine command).result session =
      (.ok (directory, deed),
        session.noting [.started command.program command.args directory]) := by
  have hlocate := Action.result_orFail (locate machine session.files command) session
  rw [h] at hlocate
  unfold launch
  rw [Action.result_bind_of_ok (Action.result_get session), h, Action.result_bind_of_ok hlocate]
  rfl

theorem result_launch_of_unlocated {cause : FileError}
    (h : locate machine session.files command = .error cause) :
    (launch machine command).result session = (.error cause, session) := by
  have hlocate := Action.result_orFail (locate machine session.files command) session
  rw [h] at hlocate
  unfold launch
  rw [Action.result_bind_of_ok (Action.result_get session), h, Action.result_bind_of_error hlocate]

theorem result_spawn_of_located
    (h : locate machine session.files command = .ok (directory, deed)) :
    (spawn machine command).result session =
      (.ok deed.conduct,
        { session.noting [.started command.program command.args directory] with
          files := deed.apply directory session.files }) := by
  refine Action.result_blame_of_ok ?_
  unfold start
  rw [Action.result_bind_of_ok (result_launch_of_located h)]
  rfl

theorem result_spawn_of_unlocated {cause : FileError}
    (h : locate machine session.files command = .error cause) :
    ∃ chain, (spawn machine command).result session = (.error chain, session) := by
  have hstart : (start machine command).result session = (.error cause, session) := by
    unfold start
    rw [Action.result_bind_of_error (result_launch_of_unlocated h)]
  exact ⟨_, Action.result_blame_of_error hstart⟩

end

/-! ### The result by its header lines -/

/-- The lines of a program's standard error, each decoded on its own and without its ending. -/
def stderrLines (conduct : Conduct) : List Text := conduct.stderr.lines.map decodeLine

theorem records_resultOf (conduct : Conduct) :
    (resultOf conduct).diagnostics =
      blockRecords ((stderrLines conduct).map .line ++ [.finish]) :=
  records_relayLines (stderrLines conduct)

theorem length_errors_resultOf (conduct : Conduct) :
    (resultOf conduct).errors.length = headerCount .error (stderrLines conduct) := by
  rw [ToolResult.errors, ← List.countP_eq_length_filter, records_resultOf]
  exact countP_blockRecords .error _

theorem length_warnings_resultOf (conduct : Conduct) :
    (resultOf conduct).warnings.length = headerCount .warning (stderrLines conduct) := by
  have hwarning : (fun record : Diagnostic ↦ !record.isError) = (·.severity == .warning) := by
    funext record
    cases h : record.severity <;> simp [Diagnostic.isError, h]
  rw [ToolResult.warnings, hwarning, ← List.countP_eq_length_filter, records_resultOf]
  exact countP_blockRecords .warning _

theorem length_records_resultOf (conduct : Conduct) :
    (resultOf conduct).diagnostics.length =
      headerCount .error (stderrLines conduct) + headerCount .warning (stderrLines conduct) := by
  rw [← length_errors_resultOf, ← length_warnings_resultOf, ToolResult.errors,
    ToolResult.warnings, ← List.countP_eq_length_filter, ← List.countP_eq_length_filter]
  simpa using List.length_eq_countP_add_countP Diagnostic.isError

/-! ### The whole stream -/

theorem stderrLines_eq_offlineLines (conduct : Conduct) :
    stderrLines conduct = offlineLines conduct.stderr := map_decodeLine_lines conduct.stderr

/-- What a reader of the whole stream is fed: its lines, and then their end. -/
def offlineOperations (stream : Octets) : List Operation :=
  (offlineLines stream).map .line ++ [.finish]

theorem records_relay (stream : Octets) :
    (relay stream).filterMap Relay.record? = blockRecords (offlineOperations stream) := by
  rw [relay, records_relayLines, map_decodeLine_lines, offlineOperations]

theorem lines_relay (stream : Octets) :
    (relay stream).filterMap Relay.line? = passedLines (offlineLines stream) := by
  rw [relay, lines_relayLines, map_decodeLine_lines]

theorem stderr_echoes (color : Bool) (shown : List Relay) :
    (shown.filter (·.line?.isSome)).flatMap (·.event.stderr color) =
      Octets.ofText (Text.terminated (shown.filterMap Relay.line?)) := by
  induction shown with
  | nil => rfl
  | cons sent shown ih =>
    cases sent with
    | reported record => exact ih
    | echoed line =>
      change Octets.ofText (line ++ ['\n']) ++
        (shown.filter (·.line?.isSome)).flatMap (·.event.stderr color) =
          Octets.ofText (Text.terminated (line :: shown.filterMap Relay.line?))
      rw [ih, Text.terminated_cons]
      simp [Octets.ofText]

variable {machine : Machine} {command : Command} {session spawned : Session} {conduct : Conduct}

theorem result_runDiagnosed
    (hspawn : (spawn machine command).result session = (.ok conduct, spawned)) :
    (runDiagnosed machine command).result session =
      (.ok (resultOf conduct),
        (spawned.noting [.shared .stdout conduct.stdout]).noting
          ((relay conduct.stderr).map Relay.event)) := by
  unfold runDiagnosed
  rw [Action.result_bind_of_ok hspawn, Action.result_bind_of_ok (Action.result_happen _ _),
    Action.result_bind_of_ok (Action.result_happen _ _), Action.result_pure]

theorem stderr_runDiagnosed
    (hspawn : (spawn machine command).result session = (.ok conduct, spawned)) (color : Bool) :
    ((runDiagnosed machine command).result session).2.stderr color =
      spawned.stderr color ++ ((relay conduct.stderr).map Relay.event).flatMap (·.stderr color) := by
  have hshared : [Event.shared .stdout conduct.stdout].flatMap (Event.stderr color) = [] := rfl
  rw [result_runDiagnosed hspawn, Session.stderr_noting, Session.stderr_noting, hshared,
    List.append_nil]

end ScriptEmbed.Tool
