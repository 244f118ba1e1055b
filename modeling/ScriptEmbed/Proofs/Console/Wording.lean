import ScriptEmbed.Proofs.Octets.Encoding
import ScriptEmbed.Session

/-!
The words of the console, spelled out. What a run shows of its own is written here as it is read on
a terminal, with the controls of its colours or without them: a tag and what follows it on its line
(`line_eq_spelled`), what an engine's standard error is turned into (`stderr_relays`), and why a run
has failed (`failureLine_eq_spelled`). Statements about the streams of a run are made in these words,
so they say which octets are shown and not only that something was.
-/

set_option autoImplicit false
set_option relaxedAutoImplicit false

namespace ScriptEmbed

namespace Console

def Tag.spelled : Bool → Tag → Text
  | false, .build => "[BUILD]".toList
  | false, .info => "[INFO]".toList
  | false, .warn => "[WARN]".toList
  | false, .error => "[ERROR]".toList
  | false, .done => "[DONE]".toList
  | true, .build => "\x1b[1;32m[BUILD]\x1b[0m".toList
  | true, .info => "\x1b[36m[INFO]\x1b[0m".toList
  | true, .warn => "\x1b[33m[WARN]\x1b[0m".toList
  | true, .error => "\x1b[1;31m[ERROR]\x1b[0m".toList
  | true, .done => "\x1b[1;32m[DONE]\x1b[0m".toList

theorem line_eq_spelled (color : Bool) (tag : Tag) (message : Text) :
    line color tag message = tag.spelled color ++ " ".toList ++ message ++ "\n".toList := by
  have htag : tag.text color = tag.spelled color := by
    cases color <;> cases tag <;> rfl
  rw [line, htag]
  simp

end Console

/-! ### What is shown between two sessions -/

/-- From one session to a later one, these octets have been added to the two streams. -/
structure Session.Shows (session : Session) (out err : Bool → Octets) (after : Session) : Prop where
  stdout_eq : ∀ color, after.stdout color = session.stdout color ++ out color
  stderr_eq : ∀ color, after.stderr color = session.stderr color ++ err color

/-- The tag of the severity and the message on one line, and each note on a line of its own, two
columns in. -/
def Diagnostic.spelled (color : Bool) (record : Diagnostic) : Text :=
  (match record.severity with
    | .warning => Console.Tag.warn.spelled color
    | .error => Console.Tag.error.spelled color) ++
    " ".toList ++ record.message ++ "\n".toList ++
    record.notes.flatMap fun note ↦ "  ".toList ++ note ++ "\n".toList

theorem report_eq_spelled (color : Bool) (record : Diagnostic) :
    Console.report color record = record.spelled color := by
  rw [Console.report, Console.line_eq_spelled, Diagnostic.spelled]
  cases record.severity <;> rfl

namespace Diagnostic

/-- A record, or a line that is passed on as it is. -/
def Relay.spelled (color : Bool) : Relay → Text
  | .echoed line => line ++ "\n".toList
  | .reported record => record.spelled color

theorem stderr_relays (color : Bool) (sent : List Relay) :
    (sent.map Relay.event).flatMap (Event.stderr color) =
      Octets.ofText (sent.flatMap (Relay.spelled color)) := by
  induction sent with
  | nil => rfl
  | cons first sent ih =>
    have hfirst : first.event.stderr color = Octets.ofText (first.spelled color) := by
      cases first with
      | echoed line => rfl
      | reported record => exact congrArg Octets.ofText (report_eq_spelled color record)
    rw [List.map_cons, List.flatMap_cons, List.flatMap_cons, ih, hfirst, Octets.ofText_append]

theorem stdout_relays (color : Bool) (sent : List Relay) :
    (sent.map Relay.event).flatMap (Event.stdout color) = [] := by
  rw [List.flatMap_eq_nil_iff, List.forall_mem_map]
  rintro (line | record) - <;> rfl

end Diagnostic

/-! ### Why a run fails -/

/-- All that a chain of causes says, a colon and a space between each two. -/
def Chain.spelled (chain : Chain) : Text :=
  List.intercalate ": ".toList (chain.outermost :: chain.causes)

/-- The system's text for an error number with the number, or what is wrong with a path or a file. -/
def Files.FileError.spelled : Files.FileError → Text
  | .system code =>
    Files.systemMessage code ++ " (os error ".toList ++ Nat.toDigits 10 code ++ ")".toList
  | .nulInPath => "file name contained an unexpected NUL byte".toList
  | .nulInArgument => "nul byte found in provided data".toList
  | .notUtf8 => "stream did not contain valid UTF-8".toList
  | .other message => message

theorem Files.FileError.message_eq_spelled (cause : Files.FileError) :
    cause.message = cause.spelled := by
  cases cause <;> rfl

def Stage.spelled : Stage → Text
  | .install => "[install]".toList
  | .bundle => "[bundle]".toList
  | .hostBuild => "[host-build]".toList

namespace Failure

/-- Why a run has failed, in the words of each way in which it can. -/
def spelled : Failure → Text
  | .install (.unable chain) => "Dependency installation failed: ".toList ++ chain.spelled
  | .install .unsuccessful =>
    "Dependency installation failed: ".toList ++ "npm install exited with a non-zero status".toList
  | .bundle (.unable chain) => "Bundle generation failed: ".toList ++ chain.spelled
  | .bundle (.errorsReported count) =>
    "Bundle generation failed: ".toList ++
      ("esbuild reported ".toList ++ Nat.toDigits 10 count ++ " error(s)".toList)
  | .bundle .unsuccessful =>
    "Bundle generation failed: ".toList ++ "esbuild exited with a non-zero status".toList
  | .bundle (.unwrappable (.tooShort segments)) =>
    "Bundle generation failed: ".toList ++ ("unexpected bundle layout: ".toList ++
      Nat.toDigits 10 segments ++ " line(s), expected at least ".toList ++ "5".toList)
  | .bundle (.unwrappable .wrapperNotFound) =>
    "Bundle generation failed: ".toList ++
      "unexpected bundle layout: IIFE wrapper not found".toList
  | .artifact path cause =>
    "Bundle I/O failed for ".toList ++ path ++ ": ".toList ++ cause.spelled
  | .host (.unable chain) => "Host binary build failed: ".toList ++ chain.spelled
  | .host .unsuccessful =>
    "Host binary build failed: ".toList ++ "cargo build exited with a non-zero status".toList

theorem message_eq_spelled (failure : Failure) : failure.message = failure.spelled := by
  match failure with
  | .install (.unable _) | .install .unsuccessful | .host (.unable _) | .host .unsuccessful => rfl
  | .bundle (.unable _) | .bundle (.errorsReported _) | .bundle .unsuccessful => rfl
  | .bundle (.unwrappable (.tooShort _)) | .bundle (.unwrappable .wrapperNotFound) => rfl
  | .artifact path cause =>
    exact congrArg ("Bundle I/O failed for ".toList ++ path ++ ": ".toList ++ ·)
      cause.message_eq_spelled

end Failure

end ScriptEmbed
