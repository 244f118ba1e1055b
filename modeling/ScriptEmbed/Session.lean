import ScriptEmbed.Console
import ScriptEmbed.Diagnostic.Stream
import ScriptEmbed.Failure
import ScriptEmbed.Files.Tree
import ScriptEmbed.Project
import ScriptEmbed.Styled

/-!
A session is what a run acts on: the files as they are now, and everything that has happened so
far, in order. What the console shows on either stream is read off what has happened.
-/

set_option autoImplicit false
set_option relaxedAutoImplicit false

namespace ScriptEmbed

open Files

/-- What the pipeline asks its collaborators for. -/
inductive Request
  | checkInstaller
  | install
  | checkEngine
  | bundle
  | checkHost
  | buildHost (profile : Profile)
  deriving DecidableEq

inductive Event
  /-- A tagged line on standard output. -/
  | announced (tag : Console.Tag) (message : Text)
  /-- A record shown on standard error. -/
  | reported (record : Diagnostic)
  /-- A line of an engine passed on to standard error. -/
  | echoed (line : Text)
  /-- What a tool wrote to a stream that it shares with the run. -/
  | shared (stream : Stream) (octets : Octets)
  /-- The failure that ended the run, shown on standard error. -/
  | failed (failure : Failure)
  /-- A text of the command line's own. -/
  | printed (stream : Stream) (message : Styled)
  /-- A collaborator was asked for something, with the files as they were then. -/
  | asked (request : Request) (files : FileTree)
  /-- A program was started, by a path to it or by its name. -/
  | started (program : Text) (args : List Text) (directory : Place)

structure Session where
  files : FileTree
  events : List Event := []

namespace Session

/-- The session after more has happened. -/
def noting (session : Session) (events : List Event) : Session :=
  { session with events := session.events ++ events }

/-- The session after a collaborator was asked for something. -/
def asking (session : Session) (request : Request) : Session :=
  session.noting [.asked request session.files]

@[simp] theorem files_noting (session : Session) (events : List Event) :
    (session.noting events).files = session.files := rfl

@[simp] theorem files_asking (session : Session) (request : Request) :
    (session.asking request).files = session.files := rfl

end Session

/-- A step of a run: it may fail, and what it did to the session stays either way. -/
abbrev Action (ε : Type) := ExceptT ε (StateM Session)

namespace Action

variable {ε δ α β : Type}

def happen (events : List Event) : Action ε Unit := modify (·.noting events)

def announce (tag : Console.Tag) (message : Text) : Action ε Unit :=
  happen [.announced tag message]

def ask (request : Request) : Action ε Unit := do
  happen [.asked request (← get).files]

def orFail (result : Except ε α) : Action ε α :=
  match result with
  | .ok value => return value
  | .error e => throw e

/-- Gives an action's error as another one. -/
def blame (wrap : ε → δ) (action : Action ε α) : Action δ α := ExceptT.adapt wrap action

/-- Changes the files, unless the change is refused. -/
def change (operation : FileTree → Except ε FileTree) : Action ε Unit := do
  let files ← orFail (operation (← get).files)
  modify fun session ↦ { session with files := files }

/-- The value or the error of an action, and the session after it. -/
def result (action : Action ε α) (session : Session) : Except ε α × Session :=
  (ExceptT.run action).run session

/-! ### What each action does to a session -/

@[simp] theorem result_pure (value : α) (session : Session) :
    (pure value : Action ε α).result session = (.ok value, session) := rfl

@[simp] theorem result_throw (e : ε) (session : Session) :
    (throw e : Action ε α).result session = (.error e, session) := rfl

theorem result_bind (action : Action ε α) (next : α → Action ε β) (session : Session) :
    (action >>= next).result session =
      match action.result session with
      | (.ok value, session) => (next value).result session
      | (.error e, session) => (.error e, session) := by
  simp only [result, ExceptT.run_bind, StateT.run_bind]
  change (match (StateT.run (ExceptT.run action) session).1 with
    | .ok value => ExceptT.run (next value)
    | .error e => pure (.error e)).run _ = _
  cases h : StateT.run (ExceptT.run action) session with
  | mk outcome after => cases outcome <;> rfl

section

variable {action : Action ε α} {next : α → Action ε β} {wrap : ε → δ} {session middle : Session}
variable {value : α} {e : ε}

theorem result_bind_of_ok (h : action.result session = (.ok value, middle)) :
    (action >>= next).result session = (next value).result middle := by
  rw [result_bind, h]

theorem result_bind_of_error (h : action.result session = (.error e, middle)) :
    (action >>= next).result session = (.error e, middle) := by
  rw [result_bind, h]

@[simp] theorem result_blame (wrap : ε → δ) (action : Action ε α) (session : Session) :
    (action.blame wrap).result session =
      ((action.result session).1.mapError wrap, (action.result session).2) := rfl

theorem result_blame_of_ok (h : action.result session = (.ok value, middle)) :
    (action.blame wrap).result session = (.ok value, middle) := by
  rw [result_blame, h]
  rfl

theorem result_blame_of_error (h : action.result session = (.error e, middle)) :
    (action.blame wrap).result session = (.error (wrap e), middle) := by
  rw [result_blame, h]
  rfl

end

@[simp] theorem result_happen (events : List Event) (session : Session) :
    (happen events : Action ε Unit).result session = (.ok (), session.noting events) := rfl

@[simp] theorem result_announce (tag : Console.Tag) (message : Text) (session : Session) :
    (announce tag message : Action ε Unit).result session =
      (.ok (), session.noting [.announced tag message]) := rfl

@[simp] theorem result_ask (request : Request) (session : Session) :
    (ask request : Action ε Unit).result session = (.ok (), session.asking request) := rfl

@[simp] theorem result_orFail (value : Except ε α) (session : Session) :
    (orFail value).result session = (value, session) := by
  cases value <;> rfl

@[simp] theorem result_get (session : Session) :
    (get : Action ε Session).result session = (.ok session, session) := rfl

@[simp] theorem result_modify (f : Session → Session) (session : Session) :
    (modify f : Action ε Unit).result session = (.ok (), f session) := rfl

theorem result_change (operation : FileTree → Except ε FileTree) (session : Session) :
    (change operation).result session =
      match operation session.files with
      | .ok files => (.ok (), { session with files := files })
      | .error e => (.error e, session) := by
  unfold change
  rw [result_bind]
  dsimp only [result_get]
  rw [result_bind, result_orFail]
  cases operation session.files <;> rfl

end Action

def Diagnostic.Relay.event : Diagnostic.Relay → Event
  | .echoed line => .echoed line
  | .reported record => .reported record

def failureLine (color : Bool) (failure : Failure) : Text :=
  Console.line color .error
    ('[' :: failure.stage.name ++ "] ".toList ++ failure.message)

namespace Event

/-- What an event puts on standard output. -/
def stdout (color : Bool) : Event → Octets
  | .announced tag message => .ofText (Console.line color tag message)
  | .shared .stdout octets => octets
  | .printed .stdout message => .ofText (message.written color)
  | _ => []

/-- What an event puts on standard error. -/
def stderr (color : Bool) : Event → Octets
  | .reported record => .ofText (Console.report color record)
  | .echoed line => .ofText (line ++ ['\n'])
  | .shared .stderr octets => octets
  | .failed failure => .ofText (failureLine color failure)
  | .printed .stderr message => .ofText (message.written color)
  | _ => []

end Event

namespace Session

def stdout (color : Bool) (session : Session) : Octets :=
  session.events.flatMap (Event.stdout color)

def stderr (color : Bool) (session : Session) : Octets :=
  session.events.flatMap (Event.stderr color)

theorem stdout_noting (color : Bool) (session : Session) (events : List Event) :
    (session.noting events).stdout color =
      session.stdout color ++ events.flatMap (Event.stdout color) := List.flatMap_append

theorem stderr_noting (color : Bool) (session : Session) (events : List Event) :
    (session.noting events).stderr color =
      session.stderr color ++ events.flatMap (Event.stderr color) := List.flatMap_append

end Session

end ScriptEmbed
