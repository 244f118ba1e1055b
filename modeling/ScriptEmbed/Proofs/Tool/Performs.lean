import ScriptEmbed.Proofs.Files.Destination
import ScriptEmbed.Proofs.Tool.Diagnosed

/-!
Actions by the commands that they start and by the files that they reach. `Performs` says of an
action that it starts given commands in their order until it fails, all of them if it succeeds, and
that it gives a value and leaves certain files exactly where a relation to the files at its
beginning holds. Putting one action after another appends their commands and composes their
relations (`performs_bind`), so what a whole run performs is put together from what its steps
perform.
-/

set_option autoImplicit false
set_option relaxedAutoImplicit false

namespace ScriptEmbed

open Files Tool

/-! ### Started programs -/

def Event.isStart : Event → Bool
  | .started .. => true
  | _ => false

/-- The programs that have been started, with their arguments and the directories they work in. -/
def Session.starts (session : Session) : List Event := session.events.filter Event.isStart

namespace Session

@[simp] theorem starts_noting (session : Session) (events : List Event) :
    (session.noting events).starts = session.starts ++ events.filter Event.isStart := by
  simp [starts, noting]

@[simp] theorem starts_asking (session : Session) (request : Request) :
    (session.asking request).starts = session.starts := by
  simp [asking, Event.isStart]

@[simp] theorem starts_files (session : Session) (files : FileTree) :
    { session with files := files }.starts = session.starts := rfl

end Session

namespace Tool

/-- The place that a command works in. -/
def Command.place (machine : Machine) (command : Command) : Place :=
  match command.directory with
  | none => machine.working
  | some path => Path.destination machine.working path

/-- The same place, where it is a directory. A directory of its own has to be there. -/
def Command.startsIn (machine : Machine) (files : FileTree) (command : Command) :
    Except FileError Place :=
  match command.directory with
  | none => .ok machine.working
  | some path => files.workingDirectory machine.working path

/-- Whether a NUL is in anything that a command hands to the system. -/
def Command.anyNul (command : Command) : Bool :=
  hasNul command.program || command.args.any hasNul || command.directory.any hasNul

/-- What is seen of a command when it is started. -/
def Command.event (machine : Machine) (command : Command) : Event :=
  .started command.program command.args (command.place machine)

end Tool

namespace Action

/-! ### Performing -/

/-- Starts some commands in their order until it fails, and gives a value and leaves files that are
in a relation to the files at its beginning, unless there are none. -/
def Performs {ε α : Type} (machine : Machine) (commands : List Command)
    (reaches : FileTree → α → FileTree → Prop) (action : Action ε α) : Prop :=
  ∀ session, ∃ outcome after spawned, action.result session = (outcome, after) ∧
    after.starts = session.starts ++ spawned.map (·.event machine) ∧
    spawned <+: commands ∧
    (∀ value, outcome = .ok value → spawned = commands) ∧
    ∀ value files, reaches session.files value files ↔ outcome = .ok value ∧ files = after.files

section

variable {ε δ α β : Type} {machine : Machine} {commands later : List Command}
variable {action : Action ε α} {next : α → Action ε β}
variable {reaches : FileTree → α → FileTree → Prop}

theorem Performs.congr {reaches' : FileTree → α → FileTree → Prop}
    (h : Performs machine commands reaches action)
    (hiff : ∀ files value after, reaches' files value after ↔ reaches files value after) :
    Performs machine commands reaches' action := by
  intro session
  obtain ⟨outcome, after, spawned, hrun, hstarts, hfront, hall, hreaches⟩ := h session
  refine ⟨outcome, after, spawned, hrun, hstarts, hfront, hall, ?_⟩
  intro value files
  rw [hiff, hreaches]

theorem Performs.of_ok {session after : Session} {value : α}
    (h : Performs machine commands reaches action)
    (hrun : action.result session = (.ok value, after)) :
    after.starts = session.starts ++ commands.map (·.event machine) ∧
      reaches session.files value after.files := by
  obtain ⟨outcome, ended, spawned, hrun', hstarts, -, hall, hreaches⟩ := h session
  cases hrun'.symm.trans hrun
  rw [← hall value rfl]
  exact ⟨hstarts, (hreaches value after.files).mpr ⟨rfl, rfl⟩⟩

/-- An action that starts nothing. -/
theorem performs_of_quiet
    (h : ∀ session, ∃ outcome after, action.result session = (outcome, after) ∧
      after.starts = session.starts ∧
      ∀ value files, reaches session.files value files ↔
        outcome = .ok value ∧ files = after.files) :
    Performs machine [] reaches action := by
  intro session
  obtain ⟨outcome, after, hrun, hstarts, hreaches⟩ := h session
  exact ⟨outcome, after, [], hrun, by simpa using hstarts, List.prefix_rfl, fun _ _ ↦ rfl, hreaches⟩

theorem performs_pure (value : α) :
    Performs machine [] (fun files value' after ↦ value' = value ∧ after = files)
      (pure value : Action ε α) := by
  refine performs_of_quiet fun session ↦ ⟨.ok value, session, rfl, rfl, ?_⟩
  simp [eq_comm]

theorem performs_happen {events : List Event} (h : events.filter Event.isStart = []) :
    Performs machine [] (fun files _ after ↦ after = files) (happen events : Action ε Unit) := by
  refine performs_of_quiet fun session ↦ ⟨.ok (), session.noting events, rfl, by simp [h], ?_⟩
  simp

theorem performs_announce (tag : Console.Tag) (message : Text) :
    Performs machine [] (fun files _ after ↦ after = files)
      (announce tag message : Action ε Unit) := performs_happen rfl

theorem performs_ask (request : Request) :
    Performs machine [] (fun files _ after ↦ after = files) (ask request : Action ε Unit) := by
  refine performs_of_quiet fun session ↦ ⟨.ok (), session.asking request, rfl, by simp, ?_⟩
  simp

/-- Going on only under a condition. -/
theorem performs_unless (condition : Bool) (e : ε)
    (h : Performs machine commands reaches action) :
    Performs machine commands
      (fun files value after ↦ condition = true ∧ reaches files value after)
      (do
        unless condition do throw e
        action) := by
  intro session
  cases condition with
  | true =>
    obtain ⟨outcome, after, spawned, hrun, hstarts, hfront, hall, hreaches⟩ := h session
    exact ⟨outcome, after, spawned, hrun, hstarts, hfront, hall, by simpa using hreaches⟩
  | false => exact ⟨.error e, session, [], rfl, by simp, List.nil_prefix, by simp, by simp⟩

theorem performs_blame (wrap : ε → δ) (h : Performs machine commands reaches action) :
    Performs machine commands reaches (action.blame wrap) := by
  intro session
  obtain ⟨outcome, after, spawned, hrun, hstarts, hfront, hall, hreaches⟩ := h session
  have hvalue : ∀ value, outcome.mapError wrap = .ok value ↔ outcome = .ok value := by
    intro value
    cases outcome <;> simp [Except.mapError]
  refine ⟨outcome.mapError wrap, after, spawned, by rw [result_blame, hrun], hstarts, hfront,
    ?_, ?_⟩
  · intro value houtcome
    exact hall value ((hvalue value).mp houtcome)
  · intro value files
    rw [hreaches, hvalue]

theorem performs_bind {reaches' : α → FileTree → β → FileTree → Prop}
    (h : Performs machine commands reaches action)
    (hnext : ∀ value, Performs machine later (reaches' value) (next value)) :
    Performs machine (commands ++ later)
      (fun files value after ↦ ∃ middle files', reaches files middle files' ∧
        reaches' middle files' value after) (action >>= next) := by
  intro session
  obtain ⟨outcome, middle, spawned, hrun, hstarts, hfront, hall, hreaches⟩ := h session
  cases outcome with
  | error e =>
    refine ⟨.error e, middle, spawned, result_bind_of_error hrun, hstarts,
      hfront.trans (List.prefix_append commands later), by simp, ?_⟩
    intro value files
    simp [hreaches]
  | ok value =>
    obtain rfl := hall value rfl
    obtain ⟨outcome, after, more, hrun', hstarts', hfront', hall', hreaches'⟩ :=
      hnext value middle
    refine ⟨outcome, after, spawned ++ more, (result_bind_of_ok hrun).trans hrun', ?_,
      (List.prefix_append_right_inj spawned).mpr hfront', ?_, ?_⟩
    · rw [hstarts', hstarts, List.map_append, List.append_assoc]
    · intro result houtcome
      rw [hall' result houtcome]
    · intro result files
      constructor
      · rintro ⟨found, files', hfirst, hsecond⟩
        obtain ⟨hfound, rfl⟩ := (hreaches found files').mp hfirst
        cases hfound
        exact (hreaches' result files).mp hsecond
      · intro hend
        exact ⟨value, middle.files, (hreaches value middle.files).mpr ⟨rfl, rfl⟩,
          (hreaches' result files).mpr hend⟩

/-- A step that starts nothing, before others. -/
theorem performs_after_quiet {reaches' : α → FileTree → β → FileTree → Prop}
    (h : Performs machine [] reaches action)
    (hnext : ∀ value, Performs machine later (reaches' value) (next value)) :
    Performs machine later
      (fun files value after ↦ ∃ middle files', reaches files middle files' ∧
        reaches' middle files' value after) (action >>= next) :=
  performs_bind h hnext

/-- A step that starts nothing, after others. -/
theorem performs_before_quiet {reaches' : α → FileTree → β → FileTree → Prop}
    (h : Performs machine commands reaches action)
    (hnext : ∀ value, Performs machine [] (reaches' value) (next value)) :
    Performs machine commands
      (fun files value after ↦ ∃ middle files', reaches files middle files' ∧
        reaches' middle files' value after) (action >>= next) := by
  have hboth := performs_bind h hnext
  rwa [List.append_nil] at hboth

theorem performs_modify (change : FileTree → FileTree) :
    Performs machine [] (fun files _ after ↦ after = change files)
      (modify fun session ↦ { session with files := change session.files } : Action ε PUnit) := by
  refine performs_of_quiet fun session ↦
    ⟨.ok (), { session with files := change session.files }, rfl, rfl, ?_⟩
  simp

end

end Action

/-! ### Commands -/

namespace Tool

open ScriptEmbed.Action

section

variable {machine : Machine} {command : Command} {files : FileTree}
variable {directory : Place} {deed : Deed}

theorem locate_eq_ok_iff : locate machine files command = .ok (directory, deed) ↔
    command.anyNul = false ∧ command.startsIn machine files = .ok directory ∧
      findProgram machine files directory command.program = .ok deed := by
  obtain ⟨program, args, path⟩ := command
  unfold locate Command.startsIn Command.anyNul
  split_ifs with hnul
  · simp only [hnul, bind_unit_eq_ok_iff, throw_eq_ok_iff, false_and, Bool.true_eq_false]
  rw [Bool.not_eq_true] at hnul
  cases path with
  | none =>
    simp only [hnul, bind_eq_ok_iff, pure_eq_ok_iff, Prod.mk.injEq, true_and]
    constructor
    · rintro ⟨middle, rfl, found, hfound, rfl, rfl⟩
      exact ⟨rfl, hfound⟩
    · rintro ⟨hplace, hfound⟩
      exact ⟨directory, (Except.ok.inj hplace).symm, deed, hfound, rfl, rfl⟩
  | some path =>
    simp only [hnul, bind_eq_ok_iff, pure_eq_ok_iff, Prod.mk.injEq, true_and]
    constructor
    · rintro ⟨middle, hplace, found, hfound, rfl, rfl⟩
      exact ⟨hplace, hfound⟩
    · rintro ⟨hplace, hfound⟩
      exact ⟨directory, hplace, deed, hfound, rfl, rfl⟩

/-- A command that can be started works in its place. -/
theorem place_of_locate (h : locate machine files command = .ok (directory, deed)) :
    directory = command.place machine := by
  obtain ⟨-, hdirectory, -⟩ := locate_eq_ok_iff.mp h
  obtain ⟨program, args, _ | path⟩ := command
  · exact (Except.ok.inj hdirectory).symm
  · exact FileTree.destination_of_resolve (FileTree.workingDirectory_eq_ok_iff.mp hdirectory).1

theorem performs_launch (machine : Machine) (command : Command) :
    Performs machine [command]
      (fun files located after ↦ locate machine files command = .ok located ∧ after = files)
      (launch machine command) := by
  intro session
  cases hlocate : locate machine session.files command with
  | error cause =>
    exact ⟨_, _, [], result_launch_of_unlocated hlocate, by simp, List.nil_prefix, by simp,
      by simp [hlocate]⟩
  | ok located =>
    obtain ⟨directory, deed⟩ := located
    refine ⟨_, _, [command], result_launch_of_located hlocate, ?_, List.prefix_rfl, by simp, ?_⟩
    · have hstart : Event.started command.program command.args directory =
          command.event machine := by rw [Command.event, place_of_locate hlocate]
      rw [Session.starts_noting, hstart]
      rfl
    · intro located files
      simp [hlocate]

theorem performs_spawn (machine : Machine) (command : Command) :
    Performs machine [command]
      (fun files conduct after ↦ ∃ directory deed,
        locate machine files command = .ok (directory, deed) ∧ conduct = deed.conduct ∧
          after = deed.apply directory files)
      (spawn machine command) := by
  refine performs_blame _ (Performs.congr (performs_before_quiet (performs_launch machine command)
    fun located ↦ performs_after_quiet (performs_modify (located.2.apply located.1))
      fun _ ↦ performs_pure located.2.conduct) ?_)
  intro files conduct after
  constructor
  · rintro ⟨directory, deed, hlocate, rfl, rfl⟩
    exact ⟨_, _, ⟨hlocate, rfl⟩, (), _, rfl, rfl, rfl⟩
  · rintro ⟨⟨directory, deed⟩, _, ⟨hlocate, rfl⟩, -, _, rfl, rfl, rfl⟩
    exact ⟨directory, deed, hlocate, rfl, rfl⟩

theorem performs_probe (machine : Machine) (advice : Text) (command : Command) :
    Performs machine [command]
      (fun files _ after ↦ (∃ located, locate machine files command = .ok located) ∧
        after = files)
      (probe machine advice command) := by
  refine Performs.congr (performs_before_quiet (performs_blame _ (performs_launch machine command))
    fun _ ↦ performs_pure ()) ?_
  intro files value after
  constructor
  · rintro ⟨⟨located, hlocate⟩, rfl⟩
    exact ⟨located, _, ⟨hlocate, rfl⟩, rfl, rfl⟩
  · rintro ⟨located, _, ⟨hlocate, rfl⟩, -, rfl⟩
    exact ⟨⟨located, hlocate⟩, rfl⟩

/-- What running a command comes to, for a way to make a result of its conduct. -/
def Runs (machine : Machine) (command : Command) (judge : Conduct → ToolResult)
    (files : FileTree) (result : ToolResult) (after : FileTree) : Prop :=
  ∃ directory deed, locate machine files command = .ok (directory, deed) ∧
    result = judge deed.conduct ∧ after = deed.apply directory files

theorem performs_runShared (machine : Machine) (command : Command) :
    Performs machine [command]
      (Runs machine command fun conduct ↦ ⟨conduct.status.isSuccess, []⟩)
      (runShared machine command) := by
  refine Performs.congr (performs_before_quiet (performs_spawn machine command)
    fun conduct ↦ performs_after_quiet (performs_happen rfl) fun _ ↦ performs_pure _) ?_
  intro files result after
  constructor
  · rintro ⟨directory, deed, hlocate, rfl, rfl⟩
    exact ⟨_, _, ⟨directory, deed, hlocate, rfl, rfl⟩, (), _, rfl, rfl, rfl⟩
  · rintro ⟨_, _, ⟨directory, deed, hlocate, rfl, rfl⟩, -, _, rfl, rfl, rfl⟩
    exact ⟨directory, deed, hlocate, rfl, rfl⟩

theorem isStart_event_relay (sent : Diagnostic.Relay) : sent.event.isStart = false := by
  cases sent <;> rfl

theorem performs_runDiagnosed (machine : Machine) (command : Command) :
    Performs machine [command] (Runs machine command resultOf) (runDiagnosed machine command) := by
  have hquiet : ∀ sent : List Diagnostic.Relay,
      (sent.map Diagnostic.Relay.event).filter Event.isStart = [] := by
    intro sent
    rw [List.filter_eq_nil_iff]
    intro event hevent
    obtain ⟨relayed, -, rfl⟩ := List.mem_map.mp hevent
    simp [isStart_event_relay]
  refine Performs.congr (performs_before_quiet (performs_spawn machine command)
    fun conduct ↦ performs_after_quiet (performs_happen rfl) fun _ ↦
      performs_after_quiet (performs_happen (hquiet _)) fun _ ↦ performs_pure _) ?_
  intro files result after
  constructor
  · rintro ⟨directory, deed, hlocate, rfl, rfl⟩
    exact ⟨_, _, ⟨directory, deed, hlocate, rfl, rfl⟩, (), _, rfl, (), _, rfl, rfl, rfl⟩
  · rintro ⟨_, _, ⟨directory, deed, hlocate, rfl, rfl⟩, -, _, rfl, -, _, rfl, rfl, rfl⟩
    exact ⟨directory, deed, hlocate, rfl, rfl⟩

end

end Tool

end ScriptEmbed
