import ScriptEmbed.Session

/-!
Actions that have no memory: what they do depends on the files alone, and they only add to what has
happened. The steps that actions are made of are such, and putting one after another keeps it so
(`memoryless_bind`).
-/

set_option autoImplicit false
set_option relaxedAutoImplicit false

namespace ScriptEmbed.Action

open Files

variable {ε δ α β : Type} {action : Action ε α} {next : α → Action ε β}

/-- The files decide the outcome, the files after it and what is added to the events. -/
def Memoryless (action : Action ε α) : Prop :=
  ∀ files, ∃ outcome after made, ∀ events,
    action.result ⟨files, events⟩ = (outcome, ⟨after, events ++ made⟩)

theorem memoryless_pure (value : α) : (pure value : Action ε α).Memoryless :=
  fun files ↦ ⟨.ok value, files, [], fun events ↦ by simp⟩

theorem memoryless_throw (e : ε) : (throw e : Action ε α).Memoryless :=
  fun files ↦ ⟨.error e, files, [], fun events ↦ by simp⟩

theorem memoryless_happen (events : List Event) : (happen events : Action ε Unit).Memoryless :=
  fun files ↦ ⟨.ok (), files, events, fun _ ↦ rfl⟩

theorem memoryless_ask (request : Request) : (ask request : Action ε Unit).Memoryless :=
  fun files ↦ ⟨.ok (), files, [.asked request files], fun _ ↦ rfl⟩

theorem memoryless_orFail (value : Except ε α) : (orFail value).Memoryless :=
  fun files ↦ ⟨value, files, [], fun events ↦ by simp⟩

theorem memoryless_change (operation : FileTree → Except ε FileTree) :
    (change operation).Memoryless := by
  intro files
  cases hchange : operation files with
  | ok changed => exact ⟨.ok (), changed, [], fun events ↦ by simp [result_change, hchange]⟩
  | error e => exact ⟨.error e, files, [], fun events ↦ by simp [result_change, hchange]⟩

theorem memoryless_blame (wrap : ε → δ) (haction : action.Memoryless) :
    (action.blame wrap).Memoryless := by
  intro files
  obtain ⟨outcome, after, made, hrun⟩ := haction files
  exact ⟨outcome.mapError wrap, after, made, fun events ↦ by rw [result_blame, hrun events]⟩

theorem memoryless_bind (haction : action.Memoryless) (hnext : ∀ value, (next value).Memoryless) :
    (action >>= next).Memoryless := by
  intro files
  obtain ⟨outcome, middle, made, hrun⟩ := haction files
  cases outcome with
  | error e => exact ⟨.error e, middle, made, fun events ↦ result_bind_of_error (hrun events)⟩
  | ok value =>
    obtain ⟨outcome, after, more, hmore⟩ := hnext value middle
    refine ⟨outcome, after, made ++ more, fun events ↦ ?_⟩
    rw [result_bind_of_ok (hrun events), hmore, List.append_assoc]

/-- Looking at the files is no use of the memory. -/
theorem memoryless_bind_get {next : Session → Action ε β}
    (hfiles : ∀ files events, next ⟨files, events⟩ = next ⟨files, []⟩)
    (hnext : ∀ files, (next ⟨files, []⟩).Memoryless) :
    ((get : Action ε Session) >>= next).Memoryless := by
  intro files
  obtain ⟨outcome, after, made, hrun⟩ := hnext files files
  refine ⟨outcome, after, made, fun events ↦ ?_⟩
  rw [result_bind_of_ok (result_get _), hfiles, hrun]

end ScriptEmbed.Action
