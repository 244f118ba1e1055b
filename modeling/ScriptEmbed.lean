import ScriptEmbed.Main
import ScriptEmbed.Proofs.Bundle.Agreement
import ScriptEmbed.Proofs.Bundle.Artifact
import ScriptEmbed.Proofs.Bundle.Exits
import ScriptEmbed.Proofs.Bundle.Insertion
import ScriptEmbed.Proofs.Bundle.LayoutWarning
import ScriptEmbed.Proofs.Bundle.Outermost
import ScriptEmbed.Proofs.Bundle.Rerun
import ScriptEmbed.Proofs.Bundle.Splice
import ScriptEmbed.Proofs.Bundle.Stability
import ScriptEmbed.Proofs.Bundle.Unwrap
import ScriptEmbed.Proofs.CommandLine.Decision
import ScriptEmbed.Proofs.CommandLine.Wording
import ScriptEmbed.Proofs.Console.Wording
import ScriptEmbed.Proofs.Diagnostic.Blocks
import ScriptEmbed.Proofs.Diagnostic.Headers
import ScriptEmbed.Proofs.Diagnostic.Markers
import ScriptEmbed.Proofs.Diagnostic.Offline
import ScriptEmbed.Proofs.Diagnostic.Printing
import ScriptEmbed.Proofs.Diagnostic.Sendings
import ScriptEmbed.Proofs.Files.Destination
import ScriptEmbed.Proofs.Files.Joining
import ScriptEmbed.Proofs.Files.Lookup
import ScriptEmbed.Proofs.Files.Slot
import ScriptEmbed.Proofs.Json.Grammar
import ScriptEmbed.Proofs.Json.Passing
import ScriptEmbed.Proofs.Json.Strings
import ScriptEmbed.Proofs.Manifest.Faithful
import ScriptEmbed.Proofs.Manifest.Written
import ScriptEmbed.Proofs.Octets.Encoding
import ScriptEmbed.Proofs.Octets.Newlines
import ScriptEmbed.Proofs.Pipeline.Endings
import ScriptEmbed.Proofs.Pipeline.Order
import ScriptEmbed.Proofs.Program.Outcome
import ScriptEmbed.Proofs.Session.Memoryless
import ScriptEmbed.Proofs.Text.Trimming
import ScriptEmbed.Proofs.Tool.Deeds
import ScriptEmbed.Proofs.Tool.Details
import ScriptEmbed.Proofs.Tool.Diagnosed
import ScriptEmbed.Proofs.Tool.EmissionOrder
import ScriptEmbed.Proofs.Tool.LineEndings
import ScriptEmbed.Proofs.Tool.Performs
import ScriptEmbed.Proofs.Tool.Verbatim
import ScriptEmbed.Proofs.Toolchain.Announcements
import ScriptEmbed.Proofs.Toolchain.Conditions
import ScriptEmbed.Proofs.Toolchain.OutputFile
import ScriptEmbed.Proofs.Toolchain.Stages
import ScriptEmbed.Proofs.Toolchain.Verdict
