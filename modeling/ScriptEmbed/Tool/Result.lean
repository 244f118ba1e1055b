import ScriptEmbed.Diagnostic.Basic

/-!
How an external tool's work came out: whether it succeeded, with the records that it emitted, or
why it could not be done, as a chain of causes from the outermost to the root.
-/

set_option autoImplicit false
set_option relaxedAutoImplicit false

namespace ScriptEmbed

structure Chain where
  outermost : Text
  causes : List Text := []
  deriving DecidableEq

namespace Chain

def messages (chain : Chain) : List Text := chain.outermost :: chain.causes

/-- All messages in one line, a colon and a space between each two. -/
def joined (chain : Chain) : Text := List.intercalate ": ".toList chain.messages

end Chain

structure ToolResult where
  success : Bool
  /-- In the order in which the tool emitted them. -/
  diagnostics : List Diagnostic := []
  deriving DecidableEq

namespace ToolResult

def errors (result : ToolResult) : List Diagnostic := result.diagnostics.filter (·.isError)

def warnings (result : ToolResult) : List Diagnostic := result.diagnostics.filter (!·.isError)

def hasErrors (result : ToolResult) : Bool := result.diagnostics.any (·.isError)

end ToolResult

end ScriptEmbed
