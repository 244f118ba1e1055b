import ScriptEmbed.Text.Blank

/-!
The initializer that a wrapped bundle defines: its name, its parameters, and the two pieces of
script that open and close it.
-/

set_option autoImplicit false
set_option relaxedAutoImplicit false

namespace ScriptEmbed

structure Signature where
  name : Text
  params : List Text
  deriving DecidableEq

namespace Signature

/-- The signature under which the bundled linter is registered. -/
def standard : Signature where
  name := "initEslint".toList
  params := ["global".toList, "process".toList, "__filename".toList, "__dirname".toList]

/-- The line that opens the function, its parameters separated by a comma and a space. -/
def header (signature : Signature) : Text :=
  "function ".toList ++ signature.name ++ ['('] ++
    List.intercalate ", ".toList signature.params ++ ") \x7b".toList

/-- The closing brace, a line of four spaces, and the line that registers the function on the
global object. It counts as one segment although it holds two newlines. -/
def footer (signature : Signature) : Text :=
  "\x7d\n    \nglobalThis.".toList ++ signature.name ++ " = ".toList ++ signature.name ++ [';']

end Signature

end ScriptEmbed
