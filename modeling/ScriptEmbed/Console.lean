import ScriptEmbed.Diagnostic.Basic

/-!
Lines as the console shows them: a tag, coloured or plain, a space and a message. A record is
shown under the tag of its severity, and its notes under it, two columns in.
-/

set_option autoImplicit false
set_option relaxedAutoImplicit false

namespace ScriptEmbed

inductive Stream
  | stdout
  | stderr
  deriving DecidableEq

namespace Console

inductive Tag
  | build
  | info
  | warn
  | error
  | done
  deriving DecidableEq

namespace Tag

def label : Tag → Text
  | .build => "[BUILD]".toList
  | .info => "[INFO]".toList
  | .warn => "[WARN]".toList
  | .error => "[ERROR]".toList
  | .done => "[DONE]".toList

/-- The parameters of the terminal's escape sequence for the tag's colour and weight. -/
def style : Tag → Text
  | .build | .done => "1;32".toList
  | .info => "36".toList
  | .warn => "33".toList
  | .error => "1;31".toList

def text (color : Bool) (tag : Tag) : Text :=
  if color then "\x1b[".toList ++ tag.style ++ ['m'] ++ tag.label ++ "\x1b[0m".toList
  else tag.label

end Tag

def line (color : Bool) (tag : Tag) (message : Text) : Text :=
  tag.text color ++ ' ' :: message ++ ['\n']

def severityTag : Severity → Tag
  | .warning => .warn
  | .error => .error

def report (color : Bool) (record : Diagnostic) : Text :=
  line color (severityTag record.severity) record.message ++
    record.notes.flatMap fun note ↦ ' ' :: ' ' :: note ++ ['\n']

end Console

end ScriptEmbed
