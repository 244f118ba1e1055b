import ScriptEmbed.Text.Blank

/-!
Paths as texts. Joining does not normalise: an absolute second part replaces the first, an empty
first part gives the second, and otherwise one slash stands between them unless the first ends in
one already.
-/

set_option autoImplicit false
set_option relaxedAutoImplicit false

namespace ScriptEmbed.Files

abbrev Path := Text

/-- Where something is in a file tree: the names on the way from the root. -/
abbrev Place := List Text

namespace Path

def isAbsolute (path : Path) : Bool := path.head? == some '/'

def join (base part : Path) : Path :=
  if isAbsolute part then part
  else if base.isEmpty || base.getLast? == some '/' then base ++ part
  else base ++ '/' :: part

/-- The names between the slashes, `.` and `..` among them. -/
def names (path : Path) : List Text := (path.splitOn '/').filter fun name ↦ !name.isEmpty

/-- A path that ends in a slash asks for a directory. -/
def endsInSlash (path : Path) : Bool := path.getLast? == some '/'

def here : Text := ['.']

def up : Text := ['.', '.']

/-- The last name, unless that is `..`; a `.` does not count. -/
def fileName? (path : Path) : Option Text :=
  match ((names path).filter (· ≠ here)).getLast? with
  | none => none
  | some name => if name = up then none else some name

/-- The absolute path of a place. -/
def ofPlace : Place → Path
  | [] => ['/']
  | names => names.flatMap fun name ↦ '/' :: name

end Path

end ScriptEmbed.Files
