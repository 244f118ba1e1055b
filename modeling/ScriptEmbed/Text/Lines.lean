import ScriptEmbed.Text.Blank

/-!
A text as its segments, the stretches between newlines: a text that ends in a newline has an
empty last segment, and the empty text is one empty segment. Joining the segments with newlines
gives the text back.
-/

set_option autoImplicit false
set_option relaxedAutoImplicit false

namespace ScriptEmbed.Text

def segments (text : Text) : List Text := text.splitOn '\n'

/-- Segments joined by one newline between each two. -/
def ofSegments (parts : List Text) : Text := List.intercalate ['\n'] parts

@[simp] theorem ofSegments_segments (text : Text) : ofSegments (segments text) = text :=
  List.intercalate_splitOn '\n'

end ScriptEmbed.Text
