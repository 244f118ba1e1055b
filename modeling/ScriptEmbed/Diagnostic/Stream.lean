import ScriptEmbed.Diagnostic.Reader
import ScriptEmbed.Octets.Utf8

/-!
An engine's standard error as a stream of octets. It is cut after each newline, each line is read
on its own as UTF-8 with U+FFFD for what is malformed and loses its line ending, and the reader
takes the lines in turn. What comes of it is one sequence: lines passed on and completed records,
in the order in which they go out. A line that closes a record goes out before the record.
-/

set_option autoImplicit false
set_option relaxedAutoImplicit false

namespace ScriptEmbed.Diagnostic

/-- One thing that goes out while a stream is read. -/
inductive Relay
  | echoed (line : Text)
  | reported (record : Diagnostic)
  deriving DecidableEq

namespace Relay

def record? : Relay → Option Diagnostic
  | .reported record => some record
  | .echoed _ => none

def line? : Relay → Option Text
  | .echoed line => some line
  | .reported _ => none

end Relay

def isLineEnd (c : Char) : Bool := c == '\n' || c == '\r'

/-- A line of octets as text, without the newlines and carriage returns at its end. -/
def decodeLine (line : Octets) : Text := Text.dropEndWhile isLineEnd line.toTextLossy

/-- What feeding a line sends out. -/
def Feed.relays (feed : Feed) (line : Text) : List Relay :=
  (if feed.passthrough then [.echoed line] else []) ++ (feed.completed.map Relay.reported).toList

/-- One line of a stream: the reader after it and all that was sent out, in reverse. -/
def relayLine (progress : Reader × List Relay) (line : Text) : Reader × List Relay :=
  let (feed, reader) := progress.1.feed line
  (reader, (feed.relays line).reverse ++ progress.2)

/-- All that a sequence of lines sends out, the record still open at the end included. -/
def relayLines (lines : List Text) : List Relay :=
  let (reader, sent) := lines.foldl relayLine (none, [])
  sent.reverse ++ (reader.finish.1.map Relay.reported).toList

/-- All that an engine's standard error sends out. -/
def relay (stream : Octets) : List Relay := relayLines (stream.lines.map decodeLine)

end ScriptEmbed.Diagnostic
