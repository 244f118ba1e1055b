import ScriptEmbed.Decimal.Notation
import ScriptEmbed.Octets.Utf8
import ScriptEmbed.Text.Quoted

/-!
What can be wrong with a JSON text that should hold a manifest, and where. A fault keeps what
follows the place where reading stopped; the line, and the octets before that place on the line,
are read off the whole text.
-/

set_option autoImplicit false
set_option relaxedAutoImplicit false

namespace ScriptEmbed.Json

/-- A value that was found where another kind was expected. -/
inductive Found
  | null
  | boolean (value : Bool)
  | integer (value : Int)
  | float (value : Float)
  | string (value : Text)
  | sequence
  | map

inductive Expected
  | manifest
  | string
  | map
  deriving DecidableEq

inductive Problem
  | endInValue
  | endInObject
  | endInList
  | endInString
  | valueExpected
  | colonExpected
  | objectCommaOrEndExpected
  | listCommaOrEndExpected
  | keyNotString
  | trailingComma
  | trailingCharacters
  | identExpected
  | invalidNumber
  | numberOutOfRange
  | controlCharacter
  | invalidEscape
  | loneSurrogate
  | unfinishedSurrogatePair
  | invalidType (found : Found) (expected : Expected)
  | invalidLength (length : Nat)
  | duplicateField (name : Text)

/-- A problem, the text that was left when it was met, and how many octets of that text count as
passed. -/
structure Fault where
  problem : Problem
  rest : Text
  ahead : Nat := 0

/-- A fault that counts the next character's first octet as passed, if there is one. -/
def Fault.peeked (problem : Problem) (rest : Text) : Fault :=
  ⟨problem, rest, if rest.isEmpty then 0 else 1⟩

/-- Numbers are written out in full from a hundred thousandth to below ten to the sixteenth. -/
def floatStyle : Decimal.Style := ⟨-4, 16⟩

def integerText (value : Int) : Text :=
  (if value < 0 then ['-'] else []) ++ Text.ofNat value.natAbs

def Found.describe : Found → Text
  | .null => "null".toList
  | .boolean true => "boolean `true`".toList
  | .boolean false => "boolean `false`".toList
  | .integer value => "integer `".toList ++ integerText value ++ ['`']
  | .float value => "floating point `".toList ++ floatStyle.writeFloat value ++ ['`']
  | .string value => "string ".toList ++ Text.quoted value
  | .sequence => "sequence".toList
  | .map => "map".toList

def Expected.describe : Expected → Text
  | .manifest => "struct PackageManifest".toList
  | .string => "a string".toList
  | .map => "a map".toList

def Problem.message : Problem → Text
  | .endInValue => "EOF while parsing a value".toList
  | .endInObject => "EOF while parsing an object".toList
  | .endInList => "EOF while parsing a list".toList
  | .endInString => "EOF while parsing a string".toList
  | .valueExpected => "expected value".toList
  | .colonExpected => "expected `:`".toList
  | .objectCommaOrEndExpected => "expected `,` or `\x7d`".toList
  | .listCommaOrEndExpected => "expected `,` or `]`".toList
  | .keyNotString => "key must be a string".toList
  | .trailingComma => "trailing comma".toList
  | .trailingCharacters => "trailing characters".toList
  | .identExpected => "expected ident".toList
  | .invalidNumber => "invalid number".toList
  | .numberOutOfRange => "number out of range".toList
  | .controlCharacter =>
    "control character (\\u0000-\\u001F) found while parsing a string".toList
  | .invalidEscape => "invalid escape".toList
  | .loneSurrogate => "lone leading surrogate in hex escape".toList
  | .unfinishedSurrogatePair => "unexpected end of hex escape".toList
  | .invalidType found expected =>
    "invalid type: ".toList ++ found.describe ++ ", expected ".toList ++ expected.describe
  | .invalidLength length =>
    "invalid length ".toList ++ Text.ofNat length ++
      ", expected struct PackageManifest with 4 elements".toList
  | .duplicateField name => "duplicate field `".toList ++ name ++ ['`']

/-- The number of the line that follows some octets, from one, and the octets on it so far. -/
def lineAndColumn (passed : Octets) : Nat × Nat :=
  (passed.count Octets.newline + 1, (passed.reverse.takeWhile (· ≠ Octets.newline)).length)

/-- The octets of the text that come before the place of a fault. -/
def Fault.passed (fault : Fault) (text : Text) : Octets :=
  let octets := Octets.ofText text
  octets.take (octets.length - (Octets.ofText fault.rest).length + fault.ahead)

/-- The problem with its line and column in the text. -/
def Fault.message (fault : Fault) (text : Text) : Text :=
  let (line, column) := lineAndColumn (fault.passed text)
  fault.problem.message ++ " at line ".toList ++ Text.ofNat line ++ " column ".toList ++
    Text.ofNat column

end ScriptEmbed.Json
