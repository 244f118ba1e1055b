import ScriptEmbed.CommandLine.Similarity
import ScriptEmbed.Project

/-!
The command line: one flag that chooses the release profile, and the flags for help and for the
version. Arguments are taken from left to right, and the first that asks for help or the version,
or that is an error, decides.
-/

set_option autoImplicit false
set_option relaxedAutoImplicit false

namespace ScriptEmbed.CommandLine

/-- The flags that are written out. -/
inductive Flag
  | release
  | help
  | version
  deriving DecidableEq

namespace Flag

def name : Flag → Text
  | .release => "release".toList
  | .help => "help".toList
  | .version => "version".toList

def text (flag : Flag) : Text := '-' :: '-' :: flag.name

def all : List Flag := [.release, .help, .version]

def ofName? (name : Text) : Option Flag := all.find? (·.name = name)

/-- The flag that a mistyped name may have meant. -/
def similar? (name : Text) : Option Flag := suggestion? name (all.map Flag.name) >>= ofName?

end Flag

/-- What the arguments choose. -/
structure Options where
  release : Bool
  deriving DecidableEq

def Options.profile (options : Options) : Profile := .ofRelease options.release

inductive UsageError
  /-- A flag that does not exist, and whether the release flag came before it. -/
  | unknownFlag (name : Text) (afterRelease : Bool)
  /-- An argument that is no flag written out. -/
  | unknownArgument (argument : Text)
  | repeatedRelease
  | unexpectedValue (flag : Flag) (value : Text) (afterRelease : Bool)
  deriving DecidableEq

/-- Why the arguments choose nothing. -/
inductive Stop
  | help
  | version
  | misuse (error : UsageError)
  deriving DecidableEq

/-- The name and the value, if there is one, of a flag written out. -/
def splitFlag (flag : Text) : Text × Option Text :=
  match flag.dropWhile (· ≠ '=') with
  | [] => (flag, none)
  | _ :: value => (flag.takeWhile (· ≠ '='), some value)

/-- A flag written out, without its dashes: whether the release flag is given after it. -/
def parseFlag (release : Bool) (flag : Text) : Except Stop Bool :=
  let (name, value) := splitFlag flag
  match Flag.ofName? name, value with
  | none, _ => .error (.misuse (.unknownFlag name release))
  | some flag, some value => .error (.misuse (.unexpectedValue flag value release))
  | some .help, none => .error .help
  | some .version, none => .error .version
  | some .release, none => if release then .error (.misuse .repeatedRelease) else .ok true

/-- A flag of one letter, which may have others after it. -/
def parseLetter (letter : Char) : Stop :=
  if letter = 'h' then .help
  else if letter = 'V' then .version
  else .misuse (.unknownArgument ['-', letter])

/-- One argument other than the two dashes that end the flags. -/
def parseArgument (release : Bool) : Text → Except Stop Bool
  | '-' :: '-' :: flag => parseFlag release flag
  | '-' :: letter :: _ => .error (parseLetter letter)
  | argument => .error (.misuse (.unknownArgument argument))

/-- Takes the arguments in turn. After two dashes nothing more may come. -/
def parseFrom (release : Bool) : List Text → Except Stop Options
  | [] => .ok ⟨release⟩
  | argument :: rest =>
    if argument = ['-', '-'] then
      match rest with
      | [] => .ok ⟨release⟩
      | next :: _ => .error (.misuse (.unknownArgument next))
    else
      match parseArgument release argument with
      | .error stop => .error stop
      | .ok release => parseFrom release rest

/-- Parses the arguments that follow the program's name. -/
def parse (argv : List Text) : Except Stop Options := parseFrom false argv.tail

end ScriptEmbed.CommandLine
