import ScriptEmbed.CommandLine.Parsing
import ScriptEmbed.Console
import ScriptEmbed.Styled

/-!
What the command line says when its arguments choose nothing: the help, the version, or an error
with the usage that it suggests.
-/

set_option autoImplicit false
set_option relaxedAutoImplicit false

namespace ScriptEmbed.CommandLine

open Files Styled

def standardName : Text := "eslint-embed".toList

/-- The name that usage lines call the program by. -/
def shownName (argv : List Text) : Text :=
  (argv.head? >>= Path.fileName?).getD standardName

/-- A part of a message that has no style. -/
def plainly (text : String) : Styled := unstyled text.toList

def Flag.styled (flag : Flag) : Styled := ofStyle .literal flag.text

/-- The heading of a usage line, and the program's name. -/
def usageOf (name : Text) : Styled :=
  ofStyle .heading "Usage:".toList ++ plainly " " ++ ofStyle .literal name ++ plainly " "

def version : Styled := unstyled (standardName ++ " 0.1.0\n".toList)

def help (name : Text) : Styled :=
  plainly "Bundle ESLint into an embeddable initializer script and build the host binary\n\n" ++
    usageOf name ++ plainly "[OPTIONS]\n\n" ++
    ofStyle .heading "Options:".toList ++
    plainly "\n      " ++ Flag.release.styled ++
    plainly "  Build the host binary with the release profile (default: debug)\n  " ++
    ofStyle .literal "-h".toList ++ plainly ", " ++ Flag.help.styled ++
    plainly "     Print help\n  " ++
    ofStyle .literal "-V".toList ++ plainly ", " ++ Flag.version.styled ++
    plainly "  Print version\n"

namespace UsageError

/-- The flag that the error's message suggests. -/
def tip? : UsageError → Option Flag
  | .unknownFlag name _ => Flag.similar? name
  | _ => none

def unexpectedArgument (argument : Text) : Styled :=
  plainly "unexpected argument '" ++ ofStyle .invalid argument ++ plainly "' found"

def what : UsageError → Styled
  | .unknownFlag name _ => unexpectedArgument ('-' :: '-' :: name)
  | .unknownArgument argument => unexpectedArgument argument
  | .repeatedRelease =>
    plainly "the argument '" ++ ofStyle .invalid Flag.release.text ++
      plainly "' cannot be used multiple times"
  | .unexpectedValue flag value _ =>
    plainly "unexpected value '" ++ ofStyle .invalid value ++ plainly "' for '" ++ flag.styled ++
      plainly "' found; no more were expected"

/-- The flags that the usage line of an error names. -/
def usedFlags (afterRelease : Bool) (tip : Option Flag) : List Flag :=
  match afterRelease, tip with
  | false, none => []
  | false, some tip => [tip]
  | true, none => [.release]
  | true, some tip => if tip = .release then [.release] else [.release, tip]

def usage (error : UsageError) : Styled :=
  match error with
  | .unknownFlag _ afterRelease =>
    match usedFlags afterRelease error.tip? with
    | [] => plainly "[OPTIONS]"
    | flags => List.intercalate (plainly " ") (flags.map Flag.styled)
  | .unexpectedValue flag _ afterRelease =>
    if !afterRelease then flag.styled
    else if flag = .release then plainly "<--release>"
    else flag.styled ++ plainly " <--release>"
  | _ => plainly "[OPTIONS]"

def tip (flag : Flag) : Styled :=
  plainly "  " ++ ofStyle .valid "tip:".toList ++ plainly " a similar argument exists: '" ++
    ofStyle .valid flag.text ++ plainly "'\n\n"

def message (name : Text) (error : UsageError) : Styled :=
  ofStyle .error "error:".toList ++ plainly " " ++ error.what ++ plainly "\n\n" ++
    (error.tip?.map tip).getD [] ++
    usageOf name ++ error.usage ++
    plainly "\n\nFor more information, try '" ++ Flag.help.styled ++ plainly "'.\n"

end UsageError

namespace Stop

def message (name : Text) : Stop → Styled
  | .help => CommandLine.help name
  | .version => CommandLine.version
  | .misuse error => error.message name

def exitCode : Stop → Nat
  | .misuse _ => 2
  | _ => 0

/-- Only an error is shown on standard error. -/
def stream : Stop → Stream
  | .misuse _ => .stderr
  | _ => .stdout

end Stop

end ScriptEmbed.CommandLine
