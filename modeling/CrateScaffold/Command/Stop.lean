import CrateScaffold.Command.Parameter
import CrateScaffold.Failure

/-!
How a run of the program stops: by itself with an exit code, at a command line that cannot be used,
with a failure that is reported, or with one that is not.
-/

namespace CrateScaffold

inductive Command where
  | init
  | render
  | verify
  | listClasses
  | listPlugins
  deriving DecidableEq, Repr

namespace Command

def name : Command → Text
  | .init => "init"
  | .render => "render"
  | .verify => "verify"
  | .listClasses => "list-classes"
  | .listPlugins => "list-plugins"

def all : List Command := [.init, .render, .verify, .listClasses, .listPlugins]

def ofName? (s : Text) : Option Command := all.find? (·.name == s)

def argumentName : Text := "BUILD_FILE"

def path : Option Command → Text
  | none => "jni-cli"
  | some c => "jni-cli " ++ c.name

def usage (c : Option Command) : Text :=
  path c ++ " [OPTIONS]" ++
    match c with
    | none => " COMMAND [ARGS]...".toList
    | some .verify => ' ' :: argumentName
    | some _ => []

inductive ValueFault where
  | notInteger (value : Text)
  | notChoice (value : Text) (names : List Text)
  | absent (kind value : Text)
  | isFile (kind value : Text)
  | isDirectory (kind value : Text)
  deriving DecidableEq, Repr

def ValueFault.message : ValueFault → Text
  | .notInteger v => Text.quote v ++ " is not a valid integer."
  | .notChoice v names =>
    Text.quote v ++ " is not one of " ++ Text.joinWith ", " (names.map Text.quote) ++ ['.']
  | .absent kind v => kind ++ ' ' :: Text.quote v ++ " does not exist."
  | .isFile kind v => kind ++ ' ' :: Text.quote v ++ " is a file."
  | .isDirectory kind v => kind ++ ' ' :: Text.quote v ++ " is a directory."

inductive UsageFault where
  | unknownOption (spelling : Text)
  | unknownCommand (name : Text)
  | noCommand
  | noArgument
  | extra (words : List Text)
  | value (hint : Text) (f : ValueFault)
  | exclusive
  | noGroup (manifest : Path)
  | noPackage (manifest : Path)
  deriving DecidableEq, Repr

def missingText (what key : Text) (manifest : Path) : Text :=
  "Missing " ++ what ++ ": pass --" ++ what ++ ", set " ++ key ++ ", or add " ++ what ++
    " to [package.metadata.jni-cli] in " ++ manifest.text

def groupVariable : Text := "JNI_CLI_GROUP"

def packageVariable : Text := "JNI_CLI_PACKAGE"

def UsageFault.message : UsageFault → Text
  | .unknownOption s => (WordFault.unknown s).message
  | .unknownCommand s => "No such command " ++ Text.quote s ++ ['.']
  | .noCommand => "Missing command."
  | .noArgument => "Missing argument '" ++ argumentName ++ "'."
  | .extra words =>
    (if words.length = 1 then "Got unexpected extra argument (".toList
      else "Got unexpected extra arguments (".toList) ++ Text.joinWith [' '] words ++ [')']
  | .value hint f => "Invalid value for " ++ hint ++ ": " ++ f.message
  | .exclusive => "--verbose, --quiet, and --log-level are mutually exclusive"
  | .noGroup manifest => missingText "group" groupVariable manifest
  | .noPackage manifest => missingText "package" packageVariable manifest

inductive Stop where
  | exit (code : Nat)
  | version
  | usage (c : Option Command) (f : UsageFault)
  | word (f : WordFault)
  | reported (f : Failure)
  | escaped (f : Failure)

namespace Stop

def ofWord (c : Option Command) : WordFault → Stop
  | .unknown s => .usage c (.unknownOption s)
  | f => .word f

def ofFailure (handled : Failure → Bool) (f : Failure) : Stop :=
  if handled f then .reported f else .escaped f

def errorLine (s : Text) : Text := "Error: " ++ s ++ ['\n']

def errorText : Stop → Text
  | .usage c f =>
    "Usage: " ++ Command.usage c ++ "\nTry '" ++ path c ++ " --help' for help.\n\n" ++
      errorLine f.message
  | .word f => errorLine f.message
  | .reported f => errorLine f.message
  | _ => []

def code? : Stop → Option Nat
  | .exit n => some n
  | .version => some 0
  | .usage .. => some 2
  | .word _ => some 2
  | .reported _ => some 1
  | .escaped _ => none

end Stop

end Command

end CrateScaffold
