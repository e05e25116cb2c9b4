import CrateScaffold.Console.Markup
import CrateScaffold.Coordinates
import CrateScaffold.Manifest
import CrateScaffold.Native.Fault
import CrateScaffold.Plugin.Contribution
import CrateScaffold.Template.Fault
import CrateScaffold.Template.Library

/-!
Failures of the program, by cause. A caller that handles some of them says which by a predicate;
the text of a failure is made in one place.
-/

namespace CrateScaffold

inductive Failure where
  | coordinate (f : CoordinateFault)
  | tokens (template : Text) (names : List Text)
  | load (f : Template.LoadFault)
  | template (f : Template.Fault)
  | files (f : FileTree.Fault)
  | decoding (f : Utf8.Fault)
  | manifest (f : Manifest.Fault)
  | noManifest (p : Option Path)
  | repeatedType (type : Text)
  | contribution (f : Contribution.Fault)
  | plugin (message : Text)
  | nameTaken (name module : Text) (registered : List (Text × Text))
  | projectExists (script : Path)
  | native (f : Native.Fault)
  | markup (f : Console.MarkupFault)
  | color (f : Console.ColorFault)
  deriving DecidableEq, Repr

namespace Failure

def ofRead : FileTree.ReadFault → Failure
  | .files f => .files f
  | .decoding f => .decoding f

def ofConsole : Console.Fault → Failure
  | .markup f => .markup f
  | .color f => .color f

def moduleText (module : Text) : Text := "<module " ++ Text.quote module ++ ['>']

def message : Failure → Text
  | .coordinate f => f.message
  | .tokens name names =>
    "Template '" ++ name ++ "' is missing values for: " ++ Text.joinWith ", " names
  | .load f => f.message
  | .template f => f.message
  | .files f => f.message
  | .decoding f => f.message
  | .manifest f => f.message
  | .noManifest p =>
    "Cannot build native library: " ++ (p.map Path.text).getD "None" ++ " not found"
  | .repeatedType type => "Found more than one #[java_class] for struct_name " ++ type
  | .contribution f => f.message
  | .plugin text => text
  | .nameTaken name module registered =>
    "Plugin name already registered: " ++ name ++ '=' :: moduleText module ++ "\n\x7b" ++
      Text.joinWith ", " (registered.map fun r => Text.quote r.1 ++ ": " ++ moduleText r.2) ++
      "\x7d"
  | .projectExists script => script.text ++ " already exists (use --force to overwrite)"
  | .native f => f.message
  | .markup f => f.message
  | .color f => f.message

def isRefusal : Failure → Bool
  | .coordinate _ | .tokens .. | .decoding _ | .noManifest _ | .repeatedType _ | .plugin _
  | .nameTaken .. | .color _ => true
  | .load f => match f with
    | .absent _ => false
    | _ => true
  | .template f => match f with
    | .range _ => true
    | .engine f => f.kind == .refusal
    | _ => false
  | .files f => f == .null
  | .manifest f => match f with
    | .unread _ | .noPackage _ | .reading (.decoding _) | .reading (.files .null) => true
    | _ => false
  | .contribution f => match f with
    | .leaves _ | .repeated _ => true
    | _ => false
  | _ => false

def isSystem : Failure → Bool
  | .files (.system ..) | .projectExists _ => true
  | .template (.engine f) => f.kind == .system
  | .manifest f => match f with
    | .missing _ | .reading (.files (.system ..)) => true
    | _ => false
  | .native f => match f with
    | .noCargo | .noArtifact _ | .sameFile .. => true
    | _ => false
  | _ => false

def isTemplate : Failure → Bool
  | .load (.absent _) => true
  | .template f => match f with
    | .unread _ | .unknown _ | .unavailable .. | .undefined _ => true
    | .engine f => f.kind == .template
    | _ => false
  | _ => false

def isReported (f : Failure) : Bool := f.isRefusal || f.isSystem || f.isTemplate

def isBuildOutcome : Failure → Bool
  | .native f => match f with
    | .noCargo | .noArtifact _ | .timedOut _ | .exited _ => true
    | _ => false
  | .files (.system .absent _) => true
  | _ => false

def isArgumentError : Failure → Bool
  | .coordinate _ | .tokens .. => true
  | _ => false

end Failure

end CrateScaffold
