import CrateScaffold.BuildScript.Block
import CrateScaffold.Text.Blank
import CrateScaffold.Text.Word

/-!
The publication that a build script declares: the first `publishing` block at the start of a line,
and in it the first assignment of a string literal to each of three names.
-/

namespace CrateScaffold.BuildScript

def opening? (s : Text) : Option Text :=
  match Text.after? "publishing" (Text.trimLeft s) with
  | none => none
  | some r =>
    match Text.trimLeft r with
    | '{' :: r => some ('{' :: r)
    | _ => none

/-- The text from the opening brace of the first publishing block on; `fresh` says that a line
begins here. -/
def publishing? (fresh : Bool) : Text → Option Text
  | [] => none
  | c :: s => (if fresh then opening? (c :: s) else none).or (publishing? (c == '\n') s)

def assignment? (name s : Text) : Option Text :=
  match Text.after? name s with
  | none => none
  | some r =>
    match Text.trimLeft r with
    | '=' :: r =>
      match Text.trimLeft r with
      | '"' :: r => (Text.cut? ['"'] r).map (·.1)
      | _ => none
    | _ => none

/-- The first literal assigned to `name`; `fresh` says that no word goes on here. -/
def assigned? (name : Text) (fresh : Bool) : Text → Option Text
  | [] => none
  | c :: s =>
    (if fresh then assignment? name (c :: s) else none).or (assigned? name (!Text.isWord c) s)

structure Publication where
  group : Text
  artifact : Text
  version : Text
  deriving DecidableEq, Repr

inductive PublicationFault where
  | missing
  | unterminated
  | unassigned (name : Text)
  deriving DecidableEq, Repr

def PublicationFault.message : PublicationFault → Text
  | .missing => "No publishing block found in build script"
  | .unterminated => "Unterminated publishing block"
  | .unassigned name => "No " ++ name ++ " assignment in publishing block"

def valueOf (body name : Text) : Except PublicationFault Text :=
  match assigned? name true body with
  | some value => .ok value
  | none => .error (.unassigned name)

def Publication.ofBody (body : Text) : Except PublicationFault Publication := do
  let group ← valueOf body "groupId"
  let artifact ← valueOf body "artifactId"
  let version ← valueOf body "version"
  return ⟨group, artifact, version⟩

def Publication.read (script : Text) : Except PublicationFault Publication :=
  match publishing? true script with
  | none => .error .missing
  | some s =>
    match body? s with
    | none => .error .unterminated
    | some body => ofBody body

end CrateScaffold.BuildScript
