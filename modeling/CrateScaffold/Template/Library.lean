import CrateScaffold.FileTree.Access
import CrateScaffold.Template.Packaged

/-!
Where templates come from: the overrides of a project, then the packaged ones. A name is taken
segment by segment and may not lead upwards.
-/

namespace CrateScaffold.Template

inductive Library where
  | empty
  | packaged
  | project (root : Path)
  deriving DecidableEq, Repr

inductive LoadFault where
  | noLibrary
  | absent (name : Text)
  | unreadable (f : Utf8.Fault)
  deriving DecidableEq, Repr

def LoadFault.message : LoadFault → Text
  | .noLibrary => "Template environment has no loader"
  | .absent name => name
  | .unreadable f => f.message

def overrides (root : Path) : Path := root / (".jni-cli/templates" : Path)

def segments? (name : Text) : Option (List Text) :=
  let cs := Path.partsOf name
  if cs.contains ['.', '.'] then none else some cs

def override? (root : Path) (t : FileTree) (cs : List Text) : Option Bytes :=
  match t.stat ⟨(overrides root).anchor, (overrides root).parts ++ cs⟩ with
  | .ok (.file content _) => some content
  | _ => none

def packaged? (name : Text) (cs : List Text) : Except LoadFault Text :=
  match Packaged.all.lookup cs with
  | some s => .ok s
  | none => .error (.absent name)

def Library.load (l : Library) (t : FileTree) (name : Text) : Except LoadFault Text :=
  match l, segments? name with
  | .empty, _ => .error .noLibrary
  | _, none => .error (.absent name)
  | .packaged, some cs => packaged? name cs
  | .project root, some cs =>
    match override? root t cs with
    | some content => (Utf8.decode content).mapError .unreadable
    | none => packaged? name cs

end CrateScaffold.Template
