import CrateScaffold.FileTree.Path
import CrateScaffold.Text.Utf8
import CrateScaffold.Value.Printing

/-!
Contributions: what a plugin offers for the generated project. A contribution may lack a member or
lead out of the project; only what lacks nothing becomes a file.
-/

namespace CrateScaffold

inductive Content where
  | text (s : Text)
  | bytes (bs : Bytes)
  deriving DecidableEq, Repr

def Content.encode : Content → Bytes
  | .text s => Utf8.encode s
  | .bytes bs => bs

structure PlannedFile where
  path : Path
  content : Content
  executable : Value

structure Contribution where
  path : Option Value
  content : Option Content
  executable : Value

namespace Contribution

inductive Fault where
  | noPath
  | noContent
  | pathKind (kind : Text)
  | leaves (p : Path)
  | repeated (p : Path)
  deriving DecidableEq, Repr

def Fault.message : Fault → Text
  | .noPath => "'path'"
  | .noContent => "'content'"
  | .pathKind kind => "expected str, bytes or os.PathLike object, not " ++ kind
  | .leaves p => "Plugin file path escapes the output directory: " ++ p.text
  | .repeated p => "More than one plugin contributed " ++ p.text

def ofText (path text : Text) : Contribution :=
  ⟨some (.text path), some (.text text), .bool false⟩

def file (c : Contribution) : Except Fault PlannedFile :=
  match c.path, c.content with
  | none, _ => .error .noPath
  | some (.text s), some content => .ok ⟨.ofText s, content, c.executable⟩
  | some (.text _), none => .error .noContent
  | some v, _ => .error (.pathKind v.kind)

end Contribution

namespace PlannedFile

/-- Adds a contribution to files that were contributed before; it must stay inside the project and
be the first one for its path. -/
def add (files : List PlannedFile) (c : Contribution) :
    Except Contribution.Fault (List PlannedFile) := do
  let f ← c.file
  if f.path.leaves then .error (.leaves f.path)
  else if files.any (·.path == f.path) then .error (.repeated f.path)
  else return files ++ [f]

def ofContributions (cs : List Contribution) : Except Contribution.Fault (List PlannedFile) := do
  return (← cs.foldlM add []).mergeSort fun f g => f.path.le g.path

end PlannedFile

end CrateScaffold
