import CrateScaffold.FileTree.Reading
import CrateScaffold.Toml.Parser
import CrateScaffold.Value.Comparison
import CrateScaffold.Value.Printing

/-!
The manifest of a crate: its name, the name of its library, and defaults for the coordinates. What
stands in a manifest may have any shape, so each step says what it found instead of a table.
-/

namespace CrateScaffold

structure Crate where
  name : Value
  libName : Value
  manifest : Path

def Crate.dir (c : Crate) : Path := c.manifest.parent

namespace Manifest

inductive Fault where
  | missing (p : Path)
  | unread (p : Path)
  | duplicate (key : Text)
  | noPackage (p : Path)
  | noMember (kind member : Text)
  | notInteger
  | reading (f : FileTree.ReadFault)
  deriving DecidableEq, Repr

def Fault.message : Fault → Text
  | .missing p => "Cargo manifest not found: " ++ p.text
  | .unread p => "Failed to parse " ++ p.text ++ ": <toml error>"
  | .duplicate key => "Key \"" ++ key ++ "\" already exists."
  | .noPackage p => "No package found in " ++ p.text
  | .noMember kind member => "'" ++ kind ++ "' object has no attribute '" ++ member ++ "'"
  | .notInteger => "'str' object cannot be interpreted as an integer"
  | .reading f => f.message

def holds (t : FileTree) (p : Path) : Except Fault Bool :=
  (t.holds p).mapError fun f => .reading (.files f)

def load (t : FileTree) (p : Path) : Except Fault Value := do
  if !(← holds t p) then .error (.missing p)
  match Toml.parse (← (t.readText p).mapError .reading) with
  | .ok v => return v
  | .error .unread => .error (.unread p)
  | .error (.duplicate key) => .error (.duplicate key)

def get? (v : Value) (key : Text) : Except Fault (Option Value) :=
  match v with
  | .table es => .ok (Value.find? (.text key) es)
  | v => .error (.noMember v.kind "get")

def table (v : Value) (key : Text) : Except Fault Value :=
  (get? v key).map (·.getD (.table []))

def given (v : Option Value) : Option Value := v.filter Value.isTrue

def derivedName (name : Value) : Except Fault Value :=
  match name with
  | .text s => .ok (.text (Text.mapChar '-' '_' s))
  | .moment _ => .error .notInteger
  | v => .error (.noMember v.kind "replace")

def crateOf (p : Path) (document : Value) : Except Fault Crate := do
  match given (← get? document "package") with
  | none => .error (.noPackage p)
  | some package =>
    match given (← get? package "name") with
    | none => .error (.noPackage p)
    | some name =>
      match given (← get? (← table document "lib") "name") with
      | some libName => return ⟨name, libName, p⟩
      | none => return ⟨name, ← derivedName name, p⟩

def read (t : FileTree) (p : Path) : Except Fault Crate := do crateOf p (← load t p)

def metadataKey : Text := "jni-cli"

def defaultsOf (document : Value) : Except Fault (List (Text × Text)) := do
  let metadata ← table (← table document "package") "metadata"
  match ← table metadata metadataKey with
  | .table es => return es.map fun e => (e.1.display, e.2.display)
  | v => .error (.noMember v.kind "items")

def defaults (t : FileTree) (p : Path) : Except Fault (List (Text × Text)) := do
  if ← holds t p then defaultsOf (← load t p) else return []

end Manifest

end CrateScaffold
