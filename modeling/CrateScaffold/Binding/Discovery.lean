import CrateScaffold.Binding.Annotation
import CrateScaffold.Reading

/-!
Discovery of bindings: those of all sources below a directory, file by file in the order of their
paths. A type may be bound only once.
-/

namespace CrateScaffold.Discovery

def adopt (found : List Binding) : List Binding → Except Failure (List Binding)
  | [] => .ok found
  | b :: bs =>
    if found.any (·.type == b.type) then .error (.repeatedType b.type)
    else adopt (found ++ [b]) bs

def bindingsOf (p : Path) : Reading (List Binding) := do
  .log .debug ("Scanning " ++ p.text)
  let source ← .ofTree fun t => (t.readText p).mapError .ofRead
  return Source.bindings source

def collect (found : List Binding) : List Path → Reading (List Binding)
  | [] => return found
  | p :: ps => do
    let bindings ← bindingsOf p
    collect (← .ofExcept (adopt found bindings)) ps

def bindings (source : Path) : Reading (List Binding) := do
  let paths ← .ofTree fun t => (t.below source ".rs").mapError .files
  collect [] paths

def lookup (source : Path) : Reading (List (Text × Text)) := do
  return (← bindings source).map fun b => (b.type, b.qualifiedName)

end CrateScaffold.Discovery
