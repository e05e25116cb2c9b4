import CrateScaffold.Native.Library
import CrateScaffold.World

/-!
The native library of a crate: built by the build tool, then copied into the resources of the
generated project. The paths of the library are the only ones that nothing has used before, so they
are looked at for being longer than the system takes.
-/

namespace CrateScaffold

namespace FileTree

def target (t : FileTree) (source destination : Path) : Path :=
  match t.isDir destination with
  | .ok true => destination.child (source.parts.getLast?.getD [])
  | _ => destination

def isSame (t : FileTree) (p q : Path) : Bool :=
  match t.locate p, t.locate q with
  | .ok (l, some _), .ok (m, some _) => l == m
  | _, _ => false

def copy (t : FileTree) (source destination : Path) : Except Fault FileTree := do
  match ← t.stat source with
  | .dir => .error (.system .isDirectory source)
  | .file content executable =>
    match ← t.locate destination with
    | (_, some .dir) => .error (.system .isDirectory destination)
    | (l, _) => return t.put l (.file content executable)

end FileTree

namespace Native

def produce : List (Path × Entry) → Action Unit
  | [] => return
  | (p, .dir) :: es => do
    Action.makeDirs p
    produce es
  | (p, .file content _) :: es => do
    Action.makeDirs p.parent
    Action.change (·.write p content)
    produce es

def said (cargo : Cargo) : Except Failure Text :=
  (do
    let _ ← Utf8.decode cargo.output
    return Text.foldBreaks (← Utf8.decode cargo.errors)).mapError .decoding

def build (directory : Path) (timeout : Int) : Action Unit := do
  match (← read).cargo with
  | none => throw (.native .noCargo)
  | some cargo =>
    modify fun w => { w with calls := w.calls ++ [⟨directory, timeout⟩] }
    produce cargo.produces
    if cargo.timesOut then throw (.native (.timedOut timeout))
    else if cargo.interrupted then throw (.native .interrupted)
    else
      let errors ← Action.reading (.ofExcept (said cargo))
      Action.log .debug
        ("cargo build finished in 0.0s with exit code " ++ Text.ofInt cargo.exitCode)
      if cargo.exitCode ≠ 0 then
        Action.log .debug errors
        throw (.native (.exited cargo.exitCode))

def artifact (target : Path) (fileName : Text) : Path :=
  target / ("release" : Path) / Path.ofText fileName

def isTooLong (p : Path) : Bool := !FileTree.hasNull p && 4096 ≤ (Utf8.encode p.text).length

def reach (p : Path) : Action Unit :=
  Action.reading (.ofExcept
    (if isTooLong p then .error (.files (.system .nameTooLong p)) else .ok ()))

def bundle (platform : Text) (libName : Value) (target resources : Path) : Action Path := do
  let source := artifact target (fileName platform libName)
  let destination := resources / Path.ofText (fileName platform libName)
  reach source
  if !(← Action.reading (.ofTree fun t => (t.holds source).mapError .files)) then
    throw (.native (.noArtifact source))
  reach resources
  Action.makeDirs resources
  reach destination
  let files := (← get).files
  let place := files.target source destination
  reach place
  if files.isSame source place then
    throw (.native (.sameFile source place (place != destination)))
  Action.change (·.copy source place)
  Action.log .info ("Bundled native library: " ++ destination.text)
  return destination

end Native

end CrateScaffold
