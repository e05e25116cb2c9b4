import CrateScaffold.Binding.Discovery
import CrateScaffold.Native.Bundle
import CrateScaffold.Project.Writing

/-!
Generation of a project. Everything that can be refused is found out before anything is written;
the native library is built last.
-/

namespace CrateScaffold.Project

structure Order where
  output : Path
  root : Option Path
  force : Bool
  group : Option Text
  package : Option Text
  manifest : Option Path
  source : Option Path
  build : Bool
  timeout : Int
  deriving DecidableEq, Repr

structure Outcome where
  written : List Path
  bindings : List Binding
  artifact : Option Path
  failure : Option Failure

def Outcome.succeeded (o : Outcome) : Bool := o.failure.isNone

def Outcome.refused (f : Failure) : Outcome := ⟨[], [], none, some f⟩

def library (root : Option Path) : Template.Library :=
  match root with
  | some p => .project p
  | none => .packaged

def holds (p : Path) : Reading Bool := .ofTree fun t => (t.holds p).mapError .files

def crate (manifest : Option Path) (build : Bool) : Reading (Option Crate) := do
  let present ← match manifest with
    | some p => holds p
    | none => pure false
  match manifest, present with
  | some p, true =>
    let crate ← .ofTree fun t => (Manifest.read t p).mapError .manifest
    .log .debug ("Wrapping crate " ++ crate.name.display ++ " (lib " ++ crate.libName.display ++
      ")")
    return some crate
  | _, _ => if build then .fail (.noManifest manifest) else return none

def bindings (source : Option Path) : Reading (List Binding) := do
  match source with
  | none => return []
  | some p =>
    if ← .ofTree fun t => (t.isDir p).mapError .files then Discovery.bindings p else return []

def brief (o : Order) : Reading Brief := do
  let coordinates ← .ofExcept ((Coordinates.of? o.group o.package).mapError .coordinate)
  let crate ← crate o.manifest o.build
  return ⟨coordinates, crate, ← bindings o.source, library o.root⟩

def prepare (o : Order) : Action (Brief × List PlannedFile) := do
  let brief ← Action.reading (brief o)
  let files ← plan brief
  Action.reading (checkOverwrite o.output o.force)
  return (brief, files)

def bundle (o : Order) (crate : Crate) : Action Path := do
  Native.build crate.dir o.timeout
  Native.bundle (← read).platform crate.libName (crate.dir / ("target" : Path))
    (o.output / resources)

def buildStage (o : Order) (b : Brief) (written : List Path) : Action Outcome := do
  let done : Outcome := ⟨written, b.bindings, none, none⟩
  match o.build, b.crate with
  | true, some crate =>
    match ← (bundle o crate).attempt with
    | .ok p => return { done with artifact := some p }
    | .error f => if f.isBuildOutcome then return { done with failure := some f } else throw f
  | _, _ => return done

def run (o : Order) : Action Outcome := do
  match ← (prepare o).attempt with
  | .error f => if f.isReported then return .refused f else throw f
  | .ok (b, files) =>
    let written ← write o.output files (directories b.coordinates b.bindings)
    buildStage o b written

end CrateScaffold.Project
