import CrateScaffold.Plugin.Registry
import CrateScaffold.World

/-!
The plan of a project: every file with its content, made before anything is written, and the
directories that exist even when no file is in them.
-/

namespace CrateScaffold.Project

def resources : Path := "src/main/resources"

def sources : Path := "src/main/kotlin"

def files (r : Registry) (b : Brief) : Reading (List PlannedFile) := do
  let contributions ← r.contributions b
  .ofExcept ((PlannedFile.ofContributions contributions).mapError .contribution)

def plan (b : Brief) : Action (List PlannedFile) := do
  Action.loadPlugins
  Action.reading (files (← get).registry b)

def addNew (ds : List Path) (d : Path) : List Path := if ds.contains d then ds else ds ++ [d]

def bindingDir (b : Binding) : Path := sources / Path.ofText b.packagePath

/-- The directories of a project: that of its top-level object, the resources, the wrapper, and
one for each package. -/
def directories (c : Coordinates) (bindings : List Binding) : List Path :=
  (bindings.map bindingDir).foldl addNew
    [sources / Path.ofText c.groupPath / Path.ofText c.package, resources, "gradle/wrapper"]

end CrateScaffold.Project
