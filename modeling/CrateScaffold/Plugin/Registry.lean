import CrateScaffold.Plugin.Bundled

/-!
The registry of plugins, in the order of registration. No name is registered twice.
-/

namespace CrateScaffold

structure Registry where
  plugins : List Plugin
  initialized : Bool

namespace Registry

def empty : Registry := ⟨[], false⟩

def names (r : Registry) : List Text := r.plugins.map Plugin.name

def register (r : Registry) (p : Plugin) : Except Failure Registry :=
  if r.names.contains p.name then
    .error (.nameTaken p.name p.module (r.plugins.map fun q => (q.name, q.module)))
  else .ok { r with plugins := r.plugins ++ [p] }

def registerAll (r : Registry) : List Plugin → Registry × Option Failure
  | [] => (r, none)
  | p :: ps =>
    match r.register p with
    | .error f => (r, some f)
    | .ok r => registerAll r ps

def loadedRecords (before after : Registry) : List Record :=
  (after.plugins.drop before.plugins.length).map fun p =>
    ⟨.debug, "Loaded plugin: " ++ p.name⟩

def externalRecords (count : Nat) : Option Text → List Record
  | some message => [⟨.warning, "Error loading external plugins: " ++ message⟩]
  | none =>
    if count = 0 then []
    else [⟨.debug, "Loaded " ++ Text.ofNat count ++ " external plugin(s)"⟩]

/-- Registers the bundled plugins, then the external ones. An external plugin whose name is taken
ends the loading without a failure; a bundled one fails. -/
def load (r : Registry) (external : List Plugin) (trouble : Option Text) :
    Registry × List Record × Except Failure Unit :=
  if r.initialized then (r, [], .ok ())
  else
    match r.registerAll Plugin.bundled with
    | (s, some f) => (s, loadedRecords r s, .error f)
    | (s, none) =>
      let (t, stop) := s.registerAll external
      let t := { t with initialized := true }
      (t, loadedRecords r s ++
        externalRecords external.length ((stop.map Failure.message).or trouble) ++
        [⟨.debug, "Plugin system initialized with " ++ Text.ofNat t.plugins.length ++
          " plugin(s)"⟩], .ok ())

def unregister (r : Registry) (name : Text) : Registry :=
  { r with plugins := r.plugins.filter fun p => p.name != name }

def reset (r : Registry) : Registry :=
  { r.names.foldl unregister r with initialized := false }

def listing (r : Registry) : List (Text × Text) :=
  (r.plugins.map fun p => (p.name, p.module)).mergeSort fun a b => Text.le a.1 b.1

def contributions (r : Registry) (b : Brief) : Reading (List Contribution) := do
  return (← r.plugins.reverse.mapM fun p => p.contributions b).flatten

end Registry

end CrateScaffold
