import CrateScaffold.Console.Escape
import CrateScaffold.Plugin.Registry

/-!
The world of the program: the tree, the registry of plugins, and what is logged, built and printed.
The host is what stays the same. An action may change the world, and what it changed stays changed
when it fails.
-/

namespace CrateScaffold

/-- The build tool of crates, as far as its effect goes; what it writes to its outputs may be no
text. -/
structure Cargo where
  produces : List (Path × Entry)
  timesOut : Bool
  interrupted : Bool
  exitCode : Int
  output : Bytes
  errors : Bytes
  deriving DecidableEq, Repr

/-- `trouble` is what goes wrong after the external plugins were registered, `engine` evaluates the
templates that are not covered, `literals` judges the parameters of the console's handlers, and
`columns` is the width of the console, which is no terminal. -/
structure Host where
  platform : Text
  cargo : Option Cargo
  plugins : List Plugin
  trouble : Option Text
  engine : Template.Engine
  literals : Console.Literals
  columns : Nat

def Host.plain : Host where
  platform := "linux"
  cargo := none
  plugins := []
  trouble := none
  engine := .refusing
  literals _ := none
  columns := 80

structure Call where
  directory : Path
  timeout : Int
  deriving DecidableEq, Repr

structure World where
  files : FileTree
  registry : Registry
  records : List Record
  calls : List Call
  printed : Text

def World.ofFiles (t : FileTree) : World := ⟨t, .empty, [], [], []⟩

abbrev Action := ReaderT Host (ExceptT Failure (StateM World))

namespace Action

variable {α : Type}

def exec (a : Action α) (h : Host) (w : World) : Except Failure α × World := a h w

def log (level : Level) (message : Text) : Action Unit :=
  modify fun w => { w with records := w.records ++ [⟨level, message⟩] }

def print (s : Text) : Action Unit := modify fun w => { w with printed := w.printed ++ s }

def echo (s : Text) : Action Unit := print (Console.withoutSequences s)

def reading (r : Reading α) : Action α := fun h w =>
  let (records, x) := r ⟨w.files, h.platform, h.engine⟩
  (x, { w with records := w.records ++ records })

def change (f : FileTree → Except FileTree.Fault FileTree) : Action Unit := fun _ w =>
  match f w.files with
  | .ok t => (.ok (), { w with files := t })
  | .error e => (.error (.files e), w)

def makeDirs (p : Path) : Action Unit := fun _ w =>
  let (x, t) := w.files.makeDirs p
  (x.mapError .files, { w with files := t })

def loadPlugins : Action Unit := fun h w =>
  let (registry, records, x) := w.registry.load h.plugins h.trouble
  (x, { w with registry := registry, records := w.records ++ records })

def listPlugins : Action (List (Text × Text)) := do
  loadPlugins
  return (← get).registry.listing

def resetPlugins : Action Unit := modify fun w => { w with registry := w.registry.reset }

def attempt (a : Action α) : Action (Except Failure α) := fun h w =>
  let (x, w) := a.exec h w
  (.ok x, w)

end Action

end CrateScaffold
