import CrateScaffold.BuildScript.Verdict
import CrateScaffold.Command.Invocation
import CrateScaffold.Console.Table
import CrateScaffold.Project.Generation

/-!
Execution of invocations. Each command says which failures it reports; all others leave the
program.
-/

namespace CrateScaffold

namespace Action

def say (tone : Console.Tone) (s : Text) : Action Unit := fun h w =>
  match Console.message h.literals h.columns tone s with
  | .ok t => print t h w
  | .error f => (.error (.ofConsole f), w)

def showTable (bs : List Binding) : Action Unit := fun h w =>
  match Console.bindingTable h.literals h.columns bs with
  | .ok t => print t h w
  | .error f => (.error (.ofConsole f), w)

end Action

namespace Command

abbrev Work := ReaderT Host (ExceptT Stop (StateM World))

def Work.reporting {α : Type} (handled : Failure → Bool) (a : Action α) : Work α := fun h w =>
  let (x, w) := a.exec h w
  (x.mapError (.ofFailure handled), w)

def Work.ofAction {α : Type} (a : Action α) : Work α := .reporting (fun _ => false) a

def filled (s : Option Text) : Option Text := s.filter (!·.isEmpty)

def Selection.resolve (c : Command) (s : Selection) (t : FileTree) : Except Stop (Text × Text) :=
  match filled s.group, filled s.package with
  | some g, some p => .ok (g, p)
  | g, p =>
    match Manifest.defaults t s.manifest with
    | .error f => .error (.ofFailure Failure.isRefusal (.manifest f))
    | .ok ds =>
      match g.or (filled (ds.lookup "group".toList)),
          p.or (filled (ds.lookup "package".toList)) with
      | none, _ => .error (.usage (some c) (.noGroup s.manifest))
      | _, none => .error (.usage (some c) (.noPackage s.manifest))
      | some g, some p => .ok (g, p)

def resolved (c : Command) (s : Selection) : Work (Text × Text) := fun _ w =>
  (s.resolve c w.files, w)

def library (s : Selection) : Template.Library := .project s.manifest.parent

def generated (o : Project.Order) : Action Nat := do
  let r ← Project.run o
  r.written.forM fun p => Action.log .info ("Generated: " ++ p.text)
  r.bindings.forM fun b =>
    Action.log .info ("Found binding: " ++ b.type ++ " -> " ++ b.qualifiedName)
  match r.failure with
  | some f =>
    Action.log .error f.message
    return 1
  | none =>
    Action.say .success ("Generated " ++ Text.ofNat r.written.length ++ " files in 0.00s")
    return 0

def execute (o : Project.Order) : Action Nat := do
  Action.log .info ("Group: " ++ o.group.getD [])
  Action.log .info ("Package: " ++ o.package.getD [])
  Action.log .info ("Output dir: " ++ o.output.text)
  match ← (generated o).attempt with
  | .ok code => return code
  | .error (.native .interrupted) =>
    Action.log .error "Interrupted by user"
    return 1
  | .error f =>
    Action.log .error ("Error: " ++ f.message)
    Action.log .debug "Traceback:"
    return 1

def performInit (s : Selection) (output source : Path) (build force : Bool) (timeout : Int) :
    Work Unit := do
  let (g, p) ← resolved .init s
  let code ← Work.ofAction (execute ⟨output, some s.manifest.parent, force, some g, some p,
    some s.manifest, some source, build, timeout⟩)
  throw (.exit code)

def scriptFor (s : Selection) (g p : Text) : Reading Text := do
  let c ← .ofExcept ((Coordinates.of? (some g) (some p)).mapError .coordinate)
  (library s).renderBuildScript c

def writeOut (p : Path) (s : Text) : Action Unit := do
  Action.makeDirs p.parent
  Action.change (·.write p (Utf8.encode s))
  Action.log .info ("Generated: " ++ p.text)

def performRender (s : Selection) (output : Option Path) : Work Unit := do
  let (g, p) ← resolved .render s
  let script ← Work.reporting Failure.isArgumentError (Action.reading (scriptFor s g p))
  match output with
  | none => Work.ofAction (Action.echo script)
  | some p => Work.ofAction (writeOut p script)

def problemsOf (s : Selection) (c : Coordinates) (script : Path) :
    Reading (List BuildScript.Problem) := do
  let template ← (library s).source Template.buildScriptName
  let text ← .ofTree fun t => (t.readExact script).mapError .ofRead
  return BuildScript.problems text c template

def performVerify (s : Selection) (script : Path) : Work Unit := do
  let (g, p) ← resolved .verify s
  let c ← Work.reporting Failure.isArgumentError
    (Action.reading (.ofExcept ((Coordinates.of? (some g) (some p)).mapError .coordinate)))
  match ← Work.ofAction (Action.reading (problemsOf s c script)) with
  | [] =>
    Work.ofAction
      (Action.say .success (script.text ++ " publishes " ++ c.group ++ ':' :: c.package))
  | ps =>
    ps.forM fun p => Work.ofAction (Action.log .error p.message)
    throw (.exit 1)

def performListClasses (source : Path) : Work Unit := do
  match ← Work.reporting Failure.isRefusal (Action.reading (Discovery.bindings source)) with
  | [] =>
    Work.ofAction (Action.echo ("No #[java_class] bindings found in " ++ source.text ++ ['\n']))
    throw (.exit 1)
  | bs =>
    Work.ofAction (Action.showTable bs)

def pluginLines (p : Text × Text) : Text :=
  "  " ++ p.1 ++ '\n' :: if p.2 = p.1 then [] else "    " ++ p.2 ++ ['\n']

def performListPlugins : Work Unit := Work.ofAction do
  Action.loadPlugins
  Action.echo ((← get).registry.listing.flatMap pluginLines)

def perform : Invocation → Work Unit
  | .init s output source build force timeout => performInit s output source build force timeout
  | .render s output => performRender s output
  | .verify s script => performVerify s script
  | .listClasses source => performListClasses source
  | .listPlugins => performListPlugins

end Command

end CrateScaffold
