import CrateScaffold.Command.Stop
import CrateScaffold.Log
import CrateScaffold.Text.Integer
import CrateScaffold.Text.Word

/-!
Invocations: what a command line asks for, once every value in it is known to be usable. Values are
checked in the order in which they were given, then those that were not.
-/

namespace CrateScaffold.Command

abbrev Environment := List (Text × Text)

def anyPath : PathRule := ⟨false, true, true⟩

def anyFile : PathRule := ⟨false, true, false⟩

def flagOf (name : String) (spellings : List String) (negations : List String) : Parameter :=
  ⟨name, spellings.map String.toList, negations.map String.toList, .flag, none, none⟩

def valueOf (name : String) (spellings : List String) (form : Form) (usual : Option Text) :
    Parameter :=
  ⟨name, spellings.map String.toList, [], form, usual, none⟩

def help : Parameter := flagOf "help" ["--help"] []

def version : Parameter := flagOf "version" ["--version"] []

def verbose : Parameter := flagOf "verbose" ["-v", "--verbose"] []

def quiet : Parameter := flagOf "quiet" ["-q", "--quiet"] []

def levels : List Text := ["debug", "info", "warning", "error", "critical"]

def level : Parameter := valueOf "level" ["--log-level"] (.choice levels) none

def group : Parameter :=
  { valueOf "group" ["-g", "--group"] .text none with key := some groupVariable }

def package : Parameter :=
  { valueOf "package" ["-p", "--package"] .text none with key := some packageVariable }

def manifest : Parameter :=
  valueOf "manifest" ["--manifest"] (.path anyFile) (some "Cargo.toml".toList)

def project : Parameter :=
  valueOf "output" ["-o", "--output-dir"] (.path anyPath) (some "kotlin".toList)

def output : Parameter := valueOf "output" ["-o", "--output"] (.path anyFile) none

def source : Parameter := valueOf "source" ["--src"] (.path anyPath) (some "src".toList)

def scanned : Parameter :=
  valueOf "source" ["--src"] (.path ⟨true, false, true⟩) (some "src".toList)

def build : Parameter := flagOf "build" ["--build"] ["--no-build"]

def force : Parameter := flagOf "force" ["--force"] []

def timeout : Parameter := valueOf "timeout" ["--timeout"] .integer (some "600".toList)

def general : List Parameter := [version, verbose, quiet, level, help]

def parameters : Command → List Parameter
  | .init => [group, package, project, source, manifest, build, force, timeout, help]
  | .render => [group, package, output, manifest, help]
  | .verify => [group, package, manifest, help]
  | .listClasses => [scanned, help]
  | .listPlugins => [help]

def argument? : Command → Option PathRule
  | .verify => some ⟨true, true, false⟩
  | _ => none

def hint (p : Parameter) : Text := Text.joinWith " / " (p.spellings.map Text.quote)

def PathRule.kind (r : PathRule) : Text :=
  if r.fileAllowed && !r.dirAllowed then "File"
  else if r.dirAllowed && !r.fileAllowed then "Directory"
  else "Path"

def endsInSlash (s : Text) : Bool := !((Text.splitOn '/' s).getLast?.any Path.isPart)

/-- What is at a path as it is written: an empty one leads nowhere, and a slash at the end asks for
a directory. -/
def entryAt (t : FileTree) (s : Text) : Except FileTree.Fault (Option Entry) :=
  if s.isEmpty then .ok none
  else
    match t.stat (.ofText s) with
    | .error .null => .error .null
    | .error _ => .ok none
    | .ok .dir => .ok (some .dir)
    | .ok e => .ok (if endsInSlash s then none else some e)

def PathRule.check (r : PathRule) (t : FileTree) (s : Text) :
    Except FileTree.Fault (Option ValueFault) := do
  match ← entryAt t s with
  | none => return if r.mustExist then some (.absent r.kind s) else none
  | some .dir => return if r.dirAllowed then none else some (.isDirectory r.kind s)
  | some (.file ..) => return if r.fileAllowed then none else some (.isFile r.kind s)

def Form.check (t : FileTree) (s : Text) : Form → Except FileTree.Fault (Option ValueFault)
  | .flag => .ok none
  | .text => .ok none
  | .integer => .ok (if (Text.toInt? s).isSome then none else some (.notInteger s))
  | .choice names =>
    .ok (if names.contains (Text.lower s) then none else some (.notChoice s names))
  | .path r => r.check t s

def stopAt (c : Option Command) (hint : Text) :
    Except FileTree.Fault (Option ValueFault) → Except Stop Unit
  | .error f => .error (.escaped (.files f))
  | .ok (some f) => .error (.usage c (.value hint f))
  | .ok none => .ok ()

def checkValue (c : Option Command) (t : FileTree) (environment : Environment) (l : Line)
    (p : Parameter) : Except Stop Unit :=
  match l.value? environment p with
  | some s => stopAt c (hint p) (p.form.check t s)
  | none => .ok ()

def checkArgument (c : Option Command) (t : FileTree) (l : Line) : Except Stop Unit :=
  match c.bind argument? with
  | none => .ok ()
  | some r =>
    match l.words with
    | [] => .error (.usage c .noArgument)
    | w :: _ => stopAt c ('\'' :: argumentName ++ ['\'']) (r.check t w)

def checkUrgent (l : Line) : Except Stop Unit :=
  match l.given.find? fun o => o.parameter == help || o.parameter == version with
  | some o => .error (if o.parameter == help then .exit 0 else .version)
  | none => .ok ()

def readLine (c : Option Command) (ps : List Parameter) (t : FileTree)
    (environment : Environment) (ws : List Text) : Except Stop Line := do
  let l ← (Line.read ps c.isSome ws).mapError (.ofWord c)
  checkUrgent l
  l.occurring.forM (checkValue c t environment l)
  checkArgument c t l
  (ps.filter (!l.occurring.contains ·)).forM (checkValue c t environment l)
  return l

def checkExtra (c : Command) (l : Line) : Except Stop Unit :=
  match if (argument? c).isSome then l.words.drop 1 else l.words with
  | [] => .ok ()
  | ws => .error (.usage (some c) (.extra ws))

structure Selection where
  group : Option Text
  package : Option Text
  manifest : Path
  deriving DecidableEq, Repr

end Command

open Command in
inductive Invocation where
  | init (s : Selection) (output source : Path) (build force : Bool) (timeout : Int)
  | render (s : Selection) (output : Option Path)
  | verify (s : Selection) (script : Path)
  | listClasses (source : Path)
  | listPlugins
  deriving DecidableEq, Repr

namespace Command

def pathOf (l : Line) (p : Parameter) : Path := .ofText ((l.value? [] p).getD [])

def selection (l : Line) (environment : Environment) : Selection :=
  ⟨l.value? environment group, l.value? environment package, pathOf l manifest⟩

def invocation (c : Command) (environment : Environment) (l : Line) : Invocation :=
  match c with
  | .init =>
    .init (selection l environment) (pathOf l project) (pathOf l source) (l.isSet build)
      (l.isSet force) ((((l.value? [] timeout).bind Text.toInt?)).getD 0)
  | .render => .render (selection l environment) ((l.value? [] output).map .ofText)
  | .verify => .verify (selection l environment) (.ofText (l.words.head?.getD []))
  | .listClasses => .listClasses (pathOf l scanned)
  | .listPlugins => .listPlugins

def isContradictory (v : Verbosity) : Bool :=
  1 < ([v.verbose, v.quiet, v.level.isSome].filter id).length

def verbosity (l : Line) : Verbosity :=
  ⟨l.isSet verbose, l.isSet quiet, l.value? [] level⟩

def commandOf (t : FileTree) (environment : Environment) (w : Text) (ws : List Text) :
    Except Stop Command := do
  match ofName? w with
  | some c => return c
  | none =>
    if w.head?.any fun c => c == '_' || !Text.isWord c then
      let _ ← readLine none general t environment (w :: ws)
    .error (.usage none (.unknownCommand w))

def read (t : FileTree) (environment : Environment) (ws : List Text) :
    Except Stop (Verbosity × Invocation) := do
  let l ← readLine none general t environment ws
  match l.words with
  | [] => .error (.usage none .noCommand)
  | w :: ws =>
    let c ← commandOf t environment w ws
    if isContradictory (verbosity l) then .error (.usage none .exclusive)
    let line ← readLine (some c) (parameters c) t environment ws
    checkExtra c line
    return (verbosity l, invocation c environment line)

end Command

end CrateScaffold
