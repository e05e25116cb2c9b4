import CrateScaffold.Reading

/-!
The rendering of a named template of a library. It begins only when the context supplies every name
that the template may look up.
-/

namespace CrateScaffold.Template

def buildScriptName : Text := "gradle/build.gradle.kts"

namespace Library

def source (l : Library) (name : Text) : Reading Text :=
  .ofTree fun t => (l.load t name).mapError .load

def lookups (l : Library) (name : Text) : Reading (List Text) := do
  let source ← l.source name
  .ofSite fun s => (s.engine.names source).mapError .template

def checkTokens (e : Engine) (name source : Text) (c : Context) : Except Failure Unit :=
  match e.missing source c with
  | .error f => .error (.template f)
  | .ok [] => .ok ()
  | .ok names => .error (.tokens name names)

def render (l : Library) (name : Text) (c : Context) : Reading Text := do
  let source ← l.source name
  .ofSite fun s => checkTokens s.engine name source c
  .log .debug ("Rendering template " ++ name)
  .ofSite fun s => (s.engine.text (l.load s.files) source c).mapError .template

def contextOf (c : Coordinates) : Context := c.context.map fun p => (p.1, .text p.2)

def renderBuildScript (l : Library) (c : Coordinates) : Reading Text :=
  l.render buildScriptName (contextOf c)

end Library

end CrateScaffold.Template
