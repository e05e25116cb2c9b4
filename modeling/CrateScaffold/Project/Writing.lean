import CrateScaffold.Project.Plan

/-!
Writing a plan: the directories first, then file by file. A project that is there is not replaced
unless that is asked for.
-/

namespace CrateScaffold.Project

def script (output : Path) : Path := output / ("build.gradle.kts" : Path)

def checkOverwrite (output : Path) (force : Bool) : Reading Unit := do
  if ← .ofTree fun t => (t.holds (script output)).mapError .files then
    if !force then .fail (.projectExists (script output))

def makeDirectories (output : Path) : List Path → Action Unit
  | [] => return
  | d :: ds => do
    Action.makeDirs (output / d)
    makeDirectories output ds

def writeFile (output : Path) (f : PlannedFile) : Action Path := do
  let p := output / f.path
  Action.makeDirs p.parent
  Action.change (·.write p f.content.encode)
  if f.executable.isTrue then Action.change (·.makeExecutable p)
  Action.log .debug ("Wrote " ++ p.text)
  return p

def writeFiles (output : Path) : List PlannedFile → Action (List Path)
  | [] => return []
  | f :: fs => do
    let p ← writeFile output f
    return p :: (← writeFiles output fs)

def write (output : Path) (files : List PlannedFile) (directories : List Path) :
    Action (List Path) := do
  makeDirectories output directories
  writeFiles output files

end CrateScaffold.Project
