import CrateScaffold.BuildScript.LineDiff
import CrateScaffold.BuildScript.Publication
import CrateScaffold.Coordinates

/-!
The verdict on a build script: what keeps it from being the rendering of a template for given
coordinates. Publication problems come first, then the lines.
-/

namespace CrateScaffold.BuildScript

inductive Problem where
  | publication (fault : PublicationFault)
  | group (actual expected : Text)
  | artifact (actual expected : Text)
  | unknownToken (name : Text)
  | line (diff : LineDiff)
  deriving DecidableEq, Repr

def Problem.message : Problem → Text
  | .publication fault => fault.message
  | .group a e => "groupId is " ++ Text.quote a ++ ", expected " ++ Text.quote e
  | .artifact a e => "artifactId is " ++ Text.quote a ++ ", expected " ++ Text.quote e
  | .unknownToken name => "Template references unknown token " ++ Text.quote name
  | .line d => d.message

def publicationProblems (script : Text) (c : Coordinates) : List Problem :=
  match Publication.read script with
  | .error fault => [.publication fault]
  | .ok p =>
    (if p.group = c.group then [] else [.group p.group c.group]) ++
      if p.artifact = c.package then [] else [.artifact p.artifact c.package]

def lineProblems (script : Text) (c : Coordinates) (template : Text) : List Problem :=
  match diff script template c.context with
  | .error name => [.unknownToken name]
  | .ok ds => ds.map .line

def problems (script : Text) (c : Coordinates) (template : Text) : List Problem :=
  publicationProblems script c ++ lineProblems script c template

end CrateScaffold.BuildScript
