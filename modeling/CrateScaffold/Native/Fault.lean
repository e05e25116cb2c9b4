import CrateScaffold.FileTree.Path
import CrateScaffold.Text.Quoted

/-!
What can go wrong while a native library is built and bundled.
-/

namespace CrateScaffold.Native

inductive Fault where
  | noCargo
  | timedOut (seconds : Int)
  | exited (code : Int)
  | interrupted
  | noArtifact (p : Path)
  | sameFile (source destination : Path) (inside : Bool)
  deriving DecidableEq, Repr

def tagged (p : Path) : Text := "PosixPath(" ++ Text.quote p.text ++ [')']

def Fault.message : Fault → Text
  | .noCargo => "cargo not found on PATH"
  | .timedOut n => "cargo build timed out after " ++ Text.ofInt n ++ " seconds"
  | .exited code => "cargo build failed with exit code " ++ Text.ofInt code
  | .interrupted => []
  | .noArtifact p => "Native artifact not found: " ++ p.text
  | .sameFile source destination inside =>
    tagged source ++ " and " ++ (if inside then Text.quote destination.text else
      tagged destination) ++ " are the same file"

end CrateScaffold.Native
