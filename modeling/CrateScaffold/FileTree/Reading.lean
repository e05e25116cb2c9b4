import CrateScaffold.FileTree.Access
import CrateScaffold.Text.Lines

/-!
Reading the text of a file, as it stands or with its line breaks folded.
-/

namespace CrateScaffold.FileTree

inductive ReadFault where
  | files (f : Fault)
  | decoding (f : Utf8.Fault)
  deriving DecidableEq, Repr

def ReadFault.message : ReadFault → Text
  | .files f => f.message
  | .decoding f => f.message

def readExact (t : FileTree) (p : Path) : Except ReadFault Text := do
  let content ← (t.read p).mapError .files
  (Utf8.decode content).mapError .decoding

def readText (t : FileTree) (p : Path) : Except ReadFault Text :=
  (t.readExact p).map Text.foldBreaks

end CrateScaffold.FileTree
