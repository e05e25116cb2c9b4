import CrateScaffold.FileTree.Basic
import CrateScaffold.Text.Quoted

/-!
Access to a tree by paths. A path is followed component by component: each but the last has to be a
directory, `..` leads to the directory above, and no component is longer than 255 bytes.
-/

namespace CrateScaffold.FileTree

inductive Cause where
  | absent
  | present
  | notDirectory
  | isDirectory
  | nameTooLong
  deriving DecidableEq, Repr

def Cause.number : Cause → Nat
  | .absent => 2
  | .present => 17
  | .notDirectory => 20
  | .isDirectory => 21
  | .nameTooLong => 36

def Cause.text : Cause → Text
  | .absent => "No such file or directory"
  | .present => "File exists"
  | .notDirectory => "Not a directory"
  | .isDirectory => "Is a directory"
  | .nameTooLong => "File name too long"

inductive Fault where
  | system (cause : Cause) (path : Path)
  | null
  deriving DecidableEq, Repr

def Fault.message : Fault → Text
  | .system c p => "[Errno " ++ Text.ofNat c.number ++ "] " ++ c.text ++ ": " ++ Text.quote p.text
  | .null => "embedded null byte"

def follow (t : FileTree) (d : Location) : List Text → Except Cause (Location × Option Entry)
  | [] => .ok (d, some .dir)
  | c :: cs =>
    if c = ['.', '.'] then follow t d.dropLast cs
    else if 255 < (Utf8.encode c).length then .error .nameTooLong
    else
      match t.at? (d ++ [c]), cs with
      | some .dir, cs => follow t (d ++ [c]) cs
      | e, [] => .ok (d ++ [c], e)
      | none, _ :: _ => .error .absent
      | some (.file ..), _ :: _ => .error .notDirectory

def hasNull (p : Path) : Bool := p.parts.any fun c => '\x00' ∈ c

def locate (t : FileTree) (p : Path) : Except Fault (Location × Option Entry) :=
  if hasNull p then .error .null else (follow t [] p.parts).mapError (.system · p)

def stat (t : FileTree) (p : Path) : Except Fault Entry := do
  match ← t.locate p with
  | (_, some e) => return e
  | (_, none) => .error (.system .absent p)

def look (t : FileTree) (p : Path) : Except Fault (Option Entry) :=
  match t.stat p with
  | .ok e => .ok (some e)
  | .error (.system .nameTooLong q) => .error (.system .nameTooLong q)
  | .error _ => .ok none

def holds (t : FileTree) (p : Path) : Except Fault Bool := (t.look p).map (·.isSome)

def isDir (t : FileTree) (p : Path) : Except Fault Bool := (t.look p).map (· == some .dir)

def isFile (t : FileTree) (p : Path) : Bool :=
  match t.stat p with
  | .ok (.file ..) => true
  | _ => false

def read (t : FileTree) (p : Path) : Except Fault Bytes := do
  match ← t.stat p with
  | .file content _ => return content
  | .dir => .error (.system .isDirectory p)

def makeDir (t : FileTree) (p : Path) : Except Fault FileTree := do
  match ← t.locate p with
  | (l, none) => return t.put l .dir
  | (_, some _) => .error (.system .present p)

def write (t : FileTree) (p : Path) (content : Bytes) : Except Fault FileTree := do
  match ← t.locate p with
  | (l, none) => return t.put l (.file content false)
  | (l, some (.file _ executable)) => return t.put l (.file content executable)
  | (_, some .dir) => .error (.system .isDirectory p)

def makeExecutable (t : FileTree) (p : Path) : Except Fault FileTree := do
  match ← t.locate p with
  | (l, some (.file content _)) => return t.put l (.file content true)
  | (_, some .dir) => return t
  | (_, none) => .error (.system .absent p)

def unlessDir (t : FileTree) (p : Path) (f : Fault) : Except Fault Unit :=
  match t.isDir p with
  | .ok true => .ok ()
  | _ => .error f

/-- Makes the directory whose components are, from the last to the first, `up`, and before it those
above. What was made stays, also after a fault. -/
def makeDirsUp (a : Anchor) : List Text → FileTree → Except Fault Unit × FileTree
  | [], t =>
    match t.makeDir ⟨a, []⟩ with
    | .ok t' => (.ok (), t')
    | .error f => (t.unlessDir ⟨a, []⟩ f, t)
  | c :: up, t =>
    let p : Path := ⟨a, (c :: up).reverse⟩
    match t.makeDir p with
    | .ok t' => (.ok (), t')
    | .error (.system .absent _) =>
      match makeDirsUp a up t with
      | (.error f, t') => (.error f, t')
      | (.ok _, t') =>
        match t'.makeDir p with
        | .ok t'' => (.ok (), t'')
        | .error (.system .absent q) => (.error (.system .absent q), t')
        | .error f => (t'.unlessDir p f, t')
    | .error .null => (.error .null, t)
    | .error f => (t.unlessDir p f, t)

def makeDirs (t : FileTree) (p : Path) : Except Fault Unit × FileTree :=
  makeDirsUp p.anchor p.parts.reverse t

def below (t : FileTree) (p : Path) (suffix : Text) : Except Fault (List Path) := do
  match ← t.look p with
  | some .dir =>
    let (l, _) ← t.locate p
    let found := t.filterMap fun e =>
      let rest := e.1.drop l.length
      if l.isPrefixOf e.1 && (rest.getLast?.any (Text.endsWith · suffix)) then
        some (Path.mk p.anchor (p.parts ++ rest))
      else none
    return found.mergeSort Path.le
  | _ => return []

end CrateScaffold.FileTree
