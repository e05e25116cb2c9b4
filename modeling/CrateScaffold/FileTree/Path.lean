import CrateScaffold.Text.Basic

/-!
Paths. A path is kept without empty and `.` components, so paths that are written differently but
mean the same by their text alone are equal; `..` stays, since it depends on the tree.
-/

namespace CrateScaffold

inductive Anchor where
  | relative
  | root
  | double
  deriving DecidableEq, Repr

structure Path where
  anchor : Anchor
  parts : List Text
  deriving DecidableEq, Repr

def Anchor.text : Anchor → Text
  | .relative => []
  | .root => ['/']
  | .double => ['/', '/']

def Anchor.ofText : Text → Anchor
  | '/' :: '/' :: '/' :: _ => .root
  | '/' :: '/' :: _ => .double
  | '/' :: _ => .root
  | _ => .relative

namespace Path

def isPart (c : Text) : Bool := c != [] && c != ['.']

def partsOf (s : Text) : List Text := (Text.splitOn '/' s).filter isPart

def ofText (s : Text) : Path := ⟨.ofText s, partsOf s⟩

instance : Coe String Path := ⟨fun s => ofText s.toList⟩

def here : Path := ⟨.relative, []⟩

def text (p : Path) : Text :=
  match p.anchor, p.parts with
  | .relative, [] => ['.']
  | a, cs => a.text ++ Text.joinWith ['/'] cs

def isAbsolute (p : Path) : Bool := p.anchor != .relative

def join (p q : Path) : Path := if q.isAbsolute then q else ⟨p.anchor, p.parts ++ q.parts⟩

instance : HDiv Path Path Path := ⟨join⟩

def child (p : Path) (c : Text) : Path := ⟨p.anchor, p.parts ++ [c]⟩

def parent (p : Path) : Path := ⟨p.anchor, p.parts.dropLast⟩

def key (p : Path) : List Text := if p.isAbsolute then p.anchor.text :: p.parts else p.parts

def leKey : List Text → List Text → Bool
  | [], _ => true
  | _ :: _, [] => false
  | a :: as, b :: bs => if a = b then leKey as bs else Text.le a b

def le (p q : Path) : Bool := leKey p.key q.key

def leaves (p : Path) : Bool := p.isAbsolute || p.parts.contains ['.', '.']

end Path

end CrateScaffold
