import CrateScaffold.Template.Syntax

/-!
Scopes of a template. The whole template, the body of a loop, its alternative, its condition and a
captured section each have a frame of their own. A frame holds every name that is first used in it
and says where its value comes from when the frame is entered; an assignment never reaches an outer
frame.
-/

namespace CrateScaffold.Template

/-- Where a name gets its first value from: it is bound on entry, looked up in the context, copied
from an outer frame, or has none. -/
inductive Origin where
  | bound
  | context
  | outer
  | unset
  deriving DecidableEq, Repr

structure Frame where
  origins : List (Text × Origin)
  assigned : List Text
  deriving Repr

namespace Frame

def empty : Frame := ⟨[], []⟩

def names (f : Frame) : List Text := f.origins.map (·.1)

def put (f : Frame) (n : Text) (o : Origin) : Frame :=
  if f.names.contains n then
    { f with origins := f.origins.map fun p => if p.1 = n then (n, o) else p }
  else { f with origins := f.origins ++ [(n, o)] }

def bind (f : Frame) (n : Text) : Frame := { f.put n .bound with assigned := n :: f.assigned }

/-- The frame after a use of a name; `outer` holds the names of the outer frames. -/
def load (outer : List Text) (f : Frame) (n : Text) : Frame :=
  if f.names.contains n || outer.contains n then f else f.put n .context

def store (outer : List Text) (f : Frame) (n : Text) : Frame :=
  let f := { f with assigned := n :: f.assigned }
  if f.names.contains n then f else f.put n (if outer.contains n then .outer else .unset)

/-- The frame after one of several branches. A name that only some of them assign has the value
that it would have without them. -/
def join (outer : List Text) (f : Frame) (branches : List Frame) : Frame :=
  let merged := branches.foldl (fun g b =>
    { b.origins.foldl (fun g p => g.put p.1 p.2) g with assigned := b.assigned ++ g.assigned }) f
  let fresh := (branches.flatMap (·.assigned)).filter (!f.assigned.contains ·)
  fresh.foldl (fun g n => g.put n (if outer.contains n then .outer else .context)) merged

end Frame

mutual

def Expr.uses : Expr → List Text
  | .const _ => []
  | .name n _ => [n]
  | .list es => usesAll es
  | .tuple es => usesAll es
  | .dict es => usesAll es
  | .attribute e _ => e.uses
  | .item e i => e.uses ++ i.uses
  | .call f es => f.uses ++ usesAll es
  | .filter _ _ e es => e.uses ++ usesAll es
  | .test _ _ e es => e.uses ++ usesAll es
  | .negate e => e.uses
  | .plus e => e.uses
  | .not e => e.uses
  | .arith _ l r => l.uses ++ r.uses
  | .concat es => usesAll es
  | .compare e _ es => e.uses ++ usesAll es
  | .and l r => l.uses ++ r.uses
  | .or l r => l.uses ++ r.uses
  | .branch _ c e => c.uses ++ e.uses
  | .choice c e e' => c.uses ++ (e.uses ++ e'.uses)

def usesAll : List Expr → List Text
  | [] => []
  | e :: es => e.uses ++ usesAll es

end

namespace Frame

def loads (outer : List Text) (f : Frame) (e : Expr) : Frame := e.uses.foldl (load outer) f

def stores (outer : List Text) (f : Frame) (t : Target) : Frame :=
  (t.names.map (·.1)).foldl (store outer) f

def binds (f : Frame) (t : Target) : Frame := (t.names.map (·.1)).foldl bind f

mutual

def visit (outer : List Text) (f : Frame) : Node → Frame
  | .text _ => f
  | .print e => f.loads outer e
  | .choose bs other =>
    let g := visitFirst outer f bs
    join outer g.1 (g.2 ++ [visitAll outer g.1 other])
  | .each _ source _ _ _ => f.loads outer source
  | .assign t e => (f.loads outer e).stores outer t
  | .capture t _ => f.stores outer t

def visitAll (outer : List Text) (f : Frame) : List Node → Frame
  | [] => f
  | n :: ns => visitAll outer (visit outer f n) ns

def visitFirst (outer : List Text) (f : Frame) : List Branch → Frame × List Frame
  | [] => (f, [])
  | .of c body :: bs =>
    let g := f.loads outer c
    (g, [visitAll outer g body, visitRest outer g bs])

def visitRest (outer : List Text) (f : Frame) : List Branch → Frame
  | [] => f
  | .of c body :: bs =>
    let g := f.loads outer c
    visitRest outer (join outer g [visitAll outer g body, g, g]) bs

end

end Frame

mutual

def Node.mentions (n : Text) : Node → Bool
  | .text _ => false
  | .print e => e.uses.contains n
  | .choose bs other => branchesMention n bs || mentionsAny n other
  | .each _ source test body other =>
    source.uses.contains n || mentionsAny n body || mentionsAny n other ||
      test.any (·.uses.contains n)
  | .assign _ e => e.uses.contains n
  | .capture _ body => mentionsAny n body

def mentionsAny (n : Text) : List Node → Bool
  | [] => false
  | x :: xs => x.mentions n || mentionsAny n xs

def Branch.mentions (n : Text) : Branch → Bool
  | .of c body => c.uses.contains n || mentionsAny n body

def branchesMention (n : Text) : List Branch → Bool
  | [] => false
  | b :: bs => b.mentions n || branchesMention n bs

end

def loopName : Text := "loop"

namespace Frame

def ofTemplate (ns : List Node) : Frame := visitAll [] empty ns

def ofBody (outer : List Text) (t : Target) (body : List Node) : Frame :=
  let f := if mentionsAny loopName body then empty.bind loopName else empty
  visitAll outer (f.binds t) body

def ofTest (outer : List Text) (t : Target) (test : Expr) : Frame :=
  (empty.binds t).loads outer test

def ofSection (outer : List Text) (ns : List Node) : Frame := visitAll outer empty ns

def free (f : Frame) : List Text := (f.origins.filter (·.2 == .context)).map (·.1)

end Frame

mutual

def Node.free (scope : List Text) : Node → List Text
  | .text _ => []
  | .print _ => []
  | .choose bs other => freeInBranches scope bs ++ freeInside scope other
  | .each t _ test body other =>
    let f := Frame.ofBody scope t body
    let g := Frame.ofSection scope other
    (test.map fun e => (Frame.ofTest scope t e).free).getD [] ++
      (f.free ++ freeInside (f.names ++ scope) body) ++
      (g.free ++ freeInside (g.names ++ scope) other)
  | .assign .. => []
  | .capture _ body =>
    let f := Frame.ofSection scope body
    f.free ++ freeInside (f.names ++ scope) body

def freeInside (scope : List Text) : List Node → List Text
  | [] => []
  | n :: ns => n.free scope ++ freeInside scope ns

def freeInBranches (scope : List Text) : List Branch → List Text
  | [] => []
  | b :: bs => b.free scope ++ freeInBranches scope bs

def Branch.free (scope : List Text) : Branch → List Text
  | .of _ body => freeInside scope body

end

def globals : List Text := ["cycler", "dict", "joiner", "lipsum", "namespace", "range"]

def freeNames (ns : List Node) : List Text :=
  let f := Frame.ofTemplate ns
  (f.free ++ freeInside f.names ns).filter (!globals.contains ·)

theorem mem_freeNames_or_mem_globals {n : Text} {ns : List Node}
    (h : n ∈ (Frame.ofTemplate ns).free ++ freeInside (Frame.ofTemplate ns).names ns) :
    n ∈ freeNames ns ∨ n ∈ globals := by
  by_cases hg : n ∈ globals
  · exact .inr hg
  · exact .inl (List.mem_filter.2 ⟨h, by simpa using hg⟩)

end CrateScaffold.Template
