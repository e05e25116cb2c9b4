import CrateScaffold.Value.Basic

/-!
Documents of tables. A table that is only implied by a header or a dotted key may be extended later;
one with a header of its own and an inline table may not.
-/

namespace CrateScaffold.Toml

inductive Node where
  | value (v : Value)
  | table (explicit dotted : Bool) (nodes : List (Text × Node))
  | tables (elements : List Node)

abbrev Table := List (Text × Node)

inductive Conflict where
  | key (name : Text)
  | redefinition
  deriving DecidableEq, Repr

def replaceNode (t : Table) (k : Text) (n : Node) : Table :=
  t.map fun p => if p.1 = k then (k, n) else p

mutual

def addNode (t : Table) (k : Text) : Node → Except Conflict Table
  | .value v =>
    match t.lookup k with
    | none => .ok (t ++ [(k, .value v)])
    | some _ => .error (.key k)
  | .tables ns =>
    match t.lookup k with
    | none => .ok (t ++ [(k, .tables ns)])
    | some (.tables ms) => .ok (replaceNode t k (.tables (ms ++ ns)))
    | some _ => .error (.key k)
  | .table explicit dotted ns =>
    match t.lookup k with
    | none => .ok (t ++ [(k, .table explicit dotted ns)])
    | some (.table explicit' dotted' ms) =>
      if explicit && explicit' then .error (.key k)
      else if explicit && dotted' then .error .redefinition
      else (addNodes ms ns).map fun ms =>
        replaceNode t k (.table (explicit || explicit') (dotted && dotted') ms)
    | some _ => .error (.key k)

def addNodes (t : Table) : List (Text × Node) → Except Conflict Table
  | [] => .ok t
  | (k, n) :: ns => do addNodes (← addNode t k n) ns

end

def nest (dotted : Bool) (n : Node) : List Text → Node
  | [] => n
  | k :: ks => .table false dotted [(k, nest dotted n ks)]

mutual

def Node.toValue : Node → Value
  | .value v => v
  | .table _ _ ns => .table (nodeEntries ns)
  | .tables ns => .list (nodeValues ns)

def nodeValues : List Node → List Value
  | [] => []
  | n :: ns => n.toValue :: nodeValues ns

def nodeEntries : List (Text × Node) → List (Value × Value)
  | [] => []
  | (k, n) :: ns => (.text k, n.toValue) :: nodeEntries ns

end

end CrateScaffold.Toml
