import CrateScaffold.Value.Basic

/-!
Templates as trees. An expression keeps the line of what may be missing later: names, filters,
tests and branches without an alternative.
-/

namespace CrateScaffold.Template

inductive Arith where
  | add | sub | mul | div | quotient | remainder | power
  deriving DecidableEq, Repr

inductive Relation where
  | eq | ne | lt | le | gt | ge | within | without
  deriving DecidableEq, Repr

/-- `dict` holds keys and values in turn; `compare` relates each operand to the next one. -/
inductive Expr where
  | const (v : Value)
  | name (n : Text) (line : Nat)
  | list (items : List Expr)
  | tuple (items : List Expr)
  | dict (items : List Expr)
  | attribute (e : Expr) (n : Text)
  | item (e index : Expr)
  | call (f : Expr) (args : List Expr)
  | filter (n : Text) (line : Nat) (e : Expr) (args : List Expr)
  | test (n : Text) (line : Nat) (e : Expr) (args : List Expr)
  | negate (e : Expr)
  | plus (e : Expr)
  | not (e : Expr)
  | arith (op : Arith) (l r : Expr)
  | concat (parts : List Expr)
  | compare (first : Expr) (relations : List Relation) (operands : List Expr)
  | and (l r : Expr)
  | or (l r : Expr)
  | branch (line : Nat) (condition yes : Expr)
  | choice (condition yes no : Expr)

def Expr.kind : Expr → Text
  | .const _ => "const"
  | .name .. => "name"
  | .list _ => "list"
  | .tuple _ => "tuple"
  | .dict _ => "dict"
  | .attribute .. => "getattr"
  | .item .. => "getitem"
  | .call .. => "call"
  | .filter .. => "filter"
  | .test .. => "test"
  | .negate _ => "neg"
  | .plus _ => "pos"
  | .not _ => "not"
  | .arith .add .. => "add"
  | .arith .sub .. => "sub"
  | .arith .mul .. => "mul"
  | .arith .div .. => "div"
  | .arith .quotient .. => "floordiv"
  | .arith .remainder .. => "mod"
  | .arith .power .. => "pow"
  | .concat _ => "concat"
  | .compare .. => "compare"
  | .and .. => "and"
  | .or .. => "or"
  | .branch .. => "condexpr"
  | .choice .. => "condexpr"

inductive Target where
  | name (n : Text) (line : Nat)
  | tuple (items : List Target)

mutual

def Target.names : Target → List (Text × Nat)
  | .name n line => [(n, line)]
  | .tuple ts => namesOf ts

def namesOf : List Target → List (Text × Nat)
  | [] => []
  | t :: ts => t.names ++ namesOf ts

end

mutual

def Target.ofExpr? : Expr → Option Target
  | .name n line => some (.name n line)
  | .tuple es => (ofExprs? es).map .tuple
  | _ => none

def ofExprs? : List Expr → Option (List Target)
  | [] => some []
  | e :: es => (Target.ofExpr? e).bind fun t => (ofExprs? es).map (t :: ·)

end

mutual

inductive Node where
  | text (s : Text)
  | print (e : Expr)
  | choose (branches : List Branch) (otherwise : List Node)
  | each (target : Target) (source : Expr) (test : Option Expr) (body otherwise : List Node)
  | assign (target : Target) (e : Expr)
  | capture (target : Target) (body : List Node)

inductive Branch where
  | of (condition : Expr) (body : List Node)

end

instance : Inhabited Expr := ⟨.const .null⟩

end CrateScaffold.Template
