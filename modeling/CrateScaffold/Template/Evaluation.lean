import CrateScaffold.Template.Filter
import CrateScaffold.Template.Scope

/-!
Evaluation. An environment holds the names of all frames around a node, the innermost first; a name
in it may still have no value. What a frame takes from the context it takes when it is entered.
-/

namespace CrateScaffold.Template

abbrev Context := List (Text × Value)

def Context.value? (c : Context) (n : Text) : Option Value :=
  (c.lookup n).or (if globals.contains n then some (.builtin n) else none)

abbrev Env := List (Text × Option Value)

namespace Env

def value? (env : Env) (n : Text) : Option Value := (env.lookup n).bind id

def read (env : Env) (n : Text) : Value := (env.value? n).getD (.undefined (.name n))

def set (n : Text) (v : Value) : Env → Env
  | [] => []
  | (k, w) :: env => if k = n then (k, some v) :: env else (k, w) :: set n v env

def names (env : Env) : List Text := env.map (·.1)

def enter (env : Env) (c : Context) (bound : List (Text × Value)) (f : Frame) : Env :=
  f.origins.map (fun p =>
    (p.1, match p.2 with
      | .bound => bound.lookup p.1
      | .context => c.value? p.1
      | .outer => env.value? p.1
      | .unset => none)) ++ env

end Env

mutual

def Target.unpack : Target → Value → Result (List (Text × Value))
  | .name n _, v => .ok [(n, v)]
  | .tuple ts, v => do
    let v ← tolerated v
    match items? v with
    | none => wrong (.unpacking v.kind)
    | some xs =>
      if xs.length < ts.length then .error (.range (.unpackFew ts.length xs.length))
      else if ts.length < xs.length then .error (.range (.unpackMany ts.length))
      else unpackAll ts xs

def unpackAll : List Target → List Value → Result (List (Text × Value))
  | [], _ => .ok []
  | _ :: _, [] => .ok []
  | t :: ts, v :: vs => do return (← t.unpack v) ++ (← unpackAll ts vs)

end

def entriesOf (es : List (Value × Value)) : List Value → Result (List (Value × Value))
  | k :: v :: vs => do entriesOf (Value.insert (← hashable k) v es) vs
  | _ => .ok es

def held (vs : List Value) : Result (List Value) :=
  if vs.any Value.isHandle then .error .uncovered else .ok vs

mutual

def Expr.eval (env : Env) : Expr → Result Value
  | .const v => .ok v
  | .name n _ => .ok (env.read n)
  | .list es => do return .list (← held (← evalAll env es))
  | .tuple es => do return .tuple (← held (← evalAll env es))
  | .dict es => do return .table (← entriesOf [] (← held (← evalAll env es)))
  | .attribute e n => do attributeOf (← e.eval env) n
  | .item e i => do
    let v ← e.eval env
    itemOf v (← i.eval env)
  | .call f es => do
    let f ← f.eval env
    call f (← evalAll env es)
  | .filter n _ e es => do
    let v ← e.eval env
    applyFilter n v (← evalAll env es)
  | .test n _ e es => do
    let v ← e.eval env
    return .bool (← applyTest n v (← evalAll env es))
  | .negate e => do withSign true (← e.eval env)
  | .plus e => do withSign false (← e.eval env)
  | .not e => do return .bool (!(← truth (← e.eval env)))
  | .arith op l r => do
    let v ← l.eval env
    arith op v (← r.eval env)
  | .concat es => do
    let ts ← (← evalAll env es).mapM textOf
    return .text ts.flatten
  | .compare e rs es => do
    let v ← e.eval env
    compareChain env v rs es
  | .and l r => do
    let v ← l.eval env
    if ← truth v then r.eval env else return v
  | .or l r => do
    let v ← l.eval env
    if ← truth v then return v else r.eval env
  | .branch line c e => do
    if ← truth (← c.eval env) then e.eval env else return .undefined (.branch line)
  | .choice c e e' => do
    if ← truth (← c.eval env) then e.eval env else e'.eval env

def evalAll (env : Env) : List Expr → Result (List Value)
  | [] => .ok []
  | e :: es => do
    let v ← e.eval env
    return v :: (← evalAll env es)

def compareChain (env : Env) (v : Value) (rs : List Relation) : List Expr → Result Value
  | [] => .ok (.bool true)
  | e :: es =>
    match rs with
    | [] => .ok (.bool true)
    | r :: rs => do
      let w ← e.eval env
      if ← relate r v w then compareChain env w rs es else return .bool false

end

def assign (env : Env) (t : Target) (v : Value) : Result Env := do
  return (← t.unpack v).foldl (fun env p => env.set p.1 p.2) env

def passing (keep : Value → Result Bool) : List Value → List Value × Option Fault
  | [] => ([], none)
  | x :: xs =>
    match keep x with
    | .error f => ([], some f)
    | .ok b =>
      let (ys, f) := passing keep xs
      (if b then x :: ys else ys, f)

def numbered (n : Nat) : List Value → List (Nat × Value)
  | [] => []
  | x :: xs => (n, x) :: numbered (n + 1) xs

def bodyEnv (c : Context) (env : Env) (t : Target) (body : List Node) (total index : Nat)
    (x : Value) : Result Env := do
  let bound ← t.unpack x
  return env.enter c (bound.reverse ++ [(loopName, .loop index total)]) (.ofBody env.names t body)

def passes (c : Context) (env : Env) (t : Target) (test : Expr) (x : Value) : Result Bool := do
  let bound ← t.unpack x
  truth (← test.eval (env.enter c bound.reverse (.ofTest env.names t test)))

mutual

def Node.run (c : Context) (env : Env) : Node → Result (Env × Text)
  | .text s => .ok (env, s)
  | .print e => do return (env, ← textOf (← e.eval env))
  | .choose bs other => do
    match ← runBranches c env bs with
    | some r => return r
    | none => runAll c env other
  | .each t source test body other => do
    let xs ← items (← source.eval env)
    let (xs, fault) := match test with
      | none => (xs, none)
      | some e => passing (passes c env t e) xs
    let out ← (numbered 1 xs).foldlM (fun out p => do
      let inner ← bodyEnv c env t body xs.length p.1 p.2
      return out ++ (← runAll c inner body).2) []
    match fault with
    | some f => .error f
    | none =>
      if xs.isEmpty then
        return (env, (← runAll c (env.enter c [] (.ofSection env.names other)) other).2)
      else return (env, out)
  | .assign t e => do
    let v ← e.eval env
    return (← assign env t v, [])
  | .capture t body => do
    let (_, s) ← runAll c (env.enter c [] (.ofSection env.names body)) body
    return (← assign env t (.text s), [])

def runAll (c : Context) (env : Env) : List Node → Result (Env × Text)
  | [] => .ok (env, [])
  | n :: ns => do
    let (env, s) ← n.run c env
    let (env, t) ← runAll c env ns
    return (env, s ++ t)

def runBranches (c : Context) (env : Env) : List Branch → Result (Option (Env × Text))
  | [] => .ok none
  | .of e body :: bs => do
    if ← truth (← e.eval env) then return some (← runAll c env body)
    else runBranches c env bs

end

def run (c : Context) (ns : List Node) : Result Text := do
  return (← runAll c (Env.enter [] c [] (.ofTemplate ns)) ns).2

end CrateScaffold.Template
