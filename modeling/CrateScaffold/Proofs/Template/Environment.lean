import CrateScaffold.Proofs.World.Effect
import CrateScaffold.Template.Evaluation

/-!
Names of environments. Entering a frame adds its names, and nothing that is assigned or run inside
changes which names there are; so the scope that a frame was made for is the one that it is entered
in.
-/

namespace CrateScaffold.Template

variable {c : Context} {env env' : Env} {n : Text} {t : Target}

theorem mem_of_lookup {β : Type} {l : List (Text × β)} {b : β} (h : l.lookup n = some b) :
    (n, b) ∈ l := by
  obtain ⟨l₁, l₂, rfl, -⟩ := List.lookup_eq_some_iff.1 h
  exact List.mem_append_right l₁ List.mem_cons_self

theorem exists_lookup_of_mem {β : Type} {l : List (Text × β)} (h : n ∈ l.map (·.1)) :
    ∃ b, l.lookup n = some b := by
  obtain ⟨p, hp, rfl⟩ := List.mem_map.1 h
  exact Option.isSome_iff_exists.1 (List.lookup_isSome_iff.2 ⟨p, hp, beq_self_eq_true p.1⟩)

namespace Env

theorem names_enter (env : Env) (c : Context) (bound : List (Text × Value)) (f : Frame) :
    (env.enter c bound f).names = f.names ++ env.names := by
  simp [enter, names, Frame.names]

theorem names_set (n : Text) (v : Value) (env : Env) : (env.set n v).names = env.names := by
  induction env with
  | nil => rfl
  | cons p env ih =>
    by_cases hp : p.1 = n
    · simp [set, names, hp]
    · simp only [set, if_neg hp]
      exact congrArg (p.1 :: ·) ih

end Env

theorem Env.names_foldl_set (bound : List (Text × Value)) (env : Env) :
    (bound.foldl (fun env p => env.set p.1 p.2) env).names = env.names := by
  induction bound generalizing env with
  | nil => rfl
  | cons p bound ih => rw [List.foldl_cons, ih, names_set]

theorem names_assign (h : assign env t v = .ok env') : env'.names = env.names := by
  obtain ⟨bound, -, hpure⟩ := bind_eq_ok.1 h
  cases hpure
  exact Env.names_foldl_set bound env

def selected (c : Context) (env : Env) (t : Target) (test : Option Expr) (xs : List Value) :
    List Value × Option Fault :=
  match test with
  | none => (xs, none)
  | some e => passing (passes c env t e) xs

def printed (c : Context) (env : Env) (t : Target) (body : List Node) (xs : List Value) :
    Result Text :=
  (numbered 1 xs).foldlM (fun out p => do
    let inner ← bodyEnv c env t body xs.length p.1 p.2
    return out ++ (← runAll c inner body).2) []

/-- The items are selected before the body sees the first of them, but a condition that failed is
found out after the last. -/
theorem run_each (c : Context) (env : Env) (t : Target) (source : Expr) (test : Option Expr)
    (body other : List Node) : (Node.each t source test body other).run c env = (do
      let xs ← items (← source.eval env)
      let out ← printed c env t body (selected c env t test xs).1
      match (selected c env t test xs).2 with
      | some f => .error f
      | none =>
        if (selected c env t test xs).1.isEmpty then
          return (env, (← runAll c (env.enter c [] (.ofSection env.names other)) other).2)
        else return (env, out)) := by
  rw [Node.run]
  rfl

mutual

theorem Node.names_run : (x : Node) → {env env' : Env} → {s : Text} →
    x.run c env = .ok (env', s) → env'.names = env.names
  | .text u, _, _, _, h => by
    cases h
    rfl
  | .print e, env, _, _, h => by
    rw [Node.run] at h
    obtain ⟨v, -, h⟩ := bind_eq_ok.1 h
    obtain ⟨u, -, hpure⟩ := bind_eq_ok.1 h
    cases hpure
    rfl
  | .choose bs other, env, _, _, h => by
    rw [Node.run] at h
    obtain ⟨chosen, hbs, h⟩ := bind_eq_ok.1 h
    cases chosen with
    | none => exact names_runAll other h
    | some r =>
      cases h
      exact names_runBranches bs hbs
  | .each t source test body other, env, _, _, h => by
    rw [run_each] at h
    obtain ⟨v, -, h⟩ := bind_eq_ok.1 h
    obtain ⟨xs, -, h⟩ := bind_eq_ok.1 h
    obtain ⟨out, -, h⟩ := bind_eq_ok.1 h
    split at h
    · cases h
    · split at h
      · obtain ⟨r, -, hpure⟩ := bind_eq_ok.1 h
        cases hpure
        rfl
      · cases h
        rfl
  | .assign t e, env, _, _, h => by
    rw [Node.run] at h
    obtain ⟨v, -, h⟩ := bind_eq_ok.1 h
    obtain ⟨env', hassign, hpure⟩ := bind_eq_ok.1 h
    cases hpure
    exact names_assign hassign
  | .capture t body, env, _, _, h => by
    rw [Node.run] at h
    obtain ⟨r, -, h⟩ := bind_eq_ok.1 h
    obtain ⟨env', hassign, hpure⟩ := bind_eq_ok.1 h
    cases hpure
    exact names_assign hassign

theorem names_runAll : (xs : List Node) → {env env' : Env} → {s : Text} →
    runAll c env xs = .ok (env', s) → env'.names = env.names
  | [], _, _, _, h => by
    cases h
    rfl
  | x :: xs, env, _, _, h => by
    rw [runAll] at h
    obtain ⟨⟨env₁, u⟩, hx, h⟩ := bind_eq_ok.1 h
    obtain ⟨⟨env₂, v⟩, hxs, hpure⟩ := bind_eq_ok.1 h
    cases hpure
    rw [names_runAll xs hxs, Node.names_run x hx]

theorem names_runBranches : (bs : List Branch) → {env env' : Env} → {s : Text} →
    runBranches c env bs = .ok (some (env', s)) → env'.names = env.names
  | [], _, _, _, h => by
    cases h
  | .of e body :: bs, env, _, _, h => by
    rw [runBranches] at h
    obtain ⟨v, -, h⟩ := bind_eq_ok.1 h
    obtain ⟨holds, -, h⟩ := bind_eq_ok.1 h
    cases holds with
    | true =>
      obtain ⟨r, hbody, hpure⟩ := bind_eq_ok.1 h
      cases hpure
      exact names_runAll body hbody
    | false => exact names_runBranches bs h

end

end CrateScaffold.Template
