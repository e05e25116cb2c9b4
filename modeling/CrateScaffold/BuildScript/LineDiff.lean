import CrateScaffold.BuildScript.Placeholder
import CrateScaffold.Text.Quoted

/-!
Line differences between a script and the lines that its template stands for. Nothing is matched
up: line `n` is compared with line `n`.
-/

namespace CrateScaffold.BuildScript

structure LineDiff where
  line : Nat
  expected : Option Text
  actual : Option Text
  deriving DecidableEq, Repr

def LineDiff.message (d : LineDiff) : Text :=
  "line " ++ Text.ofNat d.line ++ ": " ++
    match d.expected, d.actual with
    | some e, some a => "expected " ++ Text.quote e ++ ", found " ++ Text.quote a
    | some e, none => "missing, expected " ++ Text.quote e
    | none, some a => "unexpected " ++ Text.quote a
    | none, none => "missing"

def extraFrom (n : Nat) : List Text → List LineDiff
  | [] => []
  | a :: as => ⟨n, none, some a⟩ :: extraFrom (n + 1) as

def diffFrom (n : Nat) : List Text → List Text → List LineDiff
  | [], as => extraFrom n as
  | e :: es, [] => ⟨n, some e, none⟩ :: diffFrom (n + 1) es []
  | e :: es, a :: as =>
    if e = a then diffFrom (n + 1) es as else ⟨n, some e, some a⟩ :: diffFrom (n + 1) es as

def diff (rendered template : Text) (values : List (Text × Text)) :
    Except Text (List LineDiff) :=
  (expectedLines template values).map (diffFrom 1 · (Text.lines rendered))

theorem diffFrom_self (n : Nat) (ls : List Text) : diffFrom n ls ls = [] := by
  induction ls generalizing n with
  | nil => rfl
  | cons l ls ih => simp [diffFrom, ih]

theorem diffFrom_eq_nil_iff {n : Nat} {es as : List Text} : diffFrom n es as = [] ↔ es = as := by
  refine ⟨fun h => ?_, fun h => h ▸ diffFrom_self n as⟩
  fun_induction diffFrom n es as with
  | case1 n as => cases as <;> simp_all [extraFrom]
  | case2 | case4 => cases h
  | case3 n es as e ih => rw [ih h]

end CrateScaffold.BuildScript
