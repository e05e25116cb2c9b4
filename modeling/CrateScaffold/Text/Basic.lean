/-!
Texts are lists of characters, so every rule on them is a recursion on data. Here: prefixes,
searching, cutting and joining, and decimal numerals.
-/

namespace CrateScaffold

abbrev Text := List Char

instance : Coe String Text := ⟨String.toList⟩

end CrateScaffold

def Char.within (c : Char) (table : List (Nat × Nat)) : Bool :=
  table.any fun r => r.1 ≤ c.toNat && c.toNat ≤ r.2

namespace CrateScaffold.Text

def after? : Text → Text → Option Text
  | [], s => some s
  | _ :: _, [] => none
  | a :: p, b :: s => if a = b then after? p s else none

@[simp] theorem after?_nil (s : Text) : after? [] s = some s := by cases s <;> rfl

@[simp] theorem after?_append (p s : Text) : after? p (p ++ s) = some s := by
  induction p with
  | nil => simp
  | cons a p ih => simp [after?, ih]

theorem eq_append_of_after? {p s r : Text} (h : after? p s = some r) : s = p ++ r := by
  induction p generalizing s with
  | nil => simpa using h
  | cons a p ih =>
    cases s with
    | nil => simp [after?] at h
    | cons b s =>
      by_cases hab : a = b
      · simp [after?, hab] at h; simp [hab, ih h]
      · simp [after?, hab] at h

def startsWith (s p : Text) : Bool := (after? p s).isSome

def endsWith (s p : Text) : Bool := startsWith s.reverse p.reverse

def cut? (p : Text) : Text → Option (Text × Text)
  | [] => if p = [] then some ([], []) else none
  | c :: s =>
    match after? p (c :: s) with
    | some r => some ([], r)
    | none => (cut? p s).map fun x => (c :: x.1, x.2)

theorem eq_of_cut? {p s a b : Text} (h : cut? p s = some (a, b)) : s = a ++ p ++ b := by
  induction s generalizing a with
  | nil => simp only [cut?] at h; split at h <;> simp_all
  | cons c s ih =>
    simp only [cut?] at h
    split at h
    · next r hr => cases h; simpa using eq_append_of_after? hr
    · obtain ⟨⟨x, y⟩, hxy, he⟩ := Option.map_eq_some_iff.1 h
      cases he
      simp [ih hxy]

def contains (s p : Text) : Bool := (cut? p s).isSome

/-- Puts `new` for each `old`, from left to right; `skip` characters are already replaced. -/
def replaceFrom (old new : Text) : Nat → Text → Text
  | _, [] => []
  | skip + 1, _ :: s => replaceFrom old new skip s
  | 0, c :: s =>
    if startsWith (c :: s) old then new ++ replaceFrom old new (old.length - 1) s
    else c :: replaceFrom old new 0 s

def replace (old new s : Text) : Text :=
  if old = [] then new ++ s.flatMap fun c => c :: new else replaceFrom old new 0 s

def mapChar (old new : Char) (s : Text) : Text := s.map fun c => if c = old then new else c

def splitOn (sep : Char) : Text → List Text
  | [] => [[]]
  | c :: s =>
    if c = sep then [] :: splitOn sep s
    else match splitOn sep s with
      | [] => [[c]]
      | w :: ws => (c :: w) :: ws

def prepend (s : Text) : List Text → List Text
  | [] => [s]
  | p :: ps => (s ++ p) :: ps

@[simp] theorem flatten_prepend (s : Text) (ps : List Text) :
    (prepend s ps).flatten = s ++ ps.flatten := by
  cases ps <;> simp [prepend]

def joinWith (sep : Text) (ws : List Text) : Text := sep.intercalate ws

def unlines (ls : List Text) : Text := ls.flatMap (· ++ ['\n'])

def ofNat (n : Nat) : Text := Nat.toDigits 10 n

def ofInt : Int → Text
  | .ofNat n => ofNat n
  | .negSucc n => '-' :: ofNat (n + 1)

/-- `s` after zeros that bring it to `n` characters. -/
def padLeft (n : Nat) (c : Char) (s : Text) : Text := List.replicate (n - s.length) c ++ s

def digitValue? (c : Char) : Option Nat :=
  if '0' ≤ c ∧ c ≤ '9' then some (c.toNat - 48)
  else if 'a' ≤ c ∧ c ≤ 'z' then some (c.toNat - 87)
  else if 'A' ≤ c ∧ c ≤ 'Z' then some (c.toNat - 55)
  else none

def isDigitIn (base : Nat) (c : Char) : Bool := (digitValue? c).any (· < base)

def valueIn (base : Nat) (s : Text) : Nat :=
  s.foldl (fun n c => match digitValue? c with | some d => n * base + d | none => n) 0

def le (s t : Text) : Bool := !decide (t < s)

def sort (ts : List Text) : List Text := ts.mergeSort le

end CrateScaffold.Text
