import CrateScaffold.Binding.Basic
import CrateScaffold.Binding.Comment
import CrateScaffold.Text.Blank

/-!
Annotated `impl` blocks of a source. The annotation names a package, other attributes may follow
it, and generics may stand before the type; blanks are free between all of them.
-/

namespace CrateScaffold.Source

def token? (p s : Text) : Option Text := Text.after? p (Text.trimLeft s)

theorem length_le_of_token? {p s r : Text} (h : token? p s = some r) :
    p.length + r.length ≤ s.length := by
  have h1 := congrArg List.length (Text.eq_append_of_after? h)
  have h2 := (List.dropWhile_sublist (l := s) Text.isBlank).length_le
  simp only [Text.trimLeft, List.length_append] at h1
  omega

def afterAttribute? (s : Text) : Option Text :=
  match token? ['#', '['] s with
  | none => none
  | some r => (Text.cut? [']'] r).map (·.2)

theorem length_lt_of_afterAttribute? {s r : Text} (h : afterAttribute? s = some r) :
    r.length < s.length := by
  simp only [afterAttribute?] at h
  split at h
  · cases h
  next t ht =>
    have := length_le_of_token? ht
    obtain ⟨⟨a, b⟩, hc, rfl⟩ := Option.map_eq_some_iff.1 h
    have := congrArg List.length (Text.eq_of_cut? hc)
    simp only [List.length_append, List.length_cons] at *
    omega

def afterAttributes (s : Text) : Text :=
  match h : afterAttribute? s with
  | none => s
  | some r =>
    have := length_lt_of_afterAttribute? h
    afterAttributes r
  termination_by s.length

theorem length_afterAttributes_le (s : Text) : (afterAttributes s).length ≤ s.length := by
  fun_induction afterAttributes s with
  | case1 => exact Nat.le_refl _
  | case2 s r _ h ih => omega

def afterGenerics? (s : Text) : Option Text :=
  match Text.trimLeft s with
  | '<' :: r =>
    match r.dropWhile (fun c => c != '>' && c != '{') with
    | '>' :: r => some (Text.trimLeft r)
    | _ => none
  | r => some r

def isTypeStart (c : Char) : Bool := c.isAlpha || c == '_'

def isTypeRest (c : Char) : Bool := c.isAlphanum || c == '_'

def typeName? : Text → Option (Text × Text)
  | [] => none
  | c :: s =>
    if isTypeStart c then some (c :: s.takeWhile isTypeRest, s.dropWhile isTypeRest) else none

def annotation? (s : Text) : Option (Text × Text) := do
  let s ← Text.after? ['#', '['] s
  let s ← token? "java_class" s
  let s ← token? ['('] s
  let s ← token? ['"'] s
  let (package, s) ← Text.cut? ['"'] s
  let s ← token? [')'] s
  let s ← token? [']'] s
  return (package, s)

def implemented? (s : Text) : Option (Text × Text) := do
  let s ← token? "impl" (afterAttributes s)
  let s ← afterGenerics? s
  typeName? s

def binding? (s : Text) : Option (Binding × Text) := do
  let (package, s) ← annotation? s
  let (type, s) ← implemented? s
  return (⟨type, package⟩, s)

theorem length_lt_of_annotation? {s p r : Text} (h : annotation? s = some (p, r)) :
    r.length < s.length := by
  simp only [annotation?, bind, Option.bind_eq_some_iff] at h
  obtain ⟨a, ha, b, hb, c, hc, d, hd, ⟨q, e⟩, he, f, hf, g, hg, h⟩ := h
  cases h
  have ha := congrArg List.length (Text.eq_append_of_after? ha)
  have hb := length_le_of_token? hb
  have hc := length_le_of_token? hc
  have hd := length_le_of_token? hd
  have he := congrArg List.length (Text.eq_of_cut? he)
  have hf := length_le_of_token? hf
  have hg := length_le_of_token? hg
  simp only [List.length_append, List.length_cons, List.length_nil] at *
  omega

theorem length_le_of_afterGenerics? {s r : Text} (h : afterGenerics? s = some r) :
    r.length ≤ s.length := by
  have h1 := (List.dropWhile_sublist (l := s) Text.isBlank).length_le
  simp only [afterGenerics?, Text.trimLeft] at h
  split at h
  next t ht =>
    rw [ht] at h1
    have h2 := (List.dropWhile_sublist (l := t) fun c => c != '>' && c != '{').length_le
    split at h
    next u hu =>
      cases h
      rw [hu] at h2
      have h3 := (List.dropWhile_sublist (l := u) Text.isBlank).length_le
      simp only [List.length_cons] at *
      omega
    · cases h
  · cases h; exact h1

theorem length_le_of_typeName? {s n r : Text} (h : typeName? s = some (n, r)) :
    r.length ≤ s.length := by
  cases s with
  | nil => cases h
  | cons c s =>
    simp only [typeName?] at h
    split at h
    · cases h
      have := (List.dropWhile_sublist (l := s) isTypeRest).length_le
      simp only [List.length_cons]
      omega
    · cases h

theorem length_lt_of_binding? {s r : Text} {b : Binding} (h : binding? s = some (b, r)) :
    r.length < s.length := by
  simp only [binding?, implemented?, bind, Option.bind_eq_some_iff] at h
  obtain ⟨⟨p, a⟩, ha, ⟨t, e⟩, ⟨c, hc, d, hd, he⟩, h⟩ := h
  cases h
  have := length_lt_of_annotation? ha
  have := length_le_of_token? hc
  have := length_afterAttributes_le a
  have := length_le_of_afterGenerics? hd
  have := length_le_of_typeName? he
  dsimp only at *
  omega

def scan (s : Text) : List Binding :=
  match s with
  | [] => []
  | c :: t =>
    match h : binding? (c :: t) with
    | some (b, r) =>
      have : r.length < t.length + 1 := length_lt_of_binding? h
      b :: scan r
    | none => scan t
  termination_by s.length

def bindings (s : Text) : List Binding := scan (withoutComments s)

end CrateScaffold.Source
