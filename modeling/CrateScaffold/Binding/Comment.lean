import CrateScaffold.Text.Basic

/-!
Comments of a source. Block comments go first and do not nest; what is left of a line after `//`
goes next. A block comment that nothing closes is no comment.
-/

namespace CrateScaffold.Source

def afterBlock? (s : Text) : Option Text :=
  match Text.after? ['/', '*'] s with
  | none => none
  | some r => (Text.cut? ['*', '/'] r).map (·.2)

theorem length_lt_of_afterBlock? {s r : Text} (h : afterBlock? s = some r) :
    r.length < s.length := by
  simp only [afterBlock?] at h
  split at h
  · cases h
  next t ht =>
    obtain ⟨⟨a, b⟩, hc, rfl⟩ := Option.map_eq_some_iff.1 h
    rw [Text.eq_append_of_after? ht, Text.eq_of_cut? hc]
    simp only [List.length_append, List.length_cons]
    omega

def withoutBlocks (s : Text) : Text :=
  match s with
  | [] => []
  | c :: t =>
    match h : afterBlock? (c :: t) with
    | some r =>
      have : r.length < t.length + 1 := length_lt_of_afterBlock? h
      withoutBlocks r
    | none => c :: withoutBlocks t
  termination_by s.length

/-- Line comments go, the line feeds that end them stay; `inside` says that one is open. -/
def withoutLines (inside : Bool) : Text → Text
  | [] => []
  | c :: s =>
    if inside then if c = '\n' then c :: withoutLines false s else withoutLines true s
    else if c = '/' ∧ s.head? = some '/' then withoutLines true s
    else c :: withoutLines false s

def withoutComments (s : Text) : Text := withoutLines false (withoutBlocks s)

end CrateScaffold.Source
