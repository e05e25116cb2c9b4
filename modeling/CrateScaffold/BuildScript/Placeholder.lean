import CrateScaffold.Text.Blank
import CrateScaffold.Text.Lines
import CrateScaffold.Text.Word

/-!
Placeholders `{{ name }}` and their substitution. A value is never searched again.
-/

namespace CrateScaffold.BuildScript

def placeholder? (s : Text) : Option (Text × Text) :=
  match Text.after? ['{', '{'] s with
  | none => none
  | some r =>
    let r := Text.trimLeft r
    if r.takeWhile Text.isWord = [] then none
    else
      (Text.after? ['}', '}'] (Text.trimLeft (r.dropWhile Text.isWord))).map
        (r.takeWhile Text.isWord, ·)

theorem length_lt_of_placeholder? {s name r : Text} (h : placeholder? s = some (name, r)) :
    r.length < s.length := by
  simp only [placeholder?] at h
  split at h
  · cases h
  next t ht =>
    rw [Text.eq_append_of_after? ht]
    split at h
    · cases h
    · obtain ⟨u, hu, he⟩ := Option.map_eq_some_iff.1 h
      cases he
      have h1 := congrArg List.length (Text.eq_append_of_after? hu)
      have h2 := (List.dropWhile_sublist (l := (Text.trimLeft t).dropWhile Text.isWord)
        Text.isBlank).length_le
      have h3 := (List.dropWhile_sublist (l := Text.trimLeft t) Text.isWord).length_le
      have h4 := (List.dropWhile_sublist (l := t) Text.isBlank).length_le
      simp only [Text.trimLeft, List.length_append, List.length_cons] at h1 h2 h3 h4 ⊢
      omega

def substitute (values : List (Text × Text)) (s : Text) : Except Text Text :=
  match s with
  | [] => .ok []
  | c :: r =>
    match h : placeholder? (c :: r) with
    | some (name, rest) =>
      have : rest.length < r.length + 1 := length_lt_of_placeholder? h
      match values.lookup name with
      | none => .error name
      | some value => (substitute values rest).map (value ++ ·)
    | none => (substitute values r).map (c :: ·)
  termination_by s.length

def expectedLines (template : Text) (values : List (Text × Text)) : Except Text (List Text) :=
  (Text.lines template).mapM (substitute values)

end CrateScaffold.BuildScript
