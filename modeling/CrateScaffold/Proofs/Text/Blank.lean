import CrateScaffold.Text.Blank

/-!
Runs at the beginning of a text end at the first character that is not of their kind.
-/

namespace CrateScaffold.Text

variable {p : Char → Bool} {u : Text} {x : Char}

theorem takeWhile_run (hu : u.all p = true) (hx : p x = false) (s : Text) :
    (u ++ x :: s).takeWhile p = u := by
  rw [List.takeWhile_append_of_pos (List.all_eq_true.1 hu),
    List.takeWhile_cons_of_neg (by simp [hx]), List.append_nil]

theorem dropWhile_run (hu : u.all p = true) (hx : p x = false) (s : Text) :
    (u ++ x :: s).dropWhile p = x :: s := by
  rw [List.dropWhile_append_of_pos (List.all_eq_true.1 hu),
    List.dropWhile_cons_of_neg (by simp [hx])]

theorem trimLeft_append (hu : u.all isBlank = true) (hx : isBlank x = false) (s : Text) :
    trimLeft (u ++ x :: s) = x :: s :=
  dropWhile_run hu hx s

theorem trimLeft_eq_nil_iff : trimLeft u = [] ↔ u.all isBlank = true := by
  induction u with
  | nil => simp [trimLeft]
  | cons c u ih =>
    rw [trimLeft] at ih ⊢
    by_cases hc : isBlank c = true <;> simp [hc, ih]

theorem trimLeft_append_of_ne_nil (h : trimLeft u ≠ []) (s : Text) :
    trimLeft (u ++ s) = trimLeft u ++ s := by
  unfold trimLeft at h ⊢
  rw [List.dropWhile_append, if_neg]
  simpa [List.isEmpty_iff] using h

theorem trimLeft_append_cons (hx : isBlank x = false) (u s : Text) :
    trimLeft (u ++ x :: s) = trimLeft u ++ x :: s := by
  by_cases hu : trimLeft u = []
  · rw [hu, trimLeft_append (trimLeft_eq_nil_iff.1 hu) hx, List.nil_append]
  · exact trimLeft_append_of_ne_nil hu (x :: s)

theorem mem_of_mem_trimLeft {c : Char} (h : c ∈ trimLeft u) : c ∈ u :=
  (List.dropWhile_sublist isBlank).mem h

theorem getLast?_trimLeft (h : trimLeft u ≠ []) : (trimLeft u).getLast? = u.getLast? := by
  have hsplit : u.takeWhile isBlank ++ trimLeft u = u := List.takeWhile_append_dropWhile
  rw [← hsplit, List.getLast?_append, hsplit]
  cases hl : (trimLeft u).getLast? with
  | none => exact absurd (List.getLast?_eq_none_iff.1 hl) h
  | some c => rfl

end CrateScaffold.Text
