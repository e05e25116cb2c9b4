import CrateScaffold.Text.Lines

/-!
How a text falls into lines: what stands before a line end joins the first line, and a line holds no
line end but its own.
-/

namespace CrateScaffold.Text

variable {s u : Text}

theorem lines_cons {c : Char} (hc : isLineEnd c = false) (s : Text) :
    lines (c :: s) = prepend [c] (lines s) := by
  have hr : c ≠ '\r' := by rintro rfl; cases hc
  rw [lines]
  · rw [hc]
    cases lines s <;> rfl
  · intro _ he
    exact absurd he hr

theorem lines_append (hu : u.all (!isLineEnd ·) = true) (hne : u ≠ []) (s : Text) :
    lines (u ++ s) = prepend u (lines s) := by
  induction u with
  | nil => exact absurd rfl hne
  | cons c u ih =>
    simp only [List.all_cons, Bool.and_eq_true, Bool.not_eq_true'] at hu
    rw [List.cons_append, lines_cons hu.1]
    by_cases hnil : u = []
    · rw [hnil]
      rfl
    · rw [ih hu.2 hnil]
      cases lines s <;> rfl

theorem lines_end {c : Char} (hc : isLineEnd c = true) (h : ∀ r, ¬ (c = '\r' ∧ s = '\n' :: r)) :
    lines (c :: s) = [c] :: lines s := by
  rw [lines]
  · rw [if_pos hc]
  · exact fun r hr hs => h r ⟨hr, hs⟩

theorem lines_crlf (s : Text) : lines ('\r' :: '\n' :: s) = ['\r', '\n'] :: lines s := by
  rw [lines]

theorem lines_lf (s : Text) : lines ('\n' :: s) = ['\n'] :: lines s :=
  lines_end (by decide) (by simp)

/-- In a line a line end stands last, unless it is a carriage return before a line feed. -/
theorem end_of_mem_lines {l v : Text} {x : Char} (hl : l ∈ lines s) (h : l = u ++ x :: v)
    (hx : isLineEnd x = true) : v = [] ∨ x = '\r' := by
  fun_induction lines s generalizing l u with
  | case1 => cases hl
  | case2 s ih =>
    rcases List.mem_cons.1 hl with rfl | hl
    · cases u with
      | nil => exact .inr (List.cons.inj h).1.symm
      | cons a u => cases u <;> simp_all
    · exact ih hl h
  | case3 c s hcr hc ih =>
    rcases List.mem_cons.1 hl with rfl | hl
    · cases u <;> simp_all
    · exact ih hl h
  | case4 c s hcr hc hs ih =>
    rw [List.mem_singleton.1 hl] at h
    cases u <;> simp_all
  | case5 c s hcr hc l' ls hs ih =>
    rcases List.mem_cons.1 hl with rfl | hl
    · cases u with
      | nil => exact absurd ((List.cons.inj h).1 ▸ hx) hc
      | cons a u => exact ih (hs ▸ List.mem_cons_self) (List.cons.inj h).2
    · exact ih (hs ▸ List.mem_cons_of_mem l' hl) h

end CrateScaffold.Text
