import CrateScaffold.FileTree.Path
import Mathlib.Data.Char
import Mathlib.Data.List.Lex

/-!
The order of paths is the lexicographic order of their components, each compared by code points. It
is linear, and inside a project no two paths share a place in it.
-/

namespace CrateScaffold.Path

variable {a b c : List Text} {p q r : Path}

theorem leKey_eq_true_iff : leKey a b = true ↔ ¬ b < a := by
  fun_induction leKey a b with
  | case1 as => simp
  | case2 a as => simp
  | case3 as b bs ih =>
    rw [ih, List.cons_lt_cons_iff]
    simp
  | case4 a as b bs hab =>
    have hba : b ≠ a := fun he => hab he.symm
    rw [List.cons_lt_cons_iff]
    simp [Text.le, hba]

theorem leKey_trans (hab : leKey a b = true) (hbc : leKey b c = true) : leKey a c = true := by
  rw [leKey_eq_true_iff] at *
  exact not_lt.2 ((not_lt.1 hab).trans (not_lt.1 hbc))

theorem leKey_total (a b : List Text) : (leKey a b || leKey b a) = true := by
  rw [Bool.or_eq_true, leKey_eq_true_iff, leKey_eq_true_iff]
  exact (le_total a b).imp not_lt.2 not_lt.2

theorem le_transitive (hpq : p.le q = true) (hqr : q.le r = true) : p.le r = true :=
  leKey_trans hpq hqr

theorem le_connected (p q : Path) : (p.le q || q.le p) = true := leKey_total p.key q.key

theorem anchor_of_inside (h : p.leaves = false) : p.anchor = .relative := by
  simp only [leaves, isAbsolute, Bool.or_eq_false_iff] at h
  simpa using h.1

theorem dots_not_mem_of_inside (h : p.leaves = false) : ['.', '.'] ∉ p.parts := by
  simp only [leaves, Bool.or_eq_false_iff] at h
  simpa using h.2

theorem leaves_eq_false_iff : p.leaves = false ↔ p.anchor = .relative ∧ ['.', '.'] ∉ p.parts := by
  constructor
  · intro h
    exact ⟨anchor_of_inside h, dots_not_mem_of_inside h⟩
  · rintro ⟨ha, hp⟩
    simp [leaves, isAbsolute, ha, hp]

theorem key_of_inside (h : p.leaves = false) : p.key = p.parts := by
  simp [key, isAbsolute, anchor_of_inside h]

theorem eq_of_parts (hp : p.leaves = false) (hq : q.leaves = false) (h : p.parts = q.parts) :
    p = q := by
  have hanchor : p.anchor = q.anchor := (anchor_of_inside hp).trans (anchor_of_inside hq).symm
  cases p
  cases q
  simp_all

theorem le_of_lt_parts (hp : p.leaves = false) (hq : q.leaves = false) (h : p.parts < q.parts) :
    p.le q = true := by
  rw [le, leKey_eq_true_iff, key_of_inside hp, key_of_inside hq]
  exact lt_asymm h

/-- Paths that begin in the same way are ordered by their components. -/
theorem lt_parts_of_le_of_anchor (ha : p.anchor = q.anchor) (hne : p ≠ q) (h : p.le q = true) :
    p.parts < q.parts := by
  have hparts : p.parts ≠ q.parts := by
    intro he
    cases p
    cases q
    simp_all
  have hnot : ¬ q.parts < p.parts := by
    rw [le, leKey_eq_true_iff, key, key, isAbsolute, isAbsolute, ha] at h
    split at h
    · exact fun hlt => h (List.cons_lt_cons_iff.2 (.inr ⟨rfl, hlt⟩))
    · exact h
  exact lt_of_le_of_ne (not_lt.1 hnot) hparts

theorem lt_parts_of_le (hp : p.leaves = false) (hq : q.leaves = false) (hne : p ≠ q)
    (h : p.le q = true) : p.parts < q.parts :=
  lt_parts_of_le_of_anchor ((anchor_of_inside hp).trans (anchor_of_inside hq).symm) hne h

end CrateScaffold.Path
