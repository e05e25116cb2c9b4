import CrateScaffold.Console.Escape

/-!
Texts without escape sequences, which are printed as they are. Whatever else is printed is shorter.
-/

namespace CrateScaffold.Console

variable {s r : Text}

@[simp] theorem withoutSequences_nil : withoutSequences [] = [] := by
  rw [withoutSequences]

/-- An escape sequence begins nowhere in the text. -/
def HasNoSequence (s : Text) : Prop := ∀ u, u <:+ s → sequence? u = none

theorem length_withoutSequences_le (s : Text) : (withoutSequences s).length ≤ s.length := by
  fun_induction withoutSequences s with
  | case1 => exact Nat.le_refl _
  | case2 c t r h hlt ih => exact Nat.le_trans ih (Nat.le_of_lt hlt)
  | case3 c t h ih => exact Nat.succ_le_succ ih

/-- Just a text without escape sequences is printed as it is. -/
theorem withoutSequences_eq_self_iff : withoutSequences s = s ↔ HasNoSequence s := by
  fun_induction withoutSequences s with
  | case1 =>
    refine iff_of_true rfl fun u hu => ?_
    rw [List.suffix_nil.1 hu]
    rfl
  | case2 c t r h hlt ih =>
    refine iff_of_false (fun heq => ?_) fun hnone => ?_
    · have hle := length_withoutSequences_le r
      rw [heq] at hle
      exact absurd hle (Nat.not_le.2 hlt)
    · exact absurd (h.symm.trans (hnone _ List.suffix_rfl)) nofun
  | case3 c t h ih =>
    rw [List.cons_inj_right, ih]
    constructor
    · intro ht u hu
      rcases List.suffix_cons_iff.1 hu with rfl | hu
      · exact h
      · exact ht u hu
    · exact fun hs u hu => hs u (hu.trans (List.suffix_cons c t))

end CrateScaffold.Console
