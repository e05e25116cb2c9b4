import CrateScaffold.BuildScript.Block

/-!
Where a scan for the end of a block stands. A text that the scan passes without ending the block
belongs to the body, and a text that leads it back to the start is a body of its own.
-/

namespace CrateScaffold.BuildScript

/-- The inner blocks that are open after a text, and whether a literal is; none if the block ends in
the text or the text ends in an escape. -/
def walk? : Nat → Bool → Text → Option (Nat × Bool)
  | depth, quoted, [] => some (depth, quoted)
  | _, true, ['\\'] => none
  | depth, true, '\\' :: _ :: s => walk? depth true s
  | depth, true, c :: s => walk? depth (c != '"') s
  | depth, false, '"' :: s => walk? depth true s
  | depth, false, '{' :: s => walk? (depth + 1) false s
  | 0, false, '}' :: _ => none
  | depth + 1, false, '}' :: s => walk? depth false s
  | depth, false, _ :: s => walk? depth false s

variable {d d' : Nat} {q q' : Bool} {s : Text}

theorem bodyFrom?_literal_cons {c : Char} (hc : c ≠ '\\') (d : Nat) (s : Text) :
    bodyFrom? d true (c :: s) = (bodyFrom? d (c != '"') s).map (c :: ·) := by
  rw [bodyFrom?] <;> intros <;> exact absurd ‹_› hc

theorem walk?_literal_cons {c : Char} (hc : c ≠ '\\') (d : Nat) (s : Text) :
    walk? d true (c :: s) = walk? d (c != '"') s := by
  rw [walk?] <;> intros <;> exact absurd ‹_› hc

theorem ne_backslash {c : Char} (h₁ : c = '\\' → s ≠ []) (h₂ : ∀ a t, c = '\\' → s ≠ a :: t) :
    c ≠ '\\' := by
  intro hc
  obtain ⟨a, t, rfl⟩ := List.exists_cons_of_ne_nil (h₁ hc)
  exact h₂ a t hc rfl

theorem bodyFrom?_append (h : walk? d q s = some (d', q')) (r : Text) :
    bodyFrom? d q (s ++ r) = (bodyFrom? d' q' r).map (s ++ ·) := by
  fun_induction walk? d q s with
  | case1 d q =>
    cases h
    simp
  | case2 d => cases h
  | case3 d c s ih => simp [bodyFrom?, ih h, Function.comp_def]
  | case4 d c s h₁ h₂ ih =>
    simp [bodyFrom?_literal_cons (ne_backslash h₁ h₂), ih h, Function.comp_def]
  | case5 d s ih => simp [bodyFrom?, ih h, Function.comp_def]
  | case6 d s ih => simp [bodyFrom?, ih h, Function.comp_def]
  | case7 => cases h
  | case8 d s ih => simp [bodyFrom?, ih h, Function.comp_def]
  | case9 d c s h₁ h₂ h₃ h₄ ih => simp_all [bodyFrom?, Function.comp_def]

theorem walk?_append (h : walk? d q s = some (d', q')) (r : Text) :
    walk? d q (s ++ r) = walk? d' q' r := by
  fun_induction walk? d q s with
  | case1 d q =>
    cases h
    rfl
  | case2 d => cases h
  | case3 d c s ih => simp [walk?, ih h]
  | case4 d c s h₁ h₂ ih => simp [walk?_literal_cons (ne_backslash h₁ h₂), ih h]
  | case5 d s ih => simp [walk?, ih h]
  | case6 d s ih => simp [walk?, ih h]
  | case7 => cases h
  | case8 d s ih => simp [walk?, ih h]
  | case9 d c s h₁ h₂ h₃ h₄ ih => simp_all [walk?]

theorem walk?_literal (d : Nat) (hs : ∀ c ∈ s, c ≠ '"' ∧ c ≠ '\\') :
    walk? d true s = some (d, true) := by
  induction s with
  | nil => rfl
  | cons c s ih =>
    obtain ⟨hq, hb⟩ := hs c (List.mem_cons_self ..)
    have ht := ih fun x hx => hs x (List.mem_cons_of_mem c hx)
    rw [walk?_literal_cons hb, bne_iff_ne.2 hq, ht]

theorem body?_eq_some (h : walk? 0 false s = some (0, false)) (r : Text) :
    body? ('{' :: (s ++ '}' :: r)) = some s := by
  rw [body?, bodyFrom?_append h, bodyFrom?, Option.map_some, List.append_nil]

end CrateScaffold.BuildScript
