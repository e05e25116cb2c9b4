import CrateScaffold.Proofs.BuildScript.Block

/-!
The grammar of block bodies: characters other than quotes and braces, string literals with their
escapes, and blocks in braces. The scan for the end of a block passes every such body.
-/

namespace CrateScaffold.BuildScript

inductive IsLiteral : Text → Prop where
  | nil : IsLiteral []
  | char {c s} : c ≠ '"' → c ≠ '\\' → IsLiteral s → IsLiteral (c :: s)
  | escape {c s} : IsLiteral s → IsLiteral ('\\' :: c :: s)

inductive IsBalanced : Text → Prop where
  | nil : IsBalanced []
  | char {c s} : c ≠ '"' → c ≠ '{' → c ≠ '}' → IsBalanced s → IsBalanced (c :: s)
  | literal {l s} : IsLiteral l → IsBalanced s → IsBalanced ('"' :: (l ++ '"' :: s))
  | block {b s} : IsBalanced b → IsBalanced s → IsBalanced ('{' :: (b ++ '}' :: s))

variable {s t : Text}

theorem IsLiteral.append (hs : IsLiteral s) (ht : IsLiteral t) : IsLiteral (s ++ t) := by
  induction hs with
  | nil => exact ht
  | char hq hb _ ih => exact .char hq hb ih
  | escape _ ih => exact .escape ih

theorem IsBalanced.append (hs : IsBalanced s) (ht : IsBalanced t) : IsBalanced (s ++ t) := by
  induction hs with
  | nil => exact ht
  | char hq ho hc _ ih => exact .char hq ho hc ih
  | literal hl _ ih => simpa using IsBalanced.literal hl ih
  | block hb _ _ ih => simpa using IsBalanced.block hb ih

theorem IsBalanced.plain_append {u : Text} (hquote : '"' ∉ u) (hopen : '{' ∉ u) (hclose : '}' ∉ u)
    (h : IsBalanced s) : IsBalanced (u ++ s) := by
  induction u with
  | nil => exact h
  | cons c u ih =>
    obtain ⟨hq, hquote⟩ := List.ne_and_not_mem_of_not_mem_cons hquote
    obtain ⟨ho, hopen⟩ := List.ne_and_not_mem_of_not_mem_cons hopen
    obtain ⟨hc, hclose⟩ := List.ne_and_not_mem_of_not_mem_cons hclose
    exact .char (Ne.symm hq) (Ne.symm ho) (Ne.symm hc) (ih hquote hopen hclose)

theorem IsLiteral.walk? (h : IsLiteral s) (d : Nat) : walk? d true s = some (d, true) := by
  induction h with
  | nil => rfl
  | char hq hb _ ih => rw [walk?_literal_cons hb, bne_iff_ne.2 hq, ih]
  | escape _ ih => rw [BuildScript.walk?, ih]

theorem walk?_cons {c : Char} (hq : c ≠ '"') (ho : c ≠ '{') (hc : c ≠ '}') (d : Nat) (s : Text) :
    walk? d false (c :: s) = walk? d false s := by
  rw [walk?] <;> simp_all

/-- The scan passes a balanced text at every depth, and is as deep after it as before. -/
theorem IsBalanced.walk? (h : IsBalanced s) (d : Nat) : walk? d false s = some (d, false) := by
  induction h generalizing d with
  | nil => rfl
  | char hq ho hc _ ih => rw [walk?_cons hq ho hc, ih]
  | literal hl _ ih =>
    rw [BuildScript.walk?, walk?_append (hl.walk? d), walk?_literal_cons (by decide)]
    exact ih d
  | block _ _ ihb ih => rw [BuildScript.walk?, walk?_append (ihb (d + 1)), BuildScript.walk?, ih]

theorem IsBalanced.body? (h : IsBalanced s) (r : Text) : body? ('{' :: (s ++ '}' :: r)) = some s :=
  body?_eq_some (h.walk? 0) r

end CrateScaffold.BuildScript
