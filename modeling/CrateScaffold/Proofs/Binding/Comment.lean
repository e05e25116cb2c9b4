import CrateScaffold.Binding.Comment
import CrateScaffold.Proofs.Text.Occurrence

/-!
Code without comment markers. Both passes leave it as it is, whatever follows it, unless its last
character is a slash that makes a marker with the next one.
-/

namespace CrateScaffold.Source

/-- Neither kind of comment begins in the text. -/
structure HasNoComments (s : Text) : Prop where
  line : ¬ ['/', '/'] <:+: s
  block : ¬ ['/', '*'] <:+: s

variable {s t : Text} {c : Char}

theorem afterBlock?_eq_none (h : ¬ ['/', '*'] <+: s) : afterBlock? s = none := by
  unfold afterBlock?
  simp only [Text.after?_eq_none_iff.2 h]

theorem withoutBlocks_cons (h : afterBlock? (c :: s) = none) :
    withoutBlocks (c :: s) = c :: withoutBlocks s := by
  rw [withoutBlocks]
  split
  · next r hr => exact absurd (hr.symm.trans h) (Option.some_ne_none _)
  · rfl

theorem withoutBlocks_of_afterBlock? (h : afterBlock? s = some t) :
    withoutBlocks s = withoutBlocks t := by
  cases s with
  | nil => cases h
  | cons c s =>
    rw [withoutBlocks]
    split
    · next r hr => rw [Option.some.inj (h.symm.trans hr)]
    · next hn => exact absurd (h.symm.trans hn) (Option.some_ne_none _)

theorem withoutBlocks_append (h : ¬ ['/', '*'] <:+: t)
    (hlast : t.getLast? = some '/' → s.head? ≠ some '*') :
    withoutBlocks (t ++ s) = t ++ withoutBlocks s := by
  induction t with
  | nil => rfl
  | cons c t ih =>
    have hnone := afterBlock?_eq_none (Text.not_prefix_pair h hlast)
    have hrest := ih (Text.not_infix_tail h) fun ht => hlast (Text.getLast?_cons_of_some ht)
    rw [List.cons_append, withoutBlocks_cons hnone, hrest, List.cons_append]

theorem withoutLines_append (h : ¬ ['/', '/'] <:+: t)
    (hlast : t.getLast? = some '/' → s.head? ≠ some '/') :
    withoutLines false (t ++ s) = t ++ withoutLines false s := by
  induction t with
  | nil => rfl
  | cons c t ih =>
    have hrest := ih (Text.not_infix_tail h) fun ht => hlast (Text.getLast?_cons_of_some ht)
    have hnot : ¬ (c = '/' ∧ (t ++ s).head? = some '/') := fun hc =>
      Text.not_prefix_pair h hlast (Text.pair_prefix_cons_iff.2 ⟨hc.1.symm, hc.2⟩)
    rw [List.cons_append, withoutLines, if_neg Bool.false_ne_true, if_neg hnot, hrest,
      List.cons_append]

theorem HasNoComments.withoutComments_eq (h : HasNoComments s) : withoutComments s = s := by
  have hblocks := withoutBlocks_append (s := []) h.block (by simp)
  have hlines := withoutLines_append (s := []) h.line (by simp)
  rw [withoutBlocks, List.append_nil] at hblocks
  rw [withoutLines, List.append_nil] at hlines
  rw [withoutComments, hblocks, hlines]

end CrateScaffold.Source
