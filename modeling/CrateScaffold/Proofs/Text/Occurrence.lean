import CrateScaffold.Text.Basic

/-!
Where a text occurs in another one. Cutting finds the first occurrence, also when it runs over the
place where two texts meet; pairs of characters do so only if the first text ends in the one and the
second begins with the other.
-/

namespace CrateScaffold.Text

variable {p s t v : Text} {a b c x : Char}

theorem not_infix_tail (h : ¬ p <:+: c :: s) : ¬ p <:+: s :=
  fun hin => h (hin.trans (List.suffix_cons c s).isInfix)

theorem after?_eq_none_iff : after? p s = none ↔ ¬ p <+: s := by
  rw [Option.eq_none_iff_forall_ne_some]
  constructor
  · rintro h ⟨r, rfl⟩
    exact h r (after?_append p r)
  · intro h r hr
    exact h ⟨r, (eq_append_of_after? hr).symm⟩

theorem prefix_of_prefix_append (ha : a ∉ p) (h : p <+: s ++ a :: t) : p <+: s := by
  have hshort : s ++ [a] <+: s ++ a :: t := ⟨t, by simp⟩
  rcases List.prefix_or_prefix_of_prefix h hshort with hp | hs
  · rcases List.prefix_concat_iff.1 hp with rfl | hp
    · exact absurd (List.mem_append_right s List.mem_cons_self) ha
    · exact hp
  · exact absurd (hs.subset (List.mem_append_right s List.mem_cons_self)) ha

theorem after?_append_of_not_mem (ha : a ∉ p) (h : after? p s = none) (t : Text) :
    after? p (s ++ a :: t) = none := by
  rw [after?_eq_none_iff] at h ⊢
  exact fun hpre => h (prefix_of_prefix_append ha hpre)

/-! Cutting -/

theorem cut?_of_prefix (hp : p ≠ []) (r : Text) : cut? p (p ++ r) = some ([], r) := by
  obtain ⟨c, q, rfl⟩ := List.exists_cons_of_ne_nil hp
  rw [List.cons_append, cut?, ← List.cons_append, after?_append]

theorem cut?_cons (h : ¬ p <+: x :: s) :
    cut? p (x :: s) = (cut? p s).map fun y => (x :: y.1, y.2) := by
  rw [cut?, after?_eq_none_iff.2 h]

theorem cut?_append (hp : p ≠ []) (h : ¬ p <:+: v ++ p.dropLast) (r : Text) :
    cut? p (v ++ (p ++ r)) = some (v, r) := by
  induction v with
  | nil => exact cut?_of_prefix hp r
  | cons c v ih =>
    -- an occurrence here would be one in `c :: v` and all of `p` but its last character
    have hnot : ¬ p <+: c :: (v ++ (p ++ r)) := by
      intro hpre
      have hlong : c :: v ++ p.dropLast <+: c :: v ++ (p ++ r) :=
        (List.prefix_append_right_inj (c :: v)).2
          ((List.dropLast_prefix p).trans (List.prefix_append p r))
      refine h (List.prefix_of_prefix_length_le hpre hlong ?_).isInfix
      simp only [List.length_append, List.length_cons, List.length_dropLast]
      omega
    rw [List.cons_append, cut?_cons hnot, ih (not_infix_tail h), Option.map_some]

theorem cut?_eq_none_iff (hp : p ≠ []) : cut? p s = none ↔ ¬ p <:+: s := by
  induction s with
  | nil => simp [cut?, hp]
  | cons c s ih =>
    by_cases hpre : p <+: c :: s
    · obtain ⟨r, hr⟩ := hpre
      rw [← hr, cut?_of_prefix hp]
      exact iff_of_false (Option.some_ne_none _) fun h => h (List.prefix_append p r).isInfix
    · rw [cut?_cons hpre, Option.map_eq_none_iff, ih, List.infix_cons_iff, not_or]
      exact (and_iff_right hpre).symm

/-- What stands before the first occurrence holds none. -/
theorem not_infix_of_cut? (hp : p ≠ []) (h : cut? p s = some (v, t)) : ¬ p <:+: v := by
  induction s generalizing v with
  | nil => simp [cut?, hp] at h
  | cons c s ih =>
    by_cases hpre : p <+: c :: s
    · obtain ⟨r, hr⟩ := hpre
      rw [← hr, cut?_of_prefix hp] at h
      cases h
      exact fun hin => hp (List.infix_nil.1 hin)
    · rw [cut?_cons hpre] at h
      obtain ⟨⟨u, t'⟩, hcut, he⟩ := Option.map_eq_some_iff.1 h
      cases he
      rw [List.infix_cons_iff, not_or]
      refine ⟨fun hin => hpre (hin.trans ?_), ih hcut⟩
      rw [eq_of_cut? hcut, List.append_assoc]
      exact List.prefix_append (c :: u) _

theorem cut?_char (hx : x ∉ v) (r : Text) : cut? [x] (v ++ x :: r) = some (v, r) := by
  refine cut?_append (List.cons_ne_nil x []) (fun hin => hx ?_) r
  simpa using hin.subset (List.mem_singleton_self x)

theorem cut?_char_eq_none (hx : x ∉ v) : cut? [x] v = none :=
  (cut?_eq_none_iff (List.cons_ne_nil x [])).2 fun hin =>
    hx (hin.subset (List.mem_singleton_self x))

/-! Pairs of characters -/

theorem pair_prefix_cons_iff : [a, b] <+: c :: s ↔ a = c ∧ s.head? = some b := by
  rw [List.cons_prefix_cons]
  cases s with
  | nil => simp
  | cons d s => simp [eq_comm]

theorem getLast?_cons_of_some (h : t.getLast? = some a) : (c :: t).getLast? = some a := by
  rw [List.getLast?_cons, h, Option.getD_some]

theorem not_prefix_pair (h : ¬ [a, b] <:+: c :: t)
    (hlast : (c :: t).getLast? = some a → s.head? ≠ some b) : ¬ [a, b] <+: c :: (t ++ s) := by
  rw [pair_prefix_cons_iff]
  rintro ⟨rfl, hb⟩
  cases t with
  | nil => exact hlast rfl hb
  | cons d t => exact h (pair_prefix_cons_iff.2 ⟨rfl, by simpa using hb⟩).isInfix

theorem not_pair_infix_append (ht : ¬ [a, b] <:+: t) (hs : ¬ [a, b] <:+: s)
    (hlast : t.getLast? = some a → s.head? ≠ some b) : ¬ [a, b] <:+: t ++ s := by
  induction t with
  | nil => exact hs
  | cons c t ih =>
    rw [List.cons_append, List.infix_cons_iff, not_or]
    exact ⟨not_prefix_pair ht hlast,
      ih (not_infix_tail ht) fun h => hlast (getLast?_cons_of_some h)⟩

theorem cut?_pair (hab : a ≠ b) (h : ¬ [a, b] <:+: v) (r : Text) :
    cut? [a, b] (v ++ a :: b :: r) = some (v, r) := by
  have hnot : ¬ [a, b] <:+: v ++ [a] := by
    refine not_pair_infix_append h (fun hin => ?_) fun _ => by simpa using hab
    simpa using hin.length_le
  exact cut?_append (List.cons_ne_nil a [b]) hnot r

end CrateScaffold.Text
