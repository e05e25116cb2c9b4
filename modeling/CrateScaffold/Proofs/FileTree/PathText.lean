import CrateScaffold.Proofs.FileTree.PathOrder

/-!
Paths as they are written. A slash parts the components of what stands before it from those after
it, and only a slash in the first place makes a path absolute; so a joined path stays inside just
when both of its parts do.
-/

namespace CrateScaffold

namespace Text

variable {sep c : Char} {s t w : Text}

theorem splitOn_eq (sep : Char) (s : Text) : splitOn sep s = List.splitOn sep s := by
  induction s with
  | nil => rfl
  | cons c s ih =>
    rw [splitOn, ih, List.splitOn_cons_eq_if_modifyHead]
    by_cases hc : c = sep
    · simp [hc]
    · rw [if_neg hc, if_neg (by simpa using hc)]
      cases hs : List.splitOn sep s with
      | nil => exact absurd hs (List.splitOn_ne_nil sep s)
      | cons w ws => rfl

theorem splitOn_append_cons (sep : Char) (s t : Text) :
    splitOn sep (s ++ sep :: t) = splitOn sep s ++ splitOn sep t := by
  rw [splitOn_eq, splitOn_eq, splitOn_eq, List.splitOn_append_cons_self]

theorem mem_intercalate_of_mem {ws : List Text} (hw : w ∈ ws) (hc : c ∈ w) :
    c ∈ t.intercalate ws := by
  induction ws with
  | nil => cases hw
  | cons v vs ih =>
    cases vs with
    | nil =>
      rw [List.mem_singleton] at hw
      simpa [← hw] using hc
    | cons u us =>
      rw [List.intercalate_cons_cons]
      rcases List.mem_cons.1 hw with rfl | hw
      · exact List.mem_append_left _ (List.mem_append_left _ hc)
      · exact List.mem_append_right _ (ih hw)

theorem mem_of_mem_splitOn (hw : w ∈ splitOn sep s) (hc : c ∈ w) : c ∈ s := by
  rw [splitOn_eq] at hw
  have hwhole : [sep].intercalate (List.splitOn sep s) = s := List.intercalate_splitOn sep
  rw [← hwhole]
  exact mem_intercalate_of_mem hw hc

theorem joinWith_concat {sep : Text} {ws : List Text} (h : ws ≠ []) (w : Text) :
    joinWith sep (ws ++ [w]) = joinWith sep ws ++ sep ++ w := by
  unfold joinWith
  induction ws with
  | nil => exact absurd rfl h
  | cons v vs ih =>
    cases vs with
    | nil => simp
    | cons u us =>
      have hrest := ih (List.cons_ne_nil u us)
      simp only [List.cons_append, List.intercalate_cons_cons] at hrest ⊢
      rw [hrest]
      simp

theorem not_mem_mapChar {old new : Char} (h : old ≠ new) (s : Text) : old ∉ mapChar old new s := by
  intro hm
  obtain ⟨c, -, hc⟩ := List.mem_map.1 hm
  split at hc
  · exact h hc.symm
  · next hne => exact hne hc

end Text

namespace Path

variable {s t : Text} {p q : Path}

theorem partsOf_append_cons (s t : Text) : partsOf (s ++ '/' :: t) = partsOf s ++ partsOf t := by
  simp [partsOf, Text.splitOn_append_cons]

theorem dots_not_mem_partsOf (h : '.' ∉ s) : ['.', '.'] ∉ partsOf s := by
  intro hm
  exact h (Text.mem_of_mem_splitOn (List.mem_filter.1 hm).1 List.mem_cons_self)

theorem anchor_ofText_eq_relative_iff : (ofText s).anchor = .relative ↔ s.head? ≠ some '/' := by
  change Anchor.ofText s = .relative ↔ _
  unfold Anchor.ofText
  split
  · simp
  · simp
  · simp
  · next hroot =>
    simp only [true_iff]
    intro hs
    obtain ⟨t, rfl⟩ : ∃ t, s = '/' :: t := by
      cases s with
      | nil => cases hs
      | cons c t => exact ⟨t, by rw [Option.some.inj hs]⟩
    exact hroot t rfl

theorem leaves_ofText_eq_false_iff :
    (ofText s).leaves = false ↔ s.head? ≠ some '/' ∧ ['.', '.'] ∉ partsOf s := by
  rw [leaves_eq_false_iff, anchor_ofText_eq_relative_iff]
  rfl

/-- A name is a path of one component. -/
theorem ofText_of_name (hslash : '/' ∉ s) (hlength : 1 < s.length) :
    ofText s = ⟨.relative, [s]⟩ := by
  have hanchor : (ofText s).anchor = .relative := by
    rw [anchor_ofText_eq_relative_iff]
    exact fun hhead => hslash (List.mem_of_mem_head? hhead)
  have hpart : isPart s = true := by
    have hne : s ≠ [] := List.ne_nil_of_length_pos (by omega)
    have hdot : s ≠ ['.'] := by
      rintro rfl
      simp at hlength
    simp [isPart, hne, hdot]
  have hparts : partsOf s = [s] := by
    rw [partsOf, Text.splitOn_eq, List.splitOn_eq_singleton hslash, List.filter_singleton, hpart]
    rfl
  exact congrArg₂ Path.mk hanchor hparts

theorem text_of_parts {p : Path} (h : p.parts ≠ []) :
    p.text = p.anchor.text ++ Text.joinWith ['/'] p.parts := by
  unfold text
  split
  · next hnil => exact absurd hnil h
  · rfl

theorem text_child {p : Path} (h : p.parts ≠ []) (c : Text) :
    (p.child c).text = p.text ++ '/' :: c := by
  rw [text_of_parts h, text_of_parts (p := p.child c) (by simp [child])]
  simp [child, Text.joinWith_concat h]

theorem join_of_relative (p : Path) (hq : q.anchor = .relative) :
    p / q = ⟨p.anchor, p.parts ++ q.parts⟩ := by
  change (if q.isAbsolute = true then q else _) = _
  rw [if_neg (by simp [isAbsolute, hq])]

theorem join_of_absolute (p : Path) (hq : q.anchor ≠ .relative) : p / q = q := by
  change (if q.isAbsolute = true then q else _) = _
  rw [if_pos (by simpa [isAbsolute] using hq)]

theorem anchor_join_eq_relative_iff :
    (p / q).anchor = .relative ↔ p.anchor = .relative ∧ q.anchor = .relative := by
  by_cases hq : q.anchor = .relative
  · simp [join_of_relative p hq, hq]
  · simp [join_of_absolute p hq, hq]

theorem leaves_join_eq_false_iff :
    (p / q).leaves = false ↔ p.leaves = false ∧ q.leaves = false := by
  by_cases hq : q.anchor = .relative
  · simp [join_of_relative p hq, leaves_eq_false_iff, hq, and_assoc]
  · simp [join_of_absolute p hq, leaves_eq_false_iff, hq]

end Path

end CrateScaffold
