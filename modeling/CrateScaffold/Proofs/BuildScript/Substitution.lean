import CrateScaffold.BuildScript.Placeholder
import CrateScaffold.Proofs.Template.Skeleton
import CrateScaffold.Proofs.Text.Blank
import CrateScaffold.Proofs.Text.Line
import Mathlib.Data.List.Forall2

/-!
Substitution in a skeleton, as a whole and line by line: no placeholder crosses a line end, so the
expected lines concatenate to the text that the skeleton stands for.
-/

namespace CrateScaffold.BuildScript

open Template

variable {c : Coordinates} {t s left right : Text} {f : Field}

theorem lookup_context (c : Coordinates) (f : Field) :
    c.context.lookup f.name = some (f.value c) := by
  cases f <;> rfl

theorem placeholder?_eq_none {a : Char} (h : opensTag (a :: t) = false) :
    placeholder? (a :: t) = none := by
  have ha : Text.after? ['{', '{'] (a :: t) = none := by
    rw [Option.eq_none_iff_forall_ne_some]
    intro r hr
    rw [Text.eq_append_of_after? hr] at h
    cases h
  simp [placeholder?, ha]

theorem placeholder?_placeholder (hl : left.all isGap = true) (hr : right.all isGap = true)
    (t : Text) : placeholder? (placeholder left f right ++ t) = some (f.name, t) := by
  obtain ⟨x, u, hu, hx⟩ : ∃ x u, f.name = x :: u ∧ Text.isBlank x = false := by
    cases f <;> exact ⟨_, _, rfl, by decide⟩
  obtain ⟨y, r, hy, hword⟩ : ∃ y r, right ++ '}' :: '}' :: t = y :: r ∧ Text.isWord y = false := by
    cases right with
    | nil => exact ⟨_, _, rfl, by decide⟩
    | cons y r =>
      refine ⟨y, _, rfl, ?_⟩
      rcases isGap_iff.1 (List.all_eq_true.1 hr y (by simp)) with rfl | rfl <;> decide
  have hname : f.name.all Text.isWord = true := by cases f <;> decide
  have hopen : Text.after? ['{', '{'] (placeholder left f right ++ t) =
      some (left ++ x :: (u ++ (right ++ '}' :: '}' :: t))) := by
    simp [placeholder, inside, hu, Text.after?]
  have htrim :
      Text.trimLeft (left ++ x :: (u ++ (right ++ '}' :: '}' :: t))) = f.name ++ y :: r := by
    rw [Text.trimLeft_append (all_isBlank_of_isGap hl) hx, hu, ← hy]
    rfl
  have hclose : Text.trimLeft (y :: r) = '}' :: '}' :: t := by
    rw [← hy]
    exact Text.trimLeft_append (all_isBlank_of_isGap hr) (by decide) _
  have hne : f.name ≠ [] := by rw [hu]; exact List.cons_ne_nil _ _
  unfold placeholder?
  rw [hopen]
  simp only [htrim, Text.takeWhile_run hname hword, Text.dropWhile_run hname hword, hclose, hne,
    if_false, Text.after?, if_true, Option.map_some]

theorem substitute_cons_of_none {values : List (Text × Text)} {a : Char}
    (h : placeholder? (a :: t) = none) :
    substitute values (a :: t) = (substitute values t).map (a :: ·) := by
  rw [substitute]
  split
  · next hp => rw [h] at hp; cases hp
  · rfl

theorem substitute_of_placeholder? {values : List (Text × Text)} {name rest value : Text}
    (h : placeholder? t = some (name, rest)) (hv : values.lookup name = some value) :
    substitute values t = (substitute values rest).map (value ++ ·) := by
  cases t with
  | nil => cases h
  | cons a t =>
    rw [substitute]
    split
    · next hp =>
      rw [h] at hp
      cases hp
      rw [hv]
    · next hp => rw [h] at hp; cases hp

theorem substitute_of_fills (h : Fills c t s) : substitute c.context t = .ok s := by
  induction h with
  | nil => rw [substitute]
  | static ha _ ih =>
    rw [substitute_cons_of_none (placeholder?_eq_none ha), ih]
    rfl
  | @value left right t s f hl hr _ ih =>
    rw [substitute_of_placeholder? (placeholder?_placeholder hl hr t) (lookup_context c f), ih]
    rfl

theorem fills_unique {s' : Text} (h : Fills c t s) (h' : Fills c t s') : s = s' :=
  Except.ok.inj ((substitute_of_fills h).symm.trans (substitute_of_fills h'))

theorem mapM_substitute {ts ss : List Text} (h : List.Forall₂ (Fills c) ts ss) :
    ts.mapM (substitute c.context) = .ok ss := by
  induction h with
  | nil => rfl
  | cons h _ ih =>
    rw [List.mapM_cons, substitute_of_fills h, ih]
    rfl

/-- Where `v` is the filling of `u` before any beginning of `t`, it is so before its first line. -/
theorem forall₂_prepend {u v : Text} {ls : List Text}
    (h : ∀ l o, l <+: t → Fills c l o → Fills c (u ++ l) (v ++ o))
    (hls : List.Forall₂ (Fills c) (Text.lines t) ls) :
    List.Forall₂ (Fills c) (Text.prepend u (Text.lines t)) (Text.prepend v ls) := by
  have hflat := Text.flatten_lines t
  generalize Text.lines t = ts at hls hflat ⊢
  cases hls with
  | nil =>
    have hu := h [] [] List.nil_prefix .nil
    rw [List.append_nil, List.append_nil] at hu
    exact .cons hu .nil
  | @cons l o ls os hl hrest => exact .cons (h l o ⟨ls.flatten, hflat⟩ hl) hrest

theorem opensTag_beginning {a : Char} {l : Text} (hl : l <+: t) (h : opensTag (a :: t) = false) :
    opensTag (a :: l) = false := by
  cases l with
  | nil => simp [opensTag]
  | cons b l =>
    obtain ⟨r, rfl⟩ := hl
    by_cases ha : a = '{'
    · subst ha
      exact h
    · exact opensTag_eq_false_of_head ha _

theorem placeholder_unbroken (hl : left.all isGap = true) (hr : right.all isGap = true) :
    (placeholder left f right).all (!Text.isLineEnd ·) = true := by
  have hin := forall_mem_inside (f := f) (p := fun x => !Text.isLineEnd x) hl hr (by decide)
    (by cases f <;> decide)
  simpa [placeholder, Text.isLineEnd] using hin

/-- Each line of a skeleton is a skeleton, and the filled lines make the filled text. -/
theorem fills_lines (h : Fills c t s) :
    ∃ ls, List.Forall₂ (Fills c) (Text.lines t) ls ∧ ls.flatten = s := by
  induction h with
  | nil => exact ⟨[], .nil, rfl⟩
  | @static a t s ha _ ih =>
    obtain ⟨ls, hls, rfl⟩ := ih
    by_cases hend : Text.isLineEnd a = true
    · by_cases hcr : ∃ r, a = '\r' ∧ t = '\n' :: r
      · -- the line feed was a line of its own in the rest, and the carriage return joins it
        obtain ⟨r, rfl, rfl⟩ := hcr
        rw [Text.lines_lf] at hls
        rw [Text.lines_crlf]
        cases hls with
        | @cons l o _ os ho hos => exact ⟨('\r' :: o) :: os, .cons (.static rfl ho) hos, rfl⟩
      · rw [Text.lines_end hend fun r hr => hcr ⟨r, hr⟩]
        exact ⟨[a] :: ls, .cons (.static (by simp [opensTag]) .nil) hls, rfl⟩
    · rw [Text.lines_cons (Bool.eq_false_iff.2 hend)]
      refine ⟨Text.prepend [a] ls, forall₂_prepend (fun l o hl ho => ?_) hls,
        Text.flatten_prepend [a] ls⟩
      exact .static (opensTag_beginning hl ha) ho
  | @value left right t s f hl hr _ ih =>
    obtain ⟨ls, hls, rfl⟩ := ih
    rw [Text.lines_append (placeholder_unbroken hl hr) (by simp [placeholder])]
    exact ⟨Text.prepend (f.value c) ls, forall₂_prepend (fun _ _ _ ho => .value f hl hr ho) hls,
      Text.flatten_prepend _ ls⟩

theorem expectedLines_of_fills (h : Fills c t s) :
    (expectedLines t c.context).map List.flatten = .ok s := by
  obtain ⟨ls, hls, rfl⟩ := fills_lines h
  rw [expectedLines, mapM_substitute hls]
  rfl

end CrateScaffold.BuildScript
