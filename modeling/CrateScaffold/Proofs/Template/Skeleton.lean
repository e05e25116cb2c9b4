import CrateScaffold.Coordinates
import CrateScaffold.Template.Scan

/-!
Skeletons: templates whose only tags are placeholders for the fields of coordinates, with spaces and
tabs around the name. `Fills c t s` says that `s` is the skeleton `t` with the values of `c` in the
places of its placeholders, and every skeleton can be filled.
-/

namespace CrateScaffold.Template

inductive Field where
  | group
  | package
  | root
  deriving DecidableEq, Repr

def Field.name : Field → Text
  | .group => "group_id"
  | .package => "package_name"
  | .root => "project_root"

def Field.value (c : Coordinates) : Field → Text
  | .group => c.group
  | .package => c.package
  | .root => c.root

def isGap (c : Char) : Bool := c == ' ' || c == '\t'

def inside (left : Text) (f : Field) (right : Text) : Text :=
  left ++ (f.name ++ (right ++ ['}', '}']))

def placeholder (left : Text) (f : Field) (right : Text) : Text :=
  '{' :: '{' :: inside left f right

def opensTag : Text → Bool
  | '{' :: c :: _ => c == '{' || c == '%' || c == '#'
  | _ => false

def BeginsWithPlaceholder (s : Text) : Prop :=
  ∃ left f right rest, left.all isGap = true ∧ right.all isGap = true ∧
    s = placeholder left f right ++ rest

/-- Every opener in the text is that of a placeholder. -/
def IsSkeleton (t : Text) : Prop :=
  ∀ u v, t = u ++ v → opensTag v = true → BeginsWithPlaceholder v

inductive Fills (c : Coordinates) : Text → Text → Prop
  | nil : Fills c [] []
  | static {a : Char} {t s : Text} :
      opensTag (a :: t) = false → Fills c t s → Fills c (a :: t) (a :: s)
  | value {left right t s : Text} (f : Field) :
      left.all isGap = true → right.all isGap = true → Fills c t s →
      Fills c (placeholder left f right ++ t) (f.value c ++ s)

variable {c : Coordinates} {t s left right : Text} {f : Field}

theorem isGap_iff {x : Char} : isGap x = true ↔ x = ' ' ∨ x = '\t' := by
  simp [isGap]

theorem all_isBlank_of_isGap (h : left.all isGap = true) : left.all Text.isBlank = true := by
  refine List.all_eq_true.2 fun x hx => ?_
  rcases isGap_iff.1 (List.all_eq_true.1 h x hx) with rfl | rfl <;> decide

/-- What holds of the blanks, of the closing brace and of the names' characters holds inside a
placeholder. -/
theorem forall_mem_inside {p : Char → Bool} (hl : left.all isGap = true)
    (hr : right.all isGap = true) (hp : (p ' ' && p '\t' && p '}') = true)
    (hf : f.name.all p = true) : ∀ x ∈ inside left f right, p x = true := by
  simp only [Bool.and_eq_true] at hp
  have hgap {y : Text} (hy : y.all isGap = true) : ∀ x ∈ y, p x = true := by
    intro x hx
    rcases isGap_iff.1 (List.all_eq_true.1 hy x hx) with rfl | rfl
    · exact hp.1.1
    · exact hp.1.2
  intro x hx
  simp only [inside, List.mem_append, List.mem_cons, List.not_mem_nil, or_false, or_self] at hx
  rcases hx with hx | hx | hx | rfl
  · exact hgap hl x hx
  · exact List.all_eq_true.1 hf x hx
  · exact hgap hr x hx
  · exact hp.2

def isOpenerEnd (x : Char) : Bool := x == '{' || x == '%' || x == '#'

theorem not_isOpenerEnd_of_mem_inside (hl : left.all isGap = true) (hr : right.all isGap = true) :
    ∀ x ∈ inside left f right, (!isOpenerEnd x) = true :=
  forall_mem_inside hl hr (by decide) (by cases f <;> decide)

theorem opensTag_eq_false_of_head {x : Char} (h : x ≠ '{') (r : Text) :
    opensTag (x :: r) = false := by
  cases r <;> simp [opensTag, h]

theorem inside_ne_nil (left : Text) (f : Field) (right : Text) : inside left f right ≠ [] := by
  simp [inside]

/-- Past its opener no opener begins in a placeholder. -/
theorem opensTag_inside {u v : Text} (hl : left.all isGap = true) (hr : right.all isGap = true)
    (h : '{' :: inside left f right = u ++ v) (hv : v ≠ []) (r : Text) :
    opensTag (v ++ r) = false := by
  have hmem := not_isOpenerEnd_of_mem_inside (f := f) hl hr
  cases u with
  | nil =>
    obtain ⟨x, i, hi⟩ := List.exists_cons_of_ne_nil (inside_ne_nil left f right)
    have hx := hmem x (by simp [hi])
    rw [← List.nil_append v, ← h, hi]
    simpa [opensTag, isOpenerEnd] using hx
  | cons a u =>
    obtain ⟨x, v', rfl⟩ := List.exists_cons_of_ne_nil hv
    have hx := hmem x (by rw [(List.cons.inj h).2]; simp)
    refine opensTag_eq_false_of_head ?_ _
    rintro rfl
    cases hx

def isStatic : Text → Bool
  | [] => true
  | a :: u => (a != '{' || u.head?.any (!isOpenerEnd ·)) && isStatic u

theorem Fills.static_append {u : Text} (hu : isStatic u = true) (h : Fills c t s) :
    Fills c (u ++ t) (u ++ s) := by
  induction u with
  | nil => exact h
  | cons a u ih =>
    simp only [isStatic, Bool.and_eq_true, Bool.or_eq_true, bne_iff_ne] at hu
    refine .static ?_ (ih hu.2)
    rcases hu.1 with ha | ha
    · exact opensTag_eq_false_of_head ha _
    · cases u with
      | nil => cases ha
      | cons b u =>
        by_cases hb : a = '{'
        · subst hb
          simpa [opensTag, isOpenerEnd] using ha
        · exact opensTag_eq_false_of_head hb _

theorem Fills.of_isStatic {u : Text} (hu : isStatic u = true) : Fills c u u := by
  have h := Fills.nil (c := c).static_append hu
  rwa [List.append_nil] at h

theorem Fills.isSkeleton (h : Fills c t s) : IsSkeleton t := by
  induction h with
  | nil =>
    intro u v he hv
    obtain ⟨-, rfl⟩ := List.append_eq_nil_iff.1 he.symm
    cases hv
  | @static a t s ha _ ih =>
    intro u v he hv
    cases u with
    | nil =>
      rw [← List.nil_append v, ← he, ha] at hv
      cases hv
    | cons b u => exact ih u v (List.cons.inj he).2 hv
  | @value left right t s f hl hr _ ih =>
    intro u v he hv
    rcases List.append_eq_append_iff.1 he with ⟨w, rfl, hw⟩ | ⟨w, hw, rfl⟩
    · exact ih w v hw hv
    · cases u with
      | nil => exact ⟨left, f, right, t, hl, hr, by rw [hw]; rfl⟩
      | cons b u =>
        by_cases hnil : w = []
        · subst hnil
          exact ih [] t rfl hv
        · rw [opensTag_inside hl hr (List.cons.inj hw).2 hnil t] at hv
          cases hv

theorem IsSkeleton.of_append {u v : Text} (h : IsSkeleton (u ++ v)) : IsSkeleton v :=
  fun x y he => h (u ++ x) y (by rw [he, List.append_assoc])

theorem IsSkeleton.exists_fills (c : Coordinates) {t : Text} (h : IsSkeleton t) :
    ∃ s, Fills c t s := by
  match t with
  | [] => exact ⟨[], .nil⟩
  | a :: t =>
    by_cases ha : opensTag (a :: t) = true
    · obtain ⟨left, f, right, rest, hl, hr, he⟩ := h [] (a :: t) rfl ha
      have hlt : rest.length < t.length + 1 := by
        have := congrArg List.length he
        simp only [List.length_cons, List.length_append, placeholder] at this
        omega
      rw [he] at h ⊢
      obtain ⟨s, hs⟩ := exists_fills c h.of_append
      exact ⟨f.value c ++ s, .value f hl hr hs⟩
    · obtain ⟨s, hs⟩ := exists_fills c (IsSkeleton.of_append (u := [a]) h)
      exact ⟨a :: s, .static (Bool.eq_false_iff.2 ha) hs⟩
  termination_by t.length

end CrateScaffold.Template
