import CrateScaffold.BuildScript.Publication
import CrateScaffold.Proofs.Text.Blank

/-!
The first publishing block. Whole lines without a block before its heading do not matter, and
neither does what follows it.
-/

namespace CrateScaffold.BuildScript

def heading (gap r : Text) : Text := "publishing" ++ (gap ++ '{' :: r)

variable {gap r p q : Text}

theorem after?_append_eq_none {w : Text} (h : Text.after? w q = none) (hx : ∃ x ∈ q, x ∉ w)
    (s : Text) : Text.after? w (q ++ s) = none := by
  induction w generalizing q with
  | nil => cases q <;> cases h
  | cons a w ih =>
    obtain ⟨x, hq, hw⟩ := hx
    cases q with
    | nil => cases hq
    | cons b q =>
      simp only [Text.after?, List.cons_append] at h ⊢
      split
      · next hab =>
        rw [if_pos hab] at h
        refine ih h ⟨x, ?_, fun hm => hw (List.mem_cons_of_mem a hm)⟩
        rcases List.mem_cons.1 hq with rfl | hq
        · exact absurd (hab ▸ List.mem_cons_self) hw
        · exact hq
      · rfl

theorem heading_eq (gap r : Text) : heading gap r = 'p' :: ("ublishing" ++ (gap ++ '{' :: r)) := rfl

theorem trimLeft_heading (gap r : Text) : Text.trimLeft (heading gap r) = heading gap r := by
  rw [heading_eq]
  exact Text.trimLeft_append (u := []) rfl (by decide) _

theorem trimLeft_append_heading (hp : Text.trimLeft p = []) (gap r : Text) :
    Text.trimLeft (p ++ heading gap r) = heading gap r := by
  rw [heading_eq]
  exact Text.trimLeft_append (Text.trimLeft_eq_nil_iff.1 hp) (by decide) _

theorem opening?_eq_some {u : Text} (ha : Text.after? "publishing" (Text.trimLeft p) = some q)
    (hq : Text.trimLeft q = '{' :: u) : opening? p = some ('{' :: u) := by
  unfold opening?
  simp only [ha, hq]

theorem opening?_eq_none {x : Char} {u : Text}
    (ha : Text.after? "publishing" (Text.trimLeft p) = some q)
    (hq : Text.trimLeft q = x :: u) (hx : x ≠ '{') : opening? p = none := by
  unfold opening?
  simp only [ha, hq]
  split
  · next he => exact absurd (List.cons.inj he).1 hx
  · rfl

theorem opening?_heading (hgap : gap.all Text.isBlank = true) (r : Text) :
    opening? (heading gap r) = some ('{' :: r) := by
  have hafter : Text.after? "publishing" (heading gap r) = some (gap ++ '{' :: r) :=
    Text.after?_append ..
  rw [← trimLeft_heading] at hafter
  exact opening?_eq_some hafter (Text.trimLeft_append hgap (by decide) r)

/-- No heading begins in a line before another one, unless that line is blank. -/
theorem opening?_append (h : opening? p = none) (hp : p.getLast? = some '\n')
    (hgap : gap.all Text.isBlank = true) (r : Text) :
    opening? (p ++ heading gap r) = none ∨ opening? (p ++ heading gap r) = some ('{' :: r) := by
  by_cases hblank : Text.trimLeft p = []
  · right
    rw [← opening?_heading hgap r]
    unfold opening?
    rw [trimLeft_append_heading hblank, trimLeft_heading]
  · left
    -- the line feed at the end of `p` stands between what the line begins with and the heading
    have hlast : '\n' ∈ Text.trimLeft p := by
      rw [← Text.getLast?_trimLeft hblank] at hp
      exact List.mem_of_getLast? hp
    have htrim := Text.trimLeft_append_of_ne_nil hblank (heading gap r)
    cases ha : Text.after? "publishing" (Text.trimLeft p) with
    | none =>
      unfold opening?
      rw [htrim, after?_append_eq_none ha ⟨'\n', hlast, by decide⟩]
    | some q =>
      have hafter : Text.after? "publishing" (Text.trimLeft (p ++ heading gap r)) =
          some (q ++ heading gap r) := by
        rw [htrim, Text.eq_append_of_after? ha, List.append_assoc, Text.after?_append]
      by_cases hq : Text.trimLeft q = []
      · have htrimq := trimLeft_append_heading hq gap r
        rw [heading_eq gap r] at htrimq hafter ⊢
        exact opening?_eq_none hafter htrimq (by decide)
      · obtain ⟨x, u, hx⟩ := List.exists_cons_of_ne_nil hq
        have hxb : x ≠ '{' := by
          rintro rfl
          rw [opening?_eq_some ha hx] at h
          cases h
        refine opening?_eq_none hafter (u := u ++ heading gap r) ?_ hxb
        rw [Text.trimLeft_append_of_ne_nil hq, hx, List.cons_append]

theorem publishing?_append {fresh : Bool} (h : publishing? fresh p = none)
    (hnil : p = [] → fresh = true) (hp : p ≠ [] → p.getLast? = some '\n')
    (hgap : gap.all Text.isBlank = true) (r : Text) :
    publishing? fresh (p ++ heading gap r) = some ('{' :: r) := by
  induction p generalizing fresh with
  | nil =>
    have ho := opening?_heading hgap r
    rw [List.nil_append, heading_eq] at *
    rw [publishing?, hnil rfl, if_pos rfl, ho, Option.some_or]
  | cons x p ih =>
    rw [publishing?, Option.or_eq_none_iff] at h
    have hlast := hp (List.cons_ne_nil x p)
    have hrest := ih h.2 (fun hnil => by subst hnil; simpa using hlast)
      (fun hne => by rwa [List.getLast?_cons_of_ne_nil hne] at hlast)
    rw [List.cons_append, publishing?, hrest]
    by_cases hf : fresh = true
    · rw [if_pos hf] at h ⊢
      -- a blank line runs into the heading, which then opens the same block
      rcases opening?_append h.1 hlast hgap r with ho | ho
      · rw [← List.cons_append, ho, Option.none_or]
      · rw [← List.cons_append, ho, Option.some_or]
    · rw [if_neg hf, Option.none_or]

theorem read_of_body? {s b : Text} (hs : publishing? true s = some q) (hb : body? q = some b) :
    Publication.read s = Publication.ofBody b := by
  unfold Publication.read
  rw [hs]
  simp only [hb]

end CrateScaffold.BuildScript
