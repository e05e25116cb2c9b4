import CrateScaffold.Proofs.BuildScript.Balanced
import CrateScaffold.Proofs.BuildScript.Heading
import Mathlib.Logic.Basic

/-!
Only the first publishing block is read. Neither the lines before its heading nor the text after its
closing brace have any influence, whatever assignments, quotes and braces they hold.
-/

namespace CrateScaffold.BuildScript

/-- A line begins with the heading of a publishing block, blanks aside. -/
def HasHeading (s : Text) : Prop :=
  ∃ u lead gap r, s = u ++ (lead ++ heading gap r) ∧ (u = [] ∨ u.getLast? = some '\n') ∧
    lead.all Text.isBlank = true ∧ gap.all Text.isBlank = true

variable {s t lead gap : Text}

theorem opening?_of_blank (hlead : lead.all Text.isBlank = true)
    (hgap : gap.all Text.isBlank = true) (r : Text) :
    opening? (lead ++ heading gap r) = some ('{' :: r) := by
  have htrim := trimLeft_append_heading (Text.trimLeft_eq_nil_iff.2 hlead) gap r
  have hafter : Text.after? "publishing" (heading gap r) = some (gap ++ '{' :: r) :=
    Text.after?_append ..
  rw [← htrim] at hafter
  exact opening?_eq_some hafter (Text.trimLeft_append hgap (by decide) r)

theorem exists_heading_of_opening? (h : opening? s = some t) :
    ∃ lead gap r, s = lead ++ heading gap r ∧ lead.all Text.isBlank = true ∧
      gap.all Text.isBlank = true := by
  obtain ⟨q, r, hq, hr⟩ : ∃ q r, Text.after? "publishing" (Text.trimLeft s) = some q ∧
      Text.trimLeft q = '{' :: r := by
    unfold opening? at h
    split at h
    · cases h
    · next q hq =>
      split at h
      · next r hr => exact ⟨q, r, hq, hr⟩
      · cases h
  have hsplit (u : Text) : u = u.takeWhile Text.isBlank ++ Text.trimLeft u :=
    List.takeWhile_append_dropWhile.symm
  have hgap : q = q.takeWhile Text.isBlank ++ '{' :: r := (hsplit q).trans (congrArg _ hr)
  have hword : Text.trimLeft s = heading (q.takeWhile Text.isBlank) r :=
    (Text.eq_append_of_after? hq).trans (congrArg _ hgap)
  exact ⟨s.takeWhile Text.isBlank, q.takeWhile Text.isBlank, r,
    (hsplit s).trans (congrArg _ hword), List.all_takeWhile, List.all_takeWhile⟩

/-- The search looks at the beginning of the text, when `fresh`, and after each line feed. -/
theorem publishing?_eq_none_iff_forall {fresh : Bool} : publishing? fresh s = none ↔
    ∀ u v, s = u ++ v → (u = [] → fresh = true) → (u ≠ [] → u.getLast? = some '\n') →
      opening? v = none := by
  induction s generalizing fresh with
  | nil =>
    refine iff_of_true rfl fun u v hs _ _ => ?_
    rw [(List.append_eq_nil_iff.1 hs.symm).2]
    rfl
  | cons c s ih =>
    rw [publishing?, Option.or_eq_none_iff, ih]
    constructor
    · rintro ⟨hhere, hlater⟩ u v hs hnil hlast
      cases u with
      | nil =>
        rw [if_pos (hnil rfl)] at hhere
        rwa [← List.nil_append v, ← hs]
      | cons d u =>
        obtain ⟨rfl, rfl⟩ := List.cons.inj hs
        have hlast := hlast (List.cons_ne_nil c u)
        refine hlater u v rfl (fun hu => ?_) fun hu => ?_
        · subst hu
          simpa using hlast
        · rwa [List.getLast?_cons_of_ne_nil hu] at hlast
    · intro h
      constructor
      · split
        · next hf => exact h [] (c :: s) rfl (fun _ => hf) (by simp)
        · rfl
      · intro u v hs hnil hlast
        refine h (c :: u) v (by rw [hs, List.cons_append])
          (fun hu => absurd hu (List.cons_ne_nil c u)) fun _ => ?_
        cases u with
        | nil => simpa using hnil rfl
        | cons d u => rw [List.getLast?_cons_cons, hlast (List.cons_ne_nil d u)]

theorem publishing?_eq_none_iff : publishing? true s = none ↔ ¬ HasHeading s := by
  rw [publishing?_eq_none_iff_forall]
  constructor
  · rintro h ⟨u, lead, gap, r, hs, hu, hlead, hgap⟩
    have hnone := h u _ hs (fun _ => rfl) (or_iff_not_imp_left.1 hu)
    rw [opening?_of_blank hlead hgap r] at hnone
    cases hnone
  · intro h u v hs _ hlast
    cases ho : opening? v with
    | none => rfl
    | some t =>
      obtain ⟨lead, gap, r, rfl, hlead, hgap⟩ := exists_heading_of_opening? ho
      exact absurd ⟨u, lead, gap, r, hs, or_iff_not_imp_left.2 hlast, hlead, hgap⟩ h

/-- Whole lines without a heading before a publishing block and any text after it do not matter:
what is read, or why nothing is, depends on the body alone. -/
theorem read_first_block {before gap body : Text} (after : Text) (hbefore : ¬ HasHeading before)
    (hend : before = [] ∨ before.getLast? = some '\n') (hgap : gap.all Text.isBlank = true)
    (hbody : IsBalanced body) :
    Publication.read (before ++ ("publishing" ++ (gap ++ '{' :: (body ++ '}' :: after)))) =
      Publication.read ("publishing \x7b" ++ (body ++ ['}'])) := by
  have hblock (r : Text) {p g : Text} (hp : publishing? true p = none)
      (hpend : p = [] ∨ p.getLast? = some '\n') (hg : g.all Text.isBlank = true) :
      Publication.read (p ++ heading g (body ++ '}' :: r)) = Publication.ofBody body :=
    read_of_body?
      (publishing?_append hp (fun _ => rfl) (or_iff_not_imp_left.1 hpend) hg _) (hbody.body? r)
  calc
    _ = Publication.read (before ++ heading gap (body ++ '}' :: after)) := rfl
    _ = Publication.ofBody body := hblock after (publishing?_eq_none_iff.2 hbefore) hend hgap
    _ = Publication.read ([] ++ heading [' '] (body ++ ['}'])) :=
      (hblock [] rfl (.inl rfl) (by decide)).symm

/-- Lines that assign a version, open a brace and a literal, and end in a heading without its
brace. -/
def crowdedLines : Text := "version = \"0\"\n\x7b \"\npublishing\n\n"

def crowdedBody : Text :=
  "groupId = " ++ '"' :: (['\\', '"', '}'] ++ '"' :: ('{' :: ("artifactId" ++ '}' :: [])))

theorem isBalanced_crowdedBody : IsBalanced crowdedBody :=
  have hname : IsBalanced "artifactId" :=
    List.append_nil "artifactId".toList ▸ .plain_append (by decide) (by decide) (by decide) .nil
  .plain_append (by decide) (by decide) (by decide)
    (.literal (.escape (.char (by decide) (by decide) .nil)) (.block hname .nil))

theorem read_first_block_crowded :
    ¬ HasHeading crowdedLines ∧ crowdedLines.getLast? = some '\n' ∧ IsBalanced crowdedBody ∧
      Publication.read (crowdedLines ++ ("publishing" ++ (['\t'] ++ '{' :: (crowdedBody ++
        '}' :: "\npublishing \x7b artifactId = \"2\"")))) =
        Publication.read ("publishing \x7b" ++ (crowdedBody ++ ['}'])) :=
  have hbefore : ¬ HasHeading crowdedLines := publishing?_eq_none_iff.1 (by decide)
  ⟨hbefore, by decide, isBalanced_crowdedBody,
    read_first_block _ hbefore (.inr (by decide)) (by decide) isBalanced_crowdedBody⟩

end CrateScaffold.BuildScript
