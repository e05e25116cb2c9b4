import CrateScaffold.BuildScript.LineDiff
import CrateScaffold.Proofs.BuildScript.Published
import CrateScaffold.Proofs.BuildScript.Substitution
import CrateScaffold.Proofs.Text.Break
import CrateScaffold.Proofs.World.Effect

/-!
Line differences of the packaged build script with its own template. The template is cut into lines
before its placeholders are filled and the script after it, so the lines agree when no value ends a
line.
-/

namespace CrateScaffold.BuildScript

open Template

variable {c : Coordinates} {t s : Text}

/-- Values without line ends leave the lines of a template as they are. -/
theorem forall₂_lines (h : Fills c t s) (ht : '\r' ∉ t)
    (hv : ∀ f : Field, (f.value c).all (!Text.isLineEnd ·) = true ∧ f.value c ≠ []) :
    List.Forall₂ (Fills c) (Text.lines t) (Text.lines s) := by
  induction h with
  | nil => exact .nil
  | @static a t s ha _ ih =>
    simp only [List.mem_cons, not_or] at ht
    have hrest := ih ht.2
    by_cases hend : Text.isLineEnd a = true
    · have hcr {u : Text} : ∀ r, ¬ (a = '\r' ∧ u = '\n' :: r) := fun _ h => ht.1 h.1.symm
      rw [Text.lines_end hend hcr, Text.lines_end hend hcr]
      exact .cons (.static (by simp [opensTag]) .nil) hrest
    · rw [Text.lines_cons (Bool.eq_false_iff.2 hend), Text.lines_cons (Bool.eq_false_iff.2 hend)]
      exact forall₂_prepend (fun l o hl ho => .static (opensTag_beginning hl ha) ho) hrest
  | @value left right t s f hl hr _ ih =>
    have hrest := ih fun hm => ht (List.mem_append_right _ hm)
    rw [Text.lines_append (placeholder_unbroken hl hr) (by simp [placeholder]),
      Text.lines_append (hv f).1 (hv f).2]
    exact forall₂_prepend (fun _ _ _ ho => .value f hl hr ho) hrest

theorem forall₂_lines_of_diff (ht : IsSkeleton t) (h : diff s t c.context = .ok []) :
    List.Forall₂ (Fills c) (Text.lines t) (Text.lines s) := by
  obtain ⟨o, ho⟩ := ht.exists_fills c
  obtain ⟨ls, hls, -⟩ := fills_lines ho
  unfold diff expectedLines at h
  rw [mapM_substitute hls] at h
  rw [← diffFrom_eq_nil_iff.1 (Except.ok.inj h)]
  exact hls

theorem mem_of_forall₂ {ts ss : List Text} (h : List.Forall₂ (Fills c) ts ss) (hm : t ∈ ts)
    (ht : Fills c t s) : s ∈ ss := by
  obtain ⟨s', hs', hfills⟩ := exists_of_forall₂ h hm
  exact fills_unique hfills ht ▸ hs'

/-- In a line of the script that goes on after a value, the value ends no line. -/
theorem eq_cr_of_line {f : Field} {pre post : Text} {a x : Char}
    (h : List.Forall₂ (Fills c) (Text.lines t) (Text.lines s)) (hpre : isStatic pre = true)
    (hpost : isStatic (a :: post) = true)
    (hm : pre ++ (placeholder [] f [] ++ a :: post) ∈ Text.lines t) (hx : x ∈ f.value c)
    (hend : Text.isLineEnd x = true) : x = '\r' := by
  obtain ⟨u, v, huv⟩ := List.append_of_mem hx
  have hfill : Fills c (pre ++ (placeholder [] f [] ++ a :: post))
      (pre ++ (f.value c ++ a :: post)) :=
    .static_append hpre (.value f rfl rfl (.of_isStatic hpost))
  have hline := mem_of_forall₂ h hm hfill
  rcases Text.end_of_mem_lines (u := pre ++ u) (v := v ++ a :: post) (x := x) hline
    (by simp [huv]) hend with hv | hx
  · exact absurd (List.append_eq_nil_iff.1 hv).2 (List.cons_ne_nil a post)
  · exact hx

def laxEnds : List Char := ['\u0085', '\u2028', '\u2029']

theorem isLineEnd_iff_of_identifier {x : Char} (h : isIdentifier s = true) (hx : x ∈ s) :
    Text.isLineEnd x = true ↔ x ∈ laxEnds := by
  have hf := not_isForbidden_of_mem h hx
  constructor
  · intro he
    simp only [Text.isLineEnd, List.mem_cons, List.not_mem_nil, or_false, decide_eq_true_eq] at he
    rcases he with rfl | rfl | rfl | rfl | rfl | rfl | rfl | rfl | rfl | rfl
    all_goals first | decide | cases hf
  · intro he
    simp only [laxEnds, List.mem_cons, List.not_mem_nil, or_false] at he
    rcases he with rfl | rfl | rfl <;> decide

def valueLine (name : Text) (f : Field) : Text :=
  ("            " ++ (name ++ " = \"")) ++ (placeholder [] f [] ++ ['"', '\n'])

theorem valueLines_mem :
    valueLine "groupId" .group ∈ Text.lines Packaged.buildScript ∧
      valueLine "artifactId" .package ∈ Text.lines Packaged.buildScript := by
  unfold valueLine Packaged.buildScript
  repeat rw [Packaged.page_ofList_cons]
  repeat rw [String.toList_ofList]
  decide

theorem cr_not_mem_buildScript : '\r' ∉ Packaged.buildScript := by
  intro h
  rcases (Text.mem_cr_iff _).1 h with hb | hb
  · cases breaks_buildScript _ hb
  · cases breaks_buildScript _ hb

theorem identifier_unbroken (h : isIdentifier s = true) (hs : ∀ x ∈ s, x ∉ laxEnds) :
    s.all (!Text.isLineEnd ·) = true := by
  refine List.all_eq_true.2 fun x hx => ?_
  rw [Bool.not_eq_true', Bool.eq_false_iff, Ne, isLineEnd_iff_of_identifier h hx]
  exact hs x hx

theorem forall₂_lines_published (h : ∀ x ∈ c.group ++ c.package, x ∉ laxEnds) :
    List.Forall₂ (Fills c) (Text.lines Packaged.buildScript)
      (Text.lines (published c.group c.package)) := by
  have hg := identifier_unbroken c.group_identifier fun x hx => h x (List.mem_append_left _ hx)
  have hp := identifier_unbroken c.package_identifier fun x hx => h x (List.mem_append_right _ hx)
  refine forall₂_lines (fills_published c) cr_not_mem_buildScript fun f => ?_
  cases f with
  | group => exact ⟨hg, identifier_ne_nil c.group_identifier⟩
  | package => exact ⟨hp, identifier_ne_nil c.package_identifier⟩
  | root =>
    refine ⟨?_, by simp [Field.value, Coordinates.root]⟩
    have hdot : (!Text.isLineEnd '.') = true := by decide
    rw [Field.value, Coordinates.root, List.all_append, List.all_cons, hg, hdot, hp]
    rfl

/-- The packaged build script shows no difference just when no value holds one of the line ends that
identifiers may hold. -/
theorem diff_published (c : Coordinates) :
    ∃ ds, diff (published c.group c.package) Packaged.buildScript c.context = .ok ds ∧
      (ds = [] ↔ ∀ x ∈ c.group ++ c.package, x ∉ laxEnds) := by
  obtain ⟨ls, hls, -⟩ := fills_lines (fills_published c)
  have hdiff : diff (published c.group c.package) Packaged.buildScript c.context =
      .ok (diffFrom 1 ls (Text.lines (published c.group c.package))) := by
    rw [diff, expectedLines, mapM_substitute hls]
    rfl
  refine ⟨_, hdiff, fun hnil x hx hlax => ?_, fun h => ?_⟩
  · rw [hnil] at hdiff
    have hlines := forall₂_lines_of_diff (fills_published c).isSkeleton hdiff
    have hcr : x = '\r' := by
      rcases List.mem_append.1 hx with hx | hx
      · exact eq_cr_of_line hlines (by decide) (by decide) valueLines_mem.1 hx
          ((isLineEnd_iff_of_identifier c.group_identifier hx).2 hlax)
      · exact eq_cr_of_line hlines (by decide) (by decide) valueLines_mem.2 hx
          ((isLineEnd_iff_of_identifier c.package_identifier hx).2 hlax)
    subst hcr
    exact absurd hlax (by decide)
  · have hmap := mapM_substitute (forall₂_lines_published h)
    rw [mapM_substitute hls] at hmap
    rw [Except.ok.inj hmap, diffFrom_self]

/-- The packaged build script always renders, and its expected lines are always defined; the script
has no line differences exactly when no value holds a next line or a line or paragraph separator. -/
theorem diff_renderBuildScript_iff (c : Coordinates) (site : Site) :
    ∃ script ds, (Library.packaged.renderBuildScript c site).2 = .ok script ∧
      diff script Packaged.buildScript c.context = .ok ds ∧
      (ds = [] ↔ ∀ x ∈ c.group ++ c.package, x ∉ ['\u0085', '\u2028', '\u2029']) := by
  obtain ⟨ds, hds, hiff⟩ := diff_published c
  exact ⟨published c.group c.package, ds, renderBuildScript_packaged c site, hds, hiff⟩

def broken : Coordinates := ⟨"a\u0085b", "p", by decide +kernel, isIdentifier_p⟩

theorem diff_renderBuildScript_broken :
    ¬ ∃ script,
      (Library.packaged.renderBuildScript broken ⟨[], "linux", .refusing⟩).2 = .ok script ∧
      diff script Packaged.buildScript broken.context = .ok [] := by
  rintro ⟨script, hs, hd⟩
  have he := Except.ok.inj
    ((renderBuildScript_packaged broken ⟨[], "linux", .refusing⟩).symm.trans hs)
  obtain ⟨ds, hds, hiff⟩ := diff_published broken
  rw [he, hd] at hds
  exact absurd (hiff.1 (Except.ok.inj hds).symm '\u0085' (by decide)) (by decide)

end CrateScaffold.BuildScript
