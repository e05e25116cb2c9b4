import CrateScaffold.BuildScript.Verdict
import CrateScaffold.Proofs.BuildScript.Rendering

/-!
What a verdict without problems says about a script: it is the rendering of the template, and it
publishes what the coordinates say.
-/

namespace CrateScaffold.BuildScript

open Template

variable {c : Coordinates} {script t s : Text}

theorem publication_of_publicationProblems_eq_nil (h : publicationProblems script c = []) :
    ∃ p, Publication.read script = .ok p ∧ p.group = c.group ∧ p.artifact = c.package := by
  unfold publicationProblems at h
  cases hp : Publication.read script with
  | error f =>
    rw [hp] at h
    cases h
  | ok p =>
    rw [hp] at h
    obtain ⟨hg, ha⟩ := List.append_eq_nil_iff.1 h
    refine ⟨p, rfl, ?_, ?_⟩
    · by_contra hne
      rw [if_neg hne] at hg
      cases hg
    · by_contra hne
      rw [if_neg hne] at ha
      cases ha

theorem flatten_of_lineProblems_eq_nil (h : lineProblems script c t = []) :
    (expectedLines t c.context).map List.flatten = .ok script := by
  unfold lineProblems diff at h
  cases he : expectedLines t c.context with
  | error name =>
    rw [he] at h
    cases h
  | ok es =>
    rw [he] at h
    have hdiff : diffFrom 1 es (Text.lines script) = [] := List.map_eq_nil_iff.1 h
    rw [diffFrom_eq_nil_iff.1 hdiff]
    exact congrArg Except.ok (Text.flatten_lines script)

/-- A script without problems is the rendering of its template, publishes the coordinates and has
problems under any others. -/
theorem rendersTo_of_problems_eq_nil (script template : Text) (c : Coordinates)
    (hb : Text.UniformBreaks template) (ht : IsSkeleton template)
    (h : problems script c template = []) :
    RendersTo template c script ∧
      (∀ (l : Library) (site : Site), l.load site.files buildScriptName = .ok template →
        (l.renderBuildScript c site).2 = .ok script) ∧
      (∃ p, Publication.read script = .ok p ∧ p.group = c.group ∧ p.artifact = c.package) ∧
      ∀ c', problems script c' template = [] → c' = c := by
  obtain ⟨hpub, hline⟩ := List.append_eq_nil_iff.1 h
  obtain ⟨s, hs⟩ := ht.exists_fills c
  have he := (expectedLines_of_fills hs).symm.trans (flatten_of_lineProblems_eq_nil hline)
  cases Except.ok.inj he
  have hr := rendersTo_of_fills hs hb
  obtain ⟨p, hp, hg, ha⟩ := publication_of_publicationProblems_eq_nil hpub
  refine ⟨hr, fun l site hl => ?_, ⟨p, hp, hg, ha⟩, fun c' h' => ?_⟩
  · exact congrArg Prod.snd (Library.renderBuildScript_of_rendersTo hl hr)
  · obtain ⟨p', hp', hg', ha'⟩ :=
      publication_of_publicationProblems_eq_nil (List.append_eq_nil_iff.1 h').1
    cases hp.symm.trans hp'
    cases c
    cases c'
    simp_all

def publishedTemplate : Text :=
  "publishing \x7b\r\n  groupId = \"" ++ (placeholder [' '] .group [' '] ++
    ("\"\r\n  artifactId = \"" ++ (placeholder ['\t'] .package [] ++
      "\"\r\n  version = \"2\"\r\n\x7d\r\n")))

def publishedScript : Text :=
  "publishing \x7b\r\n  groupId = \"com.\x7b\x7bx\x7d\x7d\"\r\n" ++
    "  artifactId = \"\x7b# \x7b\x7bgroup_id\x7d\x7d\"\r\n  version = \"2\"\r\n\x7d\r\n"

theorem isSkeleton_publishedTemplate : IsSkeleton publishedTemplate := by
  have h : Fills tagLikeCoordinates publishedTemplate _ :=
    .static_append (by decide) (.value .group (by decide) (by decide)
      (.static_append (by decide) (.value .package (by decide) (by decide)
        (.of_isStatic (by decide)))))
  exact h.isSkeleton

theorem problems_publishedScript :
    problems publishedScript tagLikeCoordinates publishedTemplate = [] := by
  decide +kernel

theorem rendersTo_of_problems_eq_nil_published :
    Text.UniformBreaks publishedTemplate ∧ IsSkeleton publishedTemplate ∧
      problems publishedScript tagLikeCoordinates publishedTemplate = [] ∧
      RendersTo publishedTemplate tagLikeCoordinates publishedScript := by
  have hb : Text.UniformBreaks publishedTemplate := ⟨.crlf, by decide⟩
  have h := rendersTo_of_problems_eq_nil publishedScript publishedTemplate tagLikeCoordinates
    hb isSkeleton_publishedTemplate problems_publishedScript
  exact ⟨hb, isSkeleton_publishedTemplate, problems_publishedScript, h.1⟩

end CrateScaffold.BuildScript
