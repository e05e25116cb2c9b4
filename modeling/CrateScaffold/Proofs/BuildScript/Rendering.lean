import CrateScaffold.Proofs.BuildScript.Substitution
import CrateScaffold.Proofs.Template.SkeletonRun

/-!
Rendering of a build script from a skeleton. The template engine and the line by line substitution
give the same text, in which nothing but the placeholders is changed.
-/

namespace CrateScaffold.BuildScript

open Template

/-- Whatever library a skeleton comes from, rendering replaces its placeholders by the values and
leaves every other character, and so does substitution in its lines. -/
theorem render_eq_substituted_lines (l : Library) (site : Site) (c : Coordinates) (t : Text)
    (hl : l.load site.files buildScriptName = .ok t) (hb : Text.UniformBreaks t)
    (ht : IsSkeleton t) :
    ∃ s, Fills c t s ∧ (l.renderBuildScript c site).2 = .ok s ∧
      (expectedLines t c.context).map List.flatten = .ok s := by
  obtain ⟨s, hs⟩ := ht.exists_fills c
  have hr := Library.renderBuildScript_of_rendersTo hl (rendersTo_of_fills hs hb)
  exact ⟨s, hs, congrArg Prod.snd hr, expectedLines_of_fills hs⟩

def spacedTemplate : Text :=
  "settings \x7b \r\n" ++ (placeholder ['\t'] .group [' ', ' '] ++ (":" ++
    (placeholder [] .package [] ++ "\x7d\r\n")))

def tagLikeCoordinates : Coordinates :=
  ⟨"com.\x7b\x7bx\x7d\x7d", "\x7b# \x7b\x7bgroup_id\x7d\x7d", by decide +kernel, by decide +kernel⟩

def overridden : FileTree := [
  ([".jni-cli"], .dir), ([".jni-cli", "templates"], .dir),
  ([".jni-cli", "templates", "gradle"], .dir),
  ([".jni-cli", "templates", "gradle", "build.gradle.kts"],
    .file (Utf8.encode spacedTemplate) false)]

theorem isSkeleton_spacedTemplate : IsSkeleton spacedTemplate := by
  have h : Fills tagLikeCoordinates spacedTemplate _ :=
    .static_append (by decide) (.value .group (by decide) (by decide)
      (.static_append (by decide) (.value .package (by decide) (by decide)
        (.of_isStatic (by decide)))))
  exact h.isSkeleton

theorem load_overridden : (Library.project Path.here).load overridden buildScriptName =
    .ok spacedTemplate := by
  decide +kernel

theorem uniformBreaks_spacedTemplate : Text.UniformBreaks spacedTemplate := ⟨.crlf, by decide⟩

theorem render_eq_substituted_lines_override :
    (Library.project Path.here).load overridden buildScriptName = .ok spacedTemplate ∧
      Text.UniformBreaks spacedTemplate ∧ IsSkeleton spacedTemplate ∧
      ∃ s, Fills tagLikeCoordinates spacedTemplate s ∧
        ((Library.project Path.here).renderBuildScript tagLikeCoordinates
          ⟨overridden, "linux", .refusing⟩).2 = .ok s ∧
        (expectedLines spacedTemplate tagLikeCoordinates.context).map List.flatten = .ok s :=
  ⟨load_overridden, uniformBreaks_spacedTemplate, isSkeleton_spacedTemplate,
    render_eq_substituted_lines (.project Path.here) ⟨overridden, "linux", .refusing⟩
      tagLikeCoordinates spacedTemplate load_overridden uniformBreaks_spacedTemplate
      isSkeleton_spacedTemplate⟩

end CrateScaffold.BuildScript
