import CrateScaffold.Proofs.FileTree.Apart
import CrateScaffold.Proofs.Plugin.Registration

/-!
What plugins read. The bundled plugins read nothing but templates, so where the overrides are apart
from the output directory, what is written there does not change what they contribute.
-/

namespace CrateScaffold

namespace Template

variable {output root : Path} {t t' : FileTree} {cs : List Text} {l : Library}

def Library.Apart (output : Path) : Library → Prop
  | .project root => (overrides root).Apart output
  | .packaged => True
  | .empty => True

theorem override?_eq_toOption (t : FileTree) : override? root t cs =
    match (t.stat ⟨(overrides root).anchor, (overrides root).parts ++ cs⟩).toOption with
    | some (.file content _) => some content
    | _ => none := by
  unfold override?
  cases t.stat ⟨(overrides root).anchor, (overrides root).parts ++ cs⟩ with
  | error f => rfl
  | ok x => cases x <;> rfl

theorem override?_eq (h : FileTree.SameApart output t t') (hroot : (overrides root).Apart output)
    (hcs : ['.', '.'] ∉ cs) : override? root t' cs = override? root t cs := by
  have happart : (Path.mk (overrides root).anchor ((overrides root).parts ++ cs)).Apart output :=
    hroot.below (List.prefix_append _ _) (by
      rw [List.mem_append, not_or]
      exact ⟨hroot.plain, hcs⟩)
  rw [override?_eq_toOption, override?_eq_toOption, h.toOption_stat_eq happart]

/-- What is loaded depends on the tree only through the overrides. -/
theorem Library.load_congr (h : ∀ root cs, l = .project root → ['.', '.'] ∉ cs →
    override? root t' cs = override? root t cs) (name : Text) : l.load t' name = l.load t name := by
  cases l with
  | empty => rfl
  | packaged =>
    unfold load
    cases segments? name with
    | none => rfl
    | some cs => rfl
  | project root =>
    unfold load
    cases hcs : segments? name with
    | none => rfl
    | some cs =>
      have hdots : ['.', '.'] ∉ cs := by
        unfold segments? at hcs
        simp only at hcs
        split at hcs
        · cases hcs
        · next hno =>
          cases hcs
          simpa using hno
      simp only [h root cs rfl hdots]

theorem Library.load_eq (h : FileTree.SameApart output t t') (hl : l.Apart output) (name : Text) :
    l.load t' name = l.load t name := by
  refine load_congr (fun root cs hroot hcs => ?_) name
  subst hroot
  exact override?_eq h hl hcs

theorem Library.render_congr {s s' : Site} (h : ∀ name, l.load s'.files name = l.load s.files name)
    (hengine : s'.engine = s.engine) (name : Text) (c : Context) :
    (l.render name c s').2 = (l.render name c s).2 := by
  unfold render source
  simp only [Reading.snd_bind, Reading.snd_ofTree, Reading.snd_ofSite, h, hengine, funext h]
  rfl

theorem Library.render_eq {s s' : Site} (h : FileTree.SameApart output s.files s'.files)
    (hl : l.Apart output) (hengine : s'.engine = s.engine) (name : Text) (c : Context) :
    (l.render name c s').2 = (l.render name c s).2 :=
  render_congr (load_eq h hl) hengine name c

end Template

namespace Plugin

variable {p : Plugin} {output : Path} {b : Brief} {s s' : Site}

/-- What is found in the output directory or above it has no part in what the plugin contributes. -/
def ReadsApart (p : Plugin) (output : Path) : Prop :=
  ∀ (b : Brief) (s s' : Site), b.templates.Apart output → s'.platform = s.platform →
    s'.engine = s.engine → FileTree.SameApart output s.files s'.files →
      (p.contributions b s').2 = (p.contributions b s).2

theorem readsApart_gradle (output : Path) : gradle.ReadsApart output := by
  intro b s s' hl _ hengine h
  change (gradleFiles b s').2 = (gradleFiles b s).2
  simp only [gradleFiles, Template.Library.renderBuildScript, Reading.snd_bind,
    Template.Library.render_eq h hl hengine, Reading.snd_pure]

theorem readsApart_kotlin (output : Path) : kotlin.ReadsApart output := by
  intro b s s' hl hplatform hengine h
  change (kotlinFiles b s').2 = (kotlinFiles b s).2
  simp only [kotlinFiles, Reading.snd_bind, Reading.snd_platform, hplatform,
    Template.Library.render_eq h hl hengine, Reading.snd_pure]

theorem readsApart_bundled (hp : p ∈ bundled) (output : Path) : p.ReadsApart output := by
  rcases List.mem_cons.1 hp with rfl | hp
  · exact readsApart_gradle output
  · rcases List.mem_cons.1 hp with rfl | hp
    · exact readsApart_kotlin output
    · cases hp

/-- Whatever plugins a registry holds after loading, they read apart from the output directory if
those do that do not come with the program. -/
theorem readsApart_of_load {r : Registry} {external : List Plugin} {trouble : Option Text}
    (h : ∀ q ∈ r.plugins ++ external, q ∈ bundled ∨ q.ReadsApart output)
    (hp : p ∈ (r.load external trouble).1.plugins) : p.ReadsApart output := by
  have hall : ∀ q ∈ r.plugins ++ external, q.ReadsApart output := fun q hq =>
    (h q hq).elim (readsApart_bundled · output) id
  rcases List.mem_append.1 (Registry.load_subset r external trouble hp) with hp | hp
  · exact hall p (List.mem_append_left _ hp)
  · rcases List.mem_append.1 hp with hp | hp
    · exact readsApart_bundled hp output
    · exact hall p (List.mem_append_right _ hp)

end Plugin

end CrateScaffold
