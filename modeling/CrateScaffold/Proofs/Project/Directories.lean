import CrateScaffold.Proofs.FileTree.PathText
import CrateScaffold.Proofs.Project.Plan

/-!
The directories of a project. They are made from names whose dots count as slashes, and joining
takes an absolute path for the whole; so they stay inside the project, with the first of them where
the file that loads the library goes, only as long as no name begins with a dot or a slash.
-/

namespace CrateScaffold.Project

variable {c : Coordinates} {bs : List Binding} {d e : Path} {ds es : List Path} {s : Text}

/-- A name that becomes an absolute path when its dots are taken for slashes. -/
def IsRooted (s : Text) : Prop := s.head? = some '.' ∨ s.head? = some '/'

instance (s : Text) : Decidable (IsRooted s) := inferInstanceAs (Decidable (_ ∨ _))

theorem head?_mapChar_eq_slash : (Text.mapChar '.' '/' s).head? = some '/' ↔ IsRooted s := by
  cases s with
  | nil => simp [Text.mapChar, IsRooted]
  | cons c s =>
    by_cases hc : c = '.'
    · simp [Text.mapChar, IsRooted, hc]
    · simp [Text.mapChar, IsRooted, hc]

theorem leaves_mapChar_eq_false_iff :
    (Path.ofText (Text.mapChar '.' '/' s)).leaves = false ↔ ¬ IsRooted s := by
  have hdots := Path.dots_not_mem_partsOf (Text.not_mem_mapChar (by decide : '.' ≠ '/') s)
  rw [Path.leaves_ofText_eq_false_iff, Ne, head?_mapChar_eq_slash]
  exact and_iff_left hdots

theorem mem_addNew : d ∈ addNew ds e ↔ d ∈ ds ∨ d = e := by
  unfold addNew
  split
  · next he =>
    constructor
    · exact Or.inl
    · rintro (hd | rfl)
      · exact hd
      · simpa using he
  · simp

theorem mem_foldl_addNew : d ∈ es.foldl addNew ds ↔ d ∈ ds ∨ d ∈ es := by
  induction es generalizing ds with
  | nil => simp
  | cons e es ih => rw [List.foldl_cons, ih, mem_addNew, List.mem_cons, or_assoc]

/-- What is added comes after what is there. -/
theorem head?_foldl_addNew (d : Path) (ds es : List Path) :
    (es.foldl addNew (d :: ds)).head? = some d := by
  induction es generalizing ds with
  | nil => rfl
  | cons e es ih =>
    rw [List.foldl_cons, addNew]
    split
    · exact ih ds
    · exact ih (ds ++ [e])

def objectDir (c : Coordinates) : Path :=
  sources / Path.ofText c.groupPath / Path.ofText c.package

theorem mem_directories : d ∈ directories c bs ↔
    d = objectDir c ∨ d = resources ∨ d = "gradle/wrapper" ∨ ∃ b ∈ bs, bindingDir b = d := by
  unfold directories
  rw [mem_foldl_addNew]
  simp [objectDir, or_assoc]

theorem head?_directories : (directories c bs).head? = some (objectDir c) :=
  head?_foldl_addNew _ _ _

theorem leaves_sources : sources.leaves = false := by decide

theorem leaves_bindingDir_eq_false_iff {b : Binding} :
    (bindingDir b).leaves = false ↔ ¬ IsRooted b.package := by
  unfold bindingDir Binding.packagePath
  rw [Path.leaves_join_eq_false_iff, leaves_mapChar_eq_false_iff]
  exact and_iff_right leaves_sources

theorem leaves_objectDir_eq_false_iff : (objectDir c).leaves = false ↔
    ¬ IsRooted c.group ∧ c.package.head? ≠ some '/' ∧ ['.', '.'] ∉ Path.partsOf c.package := by
  unfold objectDir Coordinates.groupPath
  rw [Path.leaves_join_eq_false_iff, Path.leaves_join_eq_false_iff, leaves_mapChar_eq_false_iff,
    Path.leaves_ofText_eq_false_iff]
  exact and_congr_left fun _ => and_iff_right leaves_sources

theorem libraryPath_eq : Plugin.libraryPath c = "src/main/kotlin".toList ++ '/' ::
    (c.groupPath ++ '/' :: (c.package ++ '/' :: "Library.kt".toList)) := by
  have hsources : "src/main/kotlin/".toList = "src/main/kotlin".toList ++ ['/'] := by decide
  have hlibrary : "/Library.kt".toList = '/' :: "Library.kt".toList := by decide
  unfold Plugin.libraryPath
  rw [hsources, hlibrary]
  simp only [List.append_assoc, List.cons_append, List.nil_append]

theorem partsOf_libraryPath : Path.partsOf (Plugin.libraryPath c) =
    sources.parts ++ Path.partsOf c.groupPath ++ Path.partsOf c.package ++
      ["Library.kt".toList] := by
  have hlast : Path.partsOf "Library.kt".toList = ["Library.kt".toList] := by decide
  rw [libraryPath_eq, Path.partsOf_append_cons, Path.partsOf_append_cons,
    Path.partsOf_append_cons, hlast, List.append_assoc, List.append_assoc]
  rfl

theorem parent_libraryPath : (Path.ofText (Plugin.libraryPath c)).parent =
    ⟨.relative, sources.parts ++ Path.partsOf c.groupPath ++ Path.partsOf c.package⟩ := by
  have hanchor : (Path.ofText (Plugin.libraryPath c)).anchor = .relative := by
    rw [Path.anchor_ofText_eq_relative_iff, libraryPath_eq]
    simp
  have hparts : (Path.ofText (Plugin.libraryPath c)).parts = _ := partsOf_libraryPath
  rw [Path.parent, hanchor, hparts, List.dropLast_concat]

/-- Joined from relative paths, the directory is the one that the file is planned in. -/
theorem objectDir_eq_iff : objectDir c = (Path.ofText (Plugin.libraryPath c)).parent ↔
    ¬ IsRooted c.group ∧ c.package.head? ≠ some '/' := by
  rw [parent_libraryPath, ← head?_mapChar_eq_slash, ← Ne,
    ← Path.anchor_ofText_eq_relative_iff, ← Path.anchor_ofText_eq_relative_iff]
  change sources / Path.ofText c.groupPath / Path.ofText c.package = _ ↔
    (Path.ofText c.groupPath).anchor = _ ∧ _
  constructor
  · intro heq
    have hp : (Path.ofText c.package).anchor = .relative := by
      by_contra hp
      rw [Path.join_of_absolute _ hp] at heq
      exact hp (congrArg Path.anchor heq)
    refine ⟨?_, hp⟩
    by_contra hg
    rw [Path.join_of_relative _ hp, Path.join_of_absolute _ hg] at heq
    exact hg (congrArg Path.anchor heq)
  · rintro ⟨hg, hp⟩
    rw [Path.join_of_relative _ hp, Path.join_of_relative _ hg]
    rfl

theorem dots_not_mem_of_plan {b : Brief} {h : Host} {w : World} {fs : List PlannedFile}
    (hr : w.registry.Reachable) (hplan : ((plan b).exec h w).1 = .ok fs) :
    ['.', '.'] ∉ Path.partsOf b.coordinates.package := by
  obtain ⟨-, -, f, hf, hpath, -⟩ := object_of_plan hr hplan
  have hinside := (inside_of_plan hplan).1 f hf
  rw [hpath, Path.leaves_ofText_eq_false_iff, partsOf_libraryPath] at hinside
  intro hdots
  exact hinside.2 (by simp [hdots])

/-- Where a plan is made, directories that are relative stay inside the project. -/
theorem leaves_of_relative (hdots : ['.', '.'] ∉ Path.partsOf c.package)
    (hrelative : ∀ d ∈ directories c bs, d.anchor = .relative) :
    ∀ d ∈ directories c bs, d.leaves = false := by
  have hname : ∀ s : Text, (Path.ofText (Text.mapChar '.' '/' s)).anchor = .relative →
      (Path.ofText (Text.mapChar '.' '/' s)).leaves = false := fun s hs =>
    Path.leaves_eq_false_iff.2
      ⟨hs, Path.dots_not_mem_partsOf (Text.not_mem_mapChar (by decide : '.' ≠ '/') s)⟩
  intro d hd
  have hd' := hrelative d hd
  rcases mem_directories.1 hd with rfl | rfl | rfl | ⟨b, hb, rfl⟩
  · obtain ⟨hobject, hpackage⟩ := Path.anchor_join_eq_relative_iff.1 hd'
    obtain ⟨-, hgroup⟩ := Path.anchor_join_eq_relative_iff.1 hobject
    refine Path.leaves_join_eq_false_iff.2 ⟨Path.leaves_join_eq_false_iff.2 ⟨?_, ?_⟩, ?_⟩
    · exact leaves_sources
    · exact hname _ hgroup
    · exact Path.leaves_eq_false_iff.2 ⟨hpackage, hdots⟩
  · decide
  · decide
  · obtain ⟨-, hpackage⟩ := Path.anchor_join_eq_relative_iff.1 hd'
    exact Path.leaves_join_eq_false_iff.2 ⟨leaves_sources, hname _ hpackage⟩

/-- All directories stay inside the project just when neither the group nor the package of a binding
begins with a dot or a slash, and the package name neither begins with a slash nor has a part that
leads to the directory above; with such a part no plan is made either. The first of them is where
the file that loads the library is planned just when the group begins with neither and the package
name with no slash. -/
theorem directories_inside_iff (c : Coordinates) (bs : List Binding) :
    ((∀ d ∈ directories c bs, d.leaves = false) ↔
      (¬ IsRooted c.group ∧ c.package.head? ≠ some '/' ∧
        ['.', '.'] ∉ Path.partsOf c.package) ∧ ∀ b ∈ bs, ¬ IsRooted b.package) ∧
    ((directories c bs).head? = some (Path.ofText (Plugin.libraryPath c)).parent ↔
      ¬ IsRooted c.group ∧ c.package.head? ≠ some '/') ∧
    ∀ b h w fs, b.coordinates = c → w.registry.Reachable → ((plan b).exec h w).1 = .ok fs →
      ['.', '.'] ∉ Path.partsOf c.package := by
  refine ⟨?_, ?_, ?_⟩
  · rw [← leaves_objectDir_eq_false_iff]
    simp only [← leaves_bindingDir_eq_false_iff, mem_directories]
    constructor
    · intro hall
      exact ⟨hall _ (.inl rfl), fun b hb => hall _ (.inr (.inr (.inr ⟨b, hb, rfl⟩)))⟩
    · rintro ⟨hobject, hbindings⟩ d (rfl | rfl | rfl | ⟨b, hb, rfl⟩)
      · exact hobject
      · decide
      · decide
      · exact hbindings b hb
  · rw [head?_directories, Option.some_inj, objectDir_eq_iff]
  · rintro b h w fs rfl hr hplan
    exact dots_not_mem_of_plan hr hplan

def dotted : Coordinates := ⟨".a", "p", by decide +kernel, isIdentifier_p⟩

/-- The plan is made, and the first directory of the project is one at the root of the system. -/
theorem directories_dotted_escape :
    ((plan ⟨dotted, none, [], .project Path.here⟩).exec twoPlugins (.ofFiles overriding)).1.isOk ∧
      (directories dotted []).head? = some ("/a/p" : Path) ∧ ("/a/p" : Path).isAbsolute ∧
      (Path.ofText (Plugin.libraryPath dotted)).parent = ("src/main/kotlin/a/p" : Path) := by
  refine ⟨?_, ?_, ?_, ?_⟩
  · decide +kernel
  · decide +kernel
  · decide +kernel
  · decide +kernel

end CrateScaffold.Project
