import CrateScaffold.Proofs.Manifest.Shape
import CrateScaffold.Proofs.Project.Building
import CrateScaffold.Proofs.Template.Piece
import CrateScaffold.Template.Packaged

/-!
The generated object loads the library that is bundled. The name is found twice: for the object
before anything is written, and for the copy when the build tool has ended; it is that of the crate
on the platform both times.
-/

namespace CrateScaffold

namespace FileTree

variable {t t' : FileTree} {p q : Path}

/-- A copy is there afterwards, and so are all directories. -/
theorem copy_eq_ok (h : t.copy p q = .ok t') :
    (∃ x, t'.stat q = .ok x) ∧ ∀ m, t.at? m = some .dir → t'.at? m = some .dir := by
  obtain ⟨x, -, h⟩ := bind_eq_ok.1 h
  cases x with
  | dir => cases h
  | file content executable =>
    obtain ⟨⟨l, e⟩, hloc, h⟩ := bind_eq_ok.1 h
    obtain ⟨rfl, -⟩ := locate_eq_ok hloc
    have hput : e ≠ some .dir ∧ t' = t.put q.location (.file content executable) := by
      obtain _ | (_ | _) := e
      · cases h
        exact ⟨nofun, rfl⟩
      · cases h
      · cases h
        exact ⟨nofun, rfl⟩
    obtain ⟨he, rfl⟩ := hput
    have hfile : (t.put q.location (.file content executable)).HoldsFile q content :=
      holdsFile_put hloc he
    obtain ⟨hne, hentry⟩ := (locate_eq_ok hloc).2 he
    exact ⟨⟨_, hfile.stat_eq (at?_put_self t _ hne)⟩,
      (preserves_put (l := []) (hentry ▸ he) (.inr hne)).dirs⟩

end FileTree

namespace Native

variable {h : Host} {w w' : World} {platform : Text} {libName : Value} {target resources p : Path}

/-- The library is bundled under its file name, and is there afterwards. -/
theorem bundle_eq_ok (hrun : (bundle platform libName target resources).exec h w = (.ok p, w')) :
    p = resources / Path.ofText (fileName platform libName) ∧ ∃ x, w'.files.stat p = .ok x := by
  unfold bundle at hrun
  simp only at hrun
  obtain ⟨⟨⟩, x₁, -, hrun⟩ := Action.exec_bind_eq_ok.1 hrun
  obtain ⟨there, x₂, -, hrun⟩ := Action.exec_bind_eq_ok.1 hrun
  cases there with
  | false => cases hrun
  | true =>
    obtain ⟨⟨⟩, x₃, -, hrun⟩ := Action.exec_bind_eq_ok.1 hrun
    obtain ⟨⟨⟩, x₄, -, hrun⟩ := Action.exec_bind_eq_ok.1 hrun
    obtain ⟨⟨⟩, v, -, hrun⟩ := Action.exec_bind_eq_ok.1 hrun
    rw [Action.exec_bind_of_ok Action.exec_get] at hrun
    obtain ⟨⟨⟩, u, hreach, hrun⟩ := Action.exec_bind_eq_ok.1 hrun
    obtain rfl := eq_of_exec_reach hreach
    split at hrun
    · cases hrun
    · obtain ⟨⟨⟩, x, hcopy, hrun⟩ := Action.exec_bind_eq_ok.1 hrun
      obtain ⟨⟨⟩, y, hlog, hpure⟩ := Action.exec_bind_eq_ok.1 hrun
      cases hpure
      cases hlog
      obtain ⟨t, ht, rfl⟩ := Action.exec_change_eq_ok hcopy
      obtain ⟨hthere, hdirs⟩ := FileTree.copy_eq_ok ht
      refine ⟨rfl, ?_⟩
      -- A directory in the place of the library takes the copy and stays.
      by_cases hdir : u.files.stat (resources / Path.ofText (fileName platform libName)) = .ok .dir
      · exact ⟨.dir, FileTree.stat_dir_of_dirs hdirs hdir⟩
      · rwa [target_of_stat hdir] at hthere

end Native

namespace Template

open Packaged (page libraryObject)

def loadOpening : Text := "NativeUtils.loadLibraryFromJar(\"/"

def loadCall (name : Text) : Text := loadOpening ++ name ++ "\")"

def objectOpening : Text :=
  "\n\n" ++ page ["import cz.adamh.utils.NativeUtils", "", "object Library \x7b",
    "    val CLEANER =", "        java.lang.ref.Cleaner.create()", "", "    init \x7b"] ++
    "        "

def objectPieces : List Piece := [
  .text (page ["/*", " * This file was generated by `jni_cli`", " *", " */", ""] ++ "package "),
  .name "project_root",
  .text (objectOpening ++ loadOpening),
  .name "native_library",
  .text ("\")" ++ page ["", "    \x7d", "\x7d"])]

theorem mapM_libraryObject :
    ((read libraryObject).map fun ns => ns.mapM Node.piece?).toOption =
      some (some objectPieces) := by
  unfold libraryObject objectPieces objectOpening loadOpening
  repeat rw [Packaged.page_ofList_cons]
  repeat rw [String.toList_ofList]
  decide +kernel

theorem read_libraryObject : ∃ ns, read libraryObject = .ok ns ∧ AreMadeOf ns objectPieces := by
  have hpieces := mapM_libraryObject
  cases hread : read libraryObject with
  | error f =>
    rw [hread] at hpieces
    cases hpieces
  | ok ns =>
    rw [hread] at hpieces
    exact ⟨ns, rfl, areMadeOf_of_mapM (Option.some.inj hpieces)⟩

def objectText (c : Coordinates) (library : Text) : Text :=
  objectPieces.flatMap (Piece.shown fun n =>
    if n = ("native_library" : Text) then library else c.root)

theorem loadCall_infix_objectText (c : Coordinates) (library : Text) :
    loadCall library <:+: objectText c library := by
  have hnames : ("project_root" : Text) ≠ "native_library" := by decide
  refine ⟨page ["/*", " * This file was generated by `jni_cli`", " *", " */", ""] ++ "package " ++
    c.root ++ objectOpening, page ["", "    \x7d", "\x7d"], ?_⟩
  simp only [objectText, objectPieces, List.flatMap_cons, List.flatMap_nil, Piece.shown,
    if_neg hnames, if_true, loadCall, List.append_assoc, List.append_nil]

/-- The packaged object is rendered for any package and any library. -/
theorem render_libraryObject {l : Library} {site : Site} (c : Coordinates) (library : Text)
    (hl : l.load site.files "kotlin/Library.kt" = .ok libraryObject) :
    (l.render "kotlin/Library.kt"
      (Library.contextOf c ++ [("native_library".toList, .text library)]) site).2 =
        .ok (objectText c library) := by
  obtain ⟨ns, hread, hns⟩ := read_libraryObject
  refine Library.render_of_areMadeOf hl hread hns rfl fun n hn => ?_
  have hname : n = ("project_root" : Text) ∨ n = ("native_library" : Text) := by
    simpa [objectPieces] using hn
  rcases hname with rfl | rfl
  · rfl
  · rfl

end Template

namespace Project

variable {o : Order} {b : Brief} {ps : List Path} {out : Outcome} {c : Crate} {h : Host}
variable {w w' : World} {p : Path}

theorem bundle_eq_ok (hrun : (bundle o c).exec h w = (.ok p, w')) :
    p = o.destination c h.platform ∧ ∃ x, w'.files.stat p = .ok x := by
  unfold bundle at hrun
  obtain ⟨⟨⟩, v, -, hrun⟩ := Action.exec_bind_eq_ok.1 hrun
  rw [Action.exec_bind_of_ok Action.exec_read] at hrun
  exact Native.bundle_eq_ok hrun

/-- A native stage that succeeds answers where the library is. -/
theorem artifact_of_buildStage (hbuild : o.build = true) (hc : b.crate = some c)
    (hrun : (buildStage o b ps).exec h w = (.ok out, w')) (hok : out.failure = none) :
    out.artifact = some (o.destination c h.platform) ∧
      ∃ x, w'.files.stat (o.destination c h.platform) = .ok x := by
  unfold buildStage at hrun
  simp only [hbuild, hc] at hrun
  obtain ⟨result, v, hattempt, hrun⟩ := Action.exec_bind_eq_ok.1 hrun
  rw [Action.exec_attempt] at hattempt
  cases result with
  | error f =>
    simp only at hrun
    split at hrun
    · cases hrun
      cases hok
    · cases hrun
  | ok p =>
    cases hrun
    have hbundle : (bundle o c).exec h w = (.ok p, w') := by
      obtain ⟨hfst, rfl⟩ := Prod.mk.inj hattempt
      exact Prod.ext (Except.ok.inj hfst) rfl
    obtain ⟨rfl, hthere⟩ := bundle_eq_ok hbundle
    exact ⟨rfl, hthere⟩

/-- Where a build succeeds with the packaged template, the planned object loads the library that was
bundled: the call names the file that the run answers, which is among the resources. -/
theorem loads_bundled_library (o : Order) (h : Host) (w w' : World) (out : Outcome)
    (hr : w.registry.Reachable) (hbuild : o.build = true)
    (htemplate : (library o.root).load w.files "kotlin/Library.kt" =
      .ok Template.Packaged.libraryObject)
    (hslash : ∀ p c, o.manifest = some p → Manifest.read w.files p = .ok c →
      '/' ∉ c.libName.display)
    (hrun : (run o).exec h w = (.ok out, w')) (hok : out.succeeded = true) :
    ∃ b fs f s artifact name, ((prepare o).exec h w).1 = .ok (b, fs) ∧ f ∈ fs ∧
      f.path = Path.ofText (Plugin.libraryPath b.coordinates) ∧ f.content = .text s ∧
      out.artifact = some artifact ∧ artifact.parent = o.output / resources ∧
      artifact.parts.getLast? = some name ∧ Template.loadCall name <:+: s ∧
      ∃ x, w'.files.stat artifact = .ok x := by
  have hnone : out.failure = none := Option.isNone_iff_eq_none.1 hok
  rcases run_eq_ok hrun with ⟨-, f, rfl⟩ | ⟨b, fs, u, v, hp, -, hstage⟩
  · cases hnone
  · obtain ⟨hbrief, hplan, -⟩ := prepare_eq_ok.1 (congrArg Prod.fst hp)
    obtain ⟨-, hcrate, hlibrary⟩ := brief_eq_ok hbrief
    obtain ⟨c, hc, -⟩ := exists_crate hbuild hbrief
    rw [hc] at hcrate
    obtain ⟨m, hm, hread⟩ := crate_eq_some hcrate
    have hplain := hslash m c hm hread
    obtain ⟨hartifact, hthere⟩ := artifact_of_buildStage hbuild hc hstage hnone
    rw [← child_resources hplain] at hartifact hthere
    obtain ⟨s, hs, f, hf, hpath, hcontent⟩ := object_of_plan hr hplan
    have hname : Native.fileName h.platform (Plugin.libraryName b) = c.fileName h.platform := by
      rw [Plugin.libraryName, hc, Crate.fileName]
    rw [hlibrary, hname, Template.render_libraryObject _ _ htemplate] at hs
    cases hs
    refine ⟨b, fs, f, _, _, c.fileName h.platform, congrArg Prod.fst hp, hf, hpath, hcontent,
      hartifact, ?_, ?_, Template.loadCall_infix_objectText _ _, hthere⟩
    · simp [Path.child, Path.parent]
    · simp [Path.child]

/-- A run succeeds when its project is written and the build leaves the library. -/
theorem succeeded_of_builds {fs : List PlannedFile} {content : Bytes} {u v : World}
    (hbuild : o.build = true) (hp : (prepare o).exec h w = (.ok (b, fs), u))
    (hwrite : (write o.output fs (directories b.coordinates b.bindings)).exec h u = (.ok ps, v))
    (hc : b.crate = some c) (hb : Buildable o h v c) (hanswers : Answers o h v c)
    (hbuilds : Builds o h v c content) :
    ∃ out w', (run o).exec h w = (.ok out, w') ∧ out.succeeded = true := by
  obtain ⟨hbrief, -, -⟩ := prepare_eq_ok.1 (congrArg Prod.fst hp)
  obtain ⟨c', hc', hm⟩ := exists_crate hbuild hbrief
  obtain rfl : c = c' := Option.some.inj (hc.symm.trans hc')
  have hres := stat_dir_of_write hwrite (mem_directories.2 (.inr (.inl rfl)))
  have hrun : (run o).exec h w = (buildStage o b ps).exec h v := by
    rw [exec_run_of_ok hp, Action.exec_bind_of_ok hwrite]
  rcases exec_bundle hb hm hres with
    ⟨-, content', executable, records, -, hexec⟩ | ⟨e, -, hno, -⟩ | ⟨e, hnot, -⟩
  · exact ⟨_, _, hrun.trans (exec_buildStage hbuild hc hexec), rfl⟩
  · exact absurd hbuilds (hno content)
  · exact absurd hanswers hnot

section Sample

def packaged : FileTree :=
  crated.filter fun e => e.1 != [(".jni-cli" : Text), "templates", "kotlin", "Library.kt"]

theorem load_packaged : (library buildOrder.root).load packaged "kotlin/Library.kt" =
    .ok Template.Packaged.libraryObject := by
  have hsegments : Template.segments? "kotlin/Library.kt" =
      some [("kotlin" : Text), "Library.kt"] := by decide +kernel
  have hoverride : Template.override? Path.here packaged ["kotlin", "Library.kt"] = none := by
    decide +kernel
  change (Template.Library.project Path.here).load packaged "kotlin/Library.kt" = _
  unfold Template.Library.load
  rw [hsegments]
  simp only [hoverride]
  rfl

def packagedObject : Text := Template.objectText sampleBrief.coordinates "liblib.so"

theorem contributed_packaged (hlib : c.libName.display = "lib") :
    Contributed (cratedBrief c) ⟨packaged, "linux", .refusing⟩ Plugin.bundled
      (contributionsWith "org" packagedObject).flatten := by
  have hname : Native.fileName "linux" (Plugin.libraryName (cratedBrief c)) = "liblib.so" :=
    fileName_crated hlib
  refine contributed_of_renders ⟨rfl, ?_, ?_, ?_⟩
  · change (sampleBrief.templates.renderBuildScript sampleBrief.coordinates
      ⟨packaged, "linux", .refusing⟩).2 = _
    decide +kernel
  · change ∀ name ∈ _, (sampleBrief.templates.render name (Template.Library.contextOf
      sampleBrief.coordinates ++ _) ⟨packaged, "linux", .refusing⟩).2 = _
    decide +kernel
  · rw [hname]
    exact Template.render_libraryObject _ _ load_packaged

def packagedTree : FileTree :=
  ((write buildOrder.output (planWith "org" packagedObject)
    (directories sampleBrief.coordinates [])).exec buildHost (.ofFiles packaged)).2.files

theorem accepts_packaged : Accepts packaged (planWith "org" packagedObject) := by
  decide +kernel

theorem takesLibrary_packagedTree : TakesLibrary packagedTree :=
  accepts_packaged.library

theorem loads_bundled_library_packaged :
    ∃ out w' name s artifact, (run buildOrder).exec buildHost (.ofFiles packaged) = (.ok out, w') ∧
      out.succeeded = true ∧ out.artifact = some artifact ∧ artifact.parts.getLast? = some name ∧
      Template.loadCall name <:+: s ∧
      ∃ b fs, ((prepare buildOrder).exec buildHost (.ofFiles packaged)).1 = .ok (b, fs) ∧
        ∃ f ∈ fs, f.content = .text s := by
  obtain ⟨c, hread, hlib⟩ := exists_crate_of_namesLib accepts_packaged.named
  obtain ⟨hm, -⟩ := Manifest.manifest_of_read hread
  have hprepare : ((prepare buildOrder).exec buildHost (.ofFiles packaged)).1 =
      .ok (cratedBrief c, planWith "org" packagedObject) :=
    prepare_of_contributed hread (contributed_packaged hlib)
      (ofContributions_contributionsWith "org" packagedObject) accepts_packaged.fresh
  have hdirs : directories (cratedBrief c).coordinates (cratedBrief c).bindings =
      directories sampleBrief.coordinates [] := rfl
  have hok : ((write buildOrder.output (planWith "org" packagedObject)
      (directories (cratedBrief c).coordinates (cratedBrief c).bindings)).exec buildHost
        (.ofFiles packaged)).1.isOk = true := by
    rw [hdirs]
    exact accepts_packaged.written
  obtain ⟨u, ps, v, hp, hwrite, hv⟩ := exists_write_of_isOk hprepare hok
  rw [hdirs, ← packagedTree] at hv
  obtain ⟨out, w', hrun, hsucceeded⟩ := succeeded_of_builds rfl hp hwrite rfl
    (buildable_crated takesLibrary_packagedTree hv hm hlib) (answers_crated hm hlib)
    (builds_crated takesLibrary_packagedTree hv hm hlib)
  have hslash : ∀ p c', buildOrder.manifest = some p → Manifest.read packaged p = .ok c' →
      '/' ∉ c'.libName.display := by
    rintro _ c' ⟨⟩ hread'
    cases hread.symm.trans hread'
    rw [hlib]
    decide
  obtain ⟨b, fs, f, s, artifact, name, hprepared, hf, -, hcontent, hartifact, -, hname, hcall, -⟩ :=
    loads_bundled_library buildOrder buildHost (.ofFiles packaged) w' out .empty rfl load_packaged
      hslash hrun hsucceeded
  exact ⟨out, w', name, s, artifact, hrun, hsucceeded, hartifact, hname, hcall, b, fs, hprepared, f,
    hf, hcontent⟩

end Sample

end Project

end CrateScaffold
