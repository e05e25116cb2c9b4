import CrateScaffold.Project.Generation
import CrateScaffold.Proofs.Project.Plan
import CrateScaffold.Proofs.Project.Writing

/-!
No project is left half made by a refusal. All that can be refused is found out by readings, before
the first file is written or the build tool is called; what fails after that is the native build.
-/

namespace CrateScaffold.Project

variable {o : Order} {b : Brief} {fs : List PlannedFile} {ps : List Path} {out : Outcome}
variable {site : Site} {h : Host} {w w' : World} {f : Failure} {c : Crate}

theorem checkOverwrite_of_holds {output : Path} (hs : site.files.holds (script output) = .ok true) :
    (checkOverwrite output false site).2 = .error (.projectExists (script output)) := by
  unfold checkOverwrite
  rw [Reading.snd_bind, Reading.snd_ofTree, hs]
  rfl

theorem checkOverwrite_of_force {output : Path} {there : Bool}
    (hs : site.files.holds (script output) = .ok there) :
    (checkOverwrite output true site).2 = .ok () := by
  unfold checkOverwrite
  rw [Reading.snd_bind, Reading.snd_ofTree, hs]
  cases there with
  | false => rfl
  | true => rfl

/-- A crate is found only by reading the manifest. -/
theorem crate_eq_some {manifest : Option Path} {build : Bool}
    (hc : (crate manifest build site).2 = .ok (some c)) :
    ∃ p, manifest = some p ∧ Manifest.read site.files p = .ok c := by
  cases manifest with
  | none =>
    cases build with
    | true => cases hc
    | false => cases hc
  | some p =>
    unfold crate at hc
    obtain ⟨present, -, hc⟩ := Reading.snd_bind_eq_ok.1 hc
    cases present with
    | false =>
      cases build with
      | true => cases hc
      | false => cases hc
    | true =>
      obtain ⟨d, hread, hc⟩ := Reading.snd_bind_eq_ok.1 hc
      obtain ⟨⟨⟩, -, hpure⟩ := Reading.snd_bind_eq_ok.1 hc
      cases hpure
      exact ⟨p, rfl, mapError_eq_ok.1 hread⟩

theorem holds_of_read {t : FileTree} {p : Path} (hread : Manifest.read t p = .ok c) :
    t.holds p = .ok true := by
  obtain ⟨document, hload, -⟩ := bind_eq_ok.1 hread
  unfold Manifest.load at hload
  obtain ⟨present, hpresent, hload⟩ := bind_eq_ok.1 hload
  cases present with
  | false => cases hload
  | true => exact mapError_eq_ok.1 hpresent

theorem crate_of_read {p : Path} {build : Bool}
    (hread : Manifest.read site.files p = .ok c) :
    (crate (some p) build site).2 = .ok (some c) := by
  refine Reading.snd_bind_eq_ok.2 ⟨true, mapError_eq_ok.2 (holds_of_read hread), ?_⟩
  refine Reading.snd_bind_eq_ok.2 ⟨c, mapError_eq_ok.2 hread, ?_⟩
  exact Reading.snd_bind_eq_ok.2 ⟨(), rfl, rfl⟩

theorem brief_eq_ok (hb : (brief o site).2 = .ok b) :
    Coordinates.of? o.group o.package = .ok b.coordinates ∧
      (crate o.manifest o.build site).2 = .ok b.crate ∧ b.templates = library o.root := by
  unfold brief at hb
  obtain ⟨coordinates, hcoordinates, hb⟩ := Reading.snd_bind_eq_ok.1 hb
  obtain ⟨crate, hcrate, hb⟩ := Reading.snd_bind_eq_ok.1 hb
  obtain ⟨bindings, -, hpure⟩ := Reading.snd_bind_eq_ok.1 hb
  cases hpure
  exact ⟨mapError_eq_ok.1 hcoordinates, hcrate, rfl⟩

theorem brief_of_coordinates {c : Coordinates} (hc : Coordinates.of? o.group o.package = .ok c) :
    (brief o site).2 = (crate o.manifest o.build site).2 >>= fun crate =>
      (bindings o.source site).2 >>= fun bindings =>
        .ok ⟨c, crate, bindings, library o.root⟩ := by
  simp only [brief, Reading.snd_bind, Reading.snd_ofExcept, hc]
  rfl

theorem keeps_prepare : (prepare o).Keeps World.SameTree :=
  Action.Keeps.bind World.SameTree.trans (Action.keeps_reading _) fun _ =>
    Action.Keeps.bind World.SameTree.trans keeps_plan fun _ =>
      Action.Keeps.bind World.SameTree.trans (Action.keeps_reading _) fun _ =>
        Action.keeps_pure _

/-- A plan is prepared just when its brief is found, it can be made and no project is in its way. -/
theorem prepare_eq_ok : ((prepare o).exec h w).1 = .ok (b, fs) ↔
    (brief o ⟨w.files, h.platform, h.engine⟩).2 = .ok b ∧ ((plan b).exec h w).1 = .ok fs ∧
      (checkOverwrite o.output o.force ⟨w.files, h.platform, h.engine⟩).2 = .ok () := by
  -- What was logged before has no part in the plan.
  have hplan : ∀ b fs, ((plan b).exec h ((Action.reading (brief o)).exec h w).2).1 = .ok fs ↔
      ((plan b).exec h w).1 = .ok fs := by
    intro b fs
    rw [plan_eq_ok, plan_eq_ok]
    rfl
  have hfiles : ∀ b, ((plan b).exec h ((Action.reading (brief o)).exec h w).2).2.files = w.files :=
    fun b => (keeps_plan h _).files
  unfold prepare
  rw [Action.fst_bind_eq_ok]
  constructor
  · rintro ⟨b', hbrief, hrest⟩
    obtain ⟨fs', hfs, hrest⟩ := Action.fst_bind_eq_ok.1 hrest
    obtain ⟨⟨⟩, hcheck, hpure⟩ := Action.fst_bind_eq_ok.1 hrest
    cases hpure
    rw [Action.exec_reading, hfiles] at hcheck
    exact ⟨hbrief, (hplan b fs).1 hfs, hcheck⟩
  · rintro ⟨hbrief, hfs, hcheck⟩
    refine ⟨b, hbrief, Action.fst_bind_eq_ok.2 ⟨fs, (hplan b fs).2 hfs, ?_⟩⟩
    refine Action.fst_bind_eq_ok.2 ⟨(), ?_, rfl⟩
    rw [Action.exec_reading, hfiles]
    exact hcheck

/-- The native stage adds nothing to what was written, and fails only where a crate is built. -/
theorem buildStage_eq_ok (hrun : (buildStage o b ps).exec h w = (.ok out, w')) :
    out.written = ps ∧ (out.failure ≠ none → o.build = true ∧ ∃ c, b.crate = some c) := by
  unfold buildStage at hrun
  simp only at hrun
  split at hrun
  · next c hbuild hcrate =>
    refine ⟨?_, fun _ => ⟨hbuild, c, hcrate⟩⟩
    obtain ⟨x, v, -, hrun⟩ := Action.exec_bind_eq_ok.1 hrun
    cases x with
    | ok p =>
      cases hrun
      rfl
    | error f =>
      simp only at hrun
      split at hrun
      · cases hrun
        rfl
      · cases hrun
  · cases hrun
    exact ⟨rfl, fun hfailure => absurd rfl hfailure⟩

theorem exec_run_of_error (hp : (prepare o).exec h w = (.error f, w')) :
    (run o).exec h w = (if f.isReported then .ok (.refused f) else .error f, w') := by
  have hattempt : (prepare o).attempt.exec h w = (.ok (.error f), w') := by
    rw [Action.exec_attempt, hp]
  unfold run
  rw [Action.exec_bind_of_ok hattempt]
  simp only
  split
  · rfl
  · rfl

theorem prepare_of_brief (hb : (brief o ⟨w.files, h.platform, h.engine⟩).2 = .error f) :
    ((prepare o).exec h w).1 = .error f :=
  Action.fst_bind_of_error hb

theorem prepare_of_plan (hb : (brief o ⟨w.files, h.platform, h.engine⟩).2 = .ok b)
    (hload : (w.registry.load h.plugins h.trouble).2.2 = .ok ())
    (hfiles : (files (w.registry.load h.plugins h.trouble).1 b ⟨w.files, h.platform, h.engine⟩).2 =
      .error f) :
    ((prepare o).exec h w).1 = .error f := by
  have hread : ((Action.reading (brief o)).exec h w).1 = .ok b := hb
  unfold prepare
  rw [Action.fst_bind_of_ok hread]
  exact Action.fst_bind_of_error (plan_of_files hload hfiles)

theorem exec_run_of_reported (hp : ((prepare o).exec h w).1 = .error f)
    (hf : f.isReported = true) : ∃ v, (run o).exec h w = (.ok (.refused f), v) := by
  rcases hprepared : (prepare o).exec h w with ⟨result, u⟩
  rw [hprepared] at hp
  change result = _ at hp
  subst hp
  rw [exec_run_of_error hprepared, if_pos hf]
  exact ⟨_, rfl⟩

theorem exec_run_of_ok (hp : (prepare o).exec h w = (.ok (b, fs), w')) :
    (run o).exec h w =
      (write o.output fs (directories b.coordinates b.bindings) >>= buildStage o b).exec h w' := by
  have hattempt : (prepare o).attempt.exec h w = (.ok (.ok (b, fs)), w') := by
    rw [Action.exec_attempt, hp]
  unfold run
  rw [Action.exec_bind_of_ok hattempt]

/-- A run ends in a refusal that changed nothing, or it writes a plan and then builds. -/
theorem run_eq_ok (hrun : (run o).exec h w = (.ok out, w')) :
    (w.SameTree w' ∧ ∃ f, out = .refused f) ∨
      ∃ b fs u v, (prepare o).exec h w = (.ok (b, fs), u) ∧
        (write o.output fs (directories b.coordinates b.bindings)).exec h u =
          (.ok out.written, v) ∧
        (buildStage o b out.written).exec h v = (.ok out, w') := by
  cases hp : (prepare o).exec h w with
  | mk result u =>
    cases result with
    | error f =>
      left
      have hkept := keeps_prepare.of_exec hp
      rw [exec_run_of_error hp] at hrun
      split at hrun
      · cases hrun
        exact ⟨hkept, f, rfl⟩
      · cases hrun
    | ok planned =>
      obtain ⟨b, fs⟩ := planned
      right
      rw [exec_run_of_ok hp] at hrun
      obtain ⟨ps, v, hwrite, hbuild⟩ := Action.exec_bind_eq_ok.1 hrun
      obtain ⟨rfl, -⟩ := buildStage_eq_ok hbuild
      exact ⟨b, fs, u, v, rfl, hwrite, hbuild⟩

/-- A run that wrote nothing changed nothing. -/
theorem sameTree_of_run (hr : w.registry.Reachable) (hrun : (run o).exec h w = (.ok out, w'))
    (hwritten : out.written = []) : w.SameTree w' := by
  rcases run_eq_ok hrun with ⟨hsame, -⟩ | ⟨b, fs, u, v, hp, hwrite, -⟩
  · exact hsame
  · -- A plan holds at least the build script, so something was written.
    obtain ⟨-, hplan, -⟩ := prepare_eq_ok.1 (congrArg Prod.fst hp)
    obtain ⟨s, -, f, hf, -⟩ := script_of_plan hr hplan
    rw [write_eq_ok hwrite, List.map_eq_nil_iff] at hwritten
    rw [hwritten] at hf
    cases hf

/-- Only the build of a crate can fail after the writing. -/
theorem build_of_run (hrun : (run o).exec h w = (.ok out, w')) (hfailure : out.failure ≠ none)
    (hwritten : out.written ≠ []) :
    o.build = true ∧ ∃ p c, o.manifest = some p ∧ Manifest.read w.files p = .ok c := by
  rcases run_eq_ok hrun with ⟨-, f, rfl⟩ | ⟨b, fs, u, v, hp, -, hbuild⟩
  · exact absurd rfl hwritten
  · obtain ⟨-, hfailed⟩ := buildStage_eq_ok hbuild
    obtain ⟨hbuild, c, hcrate⟩ := hfailed hfailure
    obtain ⟨hbrief, -, -⟩ := prepare_eq_ok.1 (congrArg Prod.fst hp)
    obtain ⟨-, hc, -⟩ := brief_eq_ok hbrief
    rw [hcrate] at hc
    obtain ⟨p, hp, hread⟩ := crate_eq_some hc
    exact ⟨hbuild, p, c, hp, hread⟩

theorem buildStage_of_not_build (hbuild : o.build = false) :
    (buildStage o b ps).exec h w = (.ok ⟨ps, b.bindings, none, none⟩, w) := by
  unfold buildStage
  rw [hbuild]
  rfl

theorem exec_run_of_write {v : World} (hp : (prepare o).exec h w = (.ok (b, fs), w'))
    (hwrite : (write o.output fs (directories b.coordinates b.bindings)).exec h w' = (.ok ps, v))
    (hbuild : o.build = false) :
    (run o).exec h w = (.ok ⟨ps, b.bindings, none, none⟩, v) := by
  rw [exec_run_of_ok hp, Action.exec_bind_of_ok hwrite, buildStage_of_not_build hbuild]

theorem exists_write_of_isOk (hp : ((prepare o).exec h w).1 = .ok (b, fs))
    (hwrite : ((write o.output fs (directories b.coordinates b.bindings)).exec h w).1.isOk = true) :
    ∃ u ps v, (prepare o).exec h w = (.ok (b, fs), u) ∧
      (write o.output fs (directories b.coordinates b.bindings)).exec h u = (.ok ps, v) ∧
      v.files = ((write o.output fs (directories b.coordinates b.bindings)).exec h w).2.files := by
  have hkept := keeps_prepare (o := o) h w
  obtain ⟨hfst, hfiles⟩ := (writes_write o.output fs (directories b.coordinates
    b.bindings)).depends h h hkept.files
  rw [← hfst] at hwrite
  rcases hwritten : (write o.output fs (directories b.coordinates b.bindings)).exec h
      ((prepare o).exec h w).2 with ⟨e | ps, v⟩
  · rw [hwritten] at hwrite
    cases hwrite
  · rw [hwritten] at hfiles
    exact ⟨_, ps, v, Prod.ext hp rfl, hwritten, hfiles⟩

theorem exists_run_of_write (hp : ((prepare o).exec h w).1 = .ok (b, fs))
    (hwrite : ((write o.output fs (directories b.coordinates b.bindings)).exec h w).1.isOk = true)
    (hbuild : o.build = false) :
    ∃ out v, (run o).exec h w = (.ok out, v) ∧ out.failure = none ∧
      out.written = fs.map fun f => o.output / f.path := by
  obtain ⟨u, ps, v, hprepared, hwritten, -⟩ := exists_write_of_isOk hp hwrite
  exact ⟨_, v, exec_run_of_write hprepared hwritten hbuild, rfl, write_eq_ok hwritten⟩

/-- Without a build, the build script of a new project is the rendered one. -/
theorem script_of_run (hr : w.registry.Reachable) (hrun : (run o).exec h w = (.ok out, w'))
    (hbuild : o.build = false) (hnone : out.failure = none) :
    ∃ c s, Coordinates.of? o.group o.package = .ok c ∧
      ((library o.root).renderBuildScript c ⟨w.files, h.platform, h.engine⟩).2 = .ok s ∧
      w'.files.read (script o.output) = .ok (Utf8.encode s) := by
  rcases run_eq_ok hrun with ⟨-, f, rfl⟩ | ⟨b, fs, u, v, hp, hwrite, hstage⟩
  · cases hnone
  · obtain ⟨hbrief, hplan, -⟩ := prepare_eq_ok.1 (congrArg Prod.fst hp)
    obtain ⟨hcoordinates, -, htemplates⟩ := brief_eq_ok hbrief
    obtain ⟨s, hs, f, hf, hpath, hcontent⟩ := script_of_plan hr hplan
    obtain ⟨hin, hn⟩ := inside_of_plan hplan
    have hholds := holdsFile_of_write hin hn hf hwrite
    rw [hpath, hcontent] at hholds
    rw [buildStage_of_not_build hbuild] at hstage
    obtain rfl := (Prod.mk.inj hstage).2
    exact ⟨b.coordinates, s, hcoordinates, htemplates ▸ hs, hholds.read_eq⟩

/-- A project that is there is not replaced unless that is asked for. -/
theorem exec_run_of_holds (hs : w.files.holds (script o.output) = .ok true)
    (hforce : o.force = false) :
    w.SameTree ((run o).exec h w).2 ∧
      ∀ out, ((run o).exec h w).1 = .ok out → out.failure ≠ none := by
  cases hp : (prepare o).exec h w with
  | mk result u =>
    have hkept := keeps_prepare.of_exec hp
    cases result with
    | error f =>
      rw [exec_run_of_error hp]
      refine ⟨hkept, fun out hout => ?_⟩
      simp only at hout
      split at hout
      · cases hout
        exact fun hnone => nomatch hnone
      · cases hout
    | ok planned =>
      obtain ⟨-, -, hcheck⟩ := prepare_eq_ok.1 (congrArg Prod.fst hp)
      rw [hforce, checkOverwrite_of_holds hs] at hcheck
      cases hcheck

structure Order.IsSample (o : Order) (t : FileTree) : Prop where
  group : o.group = some "org"
  package : o.package = some "lib"
  root : o.root = some Path.here
  manifest : ∀ p, o.manifest = some p → t.holds p = .ok false
  source : ∀ p, o.source = some p → t.isDir p = .ok false
  build : o.build = false

theorem coordinates_sample : Coordinates.of? (some "org") (some "lib") =
    .ok sampleBrief.coordinates := by decide +kernel

theorem brief_sample (site : Site) (ho : o.IsSample site.files) :
    (brief o site).2 = .ok sampleBrief := by
  have hcoordinates : Coordinates.of? o.group o.package = .ok sampleBrief.coordinates := by
    rw [ho.group, ho.package]
    exact coordinates_sample
  have hcrate : (crate o.manifest o.build site).2 = .ok none := by
    rw [ho.build]
    cases hm : o.manifest with
    | none => rfl
    | some p => exact Reading.snd_bind_eq_ok.2 ⟨false, mapError_eq_ok.2 (ho.manifest p hm), rfl⟩
  have hbindings : (bindings o.source site).2 = .ok [] := by
    cases hs : o.source with
    | none => rfl
    | some p => exact Reading.snd_bind_eq_ok.2 ⟨false, mapError_eq_ok.2 (ho.source p hs), rfl⟩
  rw [brief_of_coordinates hcoordinates, hcrate, hbindings, ho.root]
  rfl

theorem prepare_sample (ho : o.IsSample overriding) (hfiles : w.files = overriding)
    (hr : w.registry = .empty) (hh : IsSampleHost h)
    (hcheck : (checkOverwrite o.output o.force ⟨overriding, "linux", .refusing⟩).2 = .ok ()) :
    ((prepare o).exec h w).1 = .ok (sampleBrief, samplePlan) := by
  refine prepare_eq_ok.2 ⟨?_, plan_sampleBrief hh hfiles hr, ?_⟩
  · rw [hfiles, hh.platform, hh.engine]
    exact brief_sample ⟨overriding, "linux", .refusing⟩ ho
  · rw [hfiles, hh.platform, hh.engine]
    exact hcheck

/-- The sample can be prepared with other texts where the bundled plugins contribute them. -/
theorem prepare_of_sample {script object : Text} (ho : o.IsSample w.files)
    (hr : w.registry.ReadyFor h.plugins) (hplugins : h.plugins = [])
    (hcs : Contributed sampleBrief ⟨w.files, h.platform, h.engine⟩ Plugin.bundled
      (contributionsWith script object).flatten)
    (hcheck : (checkOverwrite o.output o.force ⟨w.files, h.platform, h.engine⟩).2 = .ok ()) :
    ((prepare o).exec h w).1 = .ok (sampleBrief, planWith script object) := by
  refine prepare_eq_ok.2
    ⟨brief_sample ⟨w.files, h.platform, h.engine⟩ ho, ?_, hcheck⟩
  have hnames : (h.plugins.map Plugin.name).Nodup := by
    rw [hplugins]
    exact List.nodup_nil
  refine (plan_eq_ok_of_readyFor hr hnames fun p hp => ?_).2
    ⟨_, ?_, ofContributions_contributionsWith script object⟩
  · rw [hplugins] at hp
    cases hp
  · rwa [hplugins, List.append_nil]

/-- A run that fails and wrote nothing left the tree as it was and called no build tool; one that
fails after it wrote was asked to build a crate that it could read; and where a project is there, a
run that may not replace it does not succeed and changes nothing. -/
theorem run_leaves_no_partial_project (o : Order) (h : Host) (w : World)
    (hr : w.registry.Reachable) :
    (∀ out w', (run o).exec h w = (.ok out, w') → out.succeeded = false → out.written = [] →
      w.SameTree w') ∧
    (∀ out w', (run o).exec h w = (.ok out, w') → out.succeeded = false → out.written ≠ [] →
      o.build = true ∧ ∃ p c, o.manifest = some p ∧ Manifest.read w.files p = .ok c) ∧
    (w.files.holds (script o.output) = .ok true → o.force = false →
      w.SameTree ((run o).exec h w).2 ∧
        ∀ out, ((run o).exec h w).1 = .ok out → out.succeeded = false) := by
  have hfailed : ∀ out : Outcome, out.succeeded = false ↔ out.failure ≠ none := by
    intro out
    cases hf : out.failure <;> simp [Outcome.succeeded, hf]
  refine ⟨fun out w' hrun _ hnil => sameTree_of_run hr hrun hnil, ?_, ?_⟩
  · exact fun out w' hrun hfail hne => build_of_run hrun ((hfailed out).1 hfail) hne
  · intro hs hforce
    obtain ⟨hkept, hout⟩ := exec_run_of_holds hs hforce
    exact ⟨hkept, fun out hok => (hfailed out).2 (hout out hok)⟩

def occupied : FileTree :=
  [(["kotlin"], .dir), (["kotlin", "build.gradle.kts"], .file (Utf8.encode "kept") false)]

def secondOrder : Order :=
  ⟨"kotlin", none, false, some "org", some "lib", none, none, false, 600⟩

theorem run_leaves_no_partial_project_occupied :
    (World.ofFiles occupied).SameTree ((run secondOrder).exec twoPlugins (.ofFiles occupied)).2 ∧
      (∀ out, ((run secondOrder).exec twoPlugins (.ofFiles occupied)).1 = .ok out →
        out.succeeded = false) ∧
      ∃ out w', (run { secondOrder with group := none }).exec twoPlugins (.ofFiles occupied) =
        (.ok out, w') ∧ out.succeeded = false ∧ out.written = [] ∧
          (World.ofFiles occupied).SameTree w' := by
  obtain ⟨-, -, hthere⟩ :=
    run_leaves_no_partial_project secondOrder twoPlugins (.ofFiles occupied) .empty
  obtain ⟨hrefused, -, -⟩ := run_leaves_no_partial_project { secondOrder with group := none }
    twoPlugins (.ofFiles occupied) .empty
  obtain ⟨hkept, hfail⟩ := hthere (by decide +kernel) rfl
  exact ⟨hkept, hfail, _, _, rfl, rfl, rfl, hrefused _ _ rfl rfl rfl⟩

end CrateScaffold.Project
