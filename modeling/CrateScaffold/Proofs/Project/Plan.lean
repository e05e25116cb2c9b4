import CrateScaffold.Project.Plan
import CrateScaffold.Proofs.Plugin.Registration
import CrateScaffold.Proofs.Project.Union

/-!
The plan of a project is the union of what all plugins contribute. It exists just when no plugin
fails and the contributions are compatible, and it does not depend on the order of registration.
-/

namespace CrateScaffold.Project

variable {b : Brief} {site : Site} {h : Host} {w w' : World} {r : Registry}
variable {ps qs : List Plugin} {cs ds : List Contribution} {fs : List PlannedFile}

/-- What plugins contribute, one after the other; none of them fails. -/
def Contributed (b : Brief) (site : Site) (ps : List Plugin) (cs : List Contribution) : Prop :=
  ∃ css, List.Forall₂ (fun p cs => (p.contributions b site).2 = .ok cs) ps css ∧ cs = css.flatten

theorem contributions_eq_ok :
    (r.contributions b site).2 = .ok cs ↔ Contributed b site r.plugins.reverse cs := by
  unfold Registry.contributions
  rw [Reading.snd_bind_eq_ok]
  constructor
  · rintro ⟨css, hcss, hpure⟩
    cases hpure
    exact ⟨css, Reading.snd_mapM_eq_ok.1 hcss, rfl⟩
  · rintro ⟨css, hcss, rfl⟩
    exact ⟨css, Reading.snd_mapM_eq_ok.2 hcss, rfl⟩

theorem Contributed.unique (hc : Contributed b site ps cs) (hd : Contributed b site ps ds) :
    cs = ds := by
  obtain ⟨css, hcss, rfl⟩ := hc
  obtain ⟨dss, hdss, rfl⟩ := hd
  suffices heq : css = dss by rw [heq]
  induction hcss generalizing dss with
  | nil =>
    cases hdss
    rfl
  | cons hp hrest ih =>
    cases hdss with
    | cons hq hrest' =>
      rw [Except.ok.inj (hp.symm.trans hq), ih _ hrest']

theorem Contributed.append (hc : Contributed b site ps cs) (hd : Contributed b site qs ds) :
    Contributed b site (ps ++ qs) (cs ++ ds) := by
  obtain ⟨css, hcss, rfl⟩ := hc
  obtain ⟨dss, hdss, rfl⟩ := hd
  exact ⟨css ++ dss, List.rel_append hcss hdss, List.flatten_append.symm⟩

/-- Asked elsewhere, plugins that do not tell the difference contribute the same. -/
theorem Contributed.elsewhere {b' : Brief} {site' : Site} (hc : Contributed b site ps cs)
    (h : ∀ p ∈ ps, (p.contributions b' site').2 = (p.contributions b site).2) :
    Contributed b' site' ps cs := by
  obtain ⟨css, hcss, rfl⟩ := hc
  refine ⟨css, ?_, rfl⟩
  induction hcss with
  | nil => exact .nil
  | cons hp hrest ih =>
    obtain ⟨hfirst, hlater⟩ := List.forall_mem_cons.1 h
    exact .cons (hfirst.trans hp) (ih hlater)

theorem Contributed.perm (hc : Contributed b site ps cs) (hp : ps.Perm qs) :
    ∃ ds, Contributed b site qs ds ∧ cs.Perm ds := by
  obtain ⟨css, hcss, rfl⟩ := hc
  obtain ⟨dss, hdss, hperm⟩ := List.perm_comp_forall₂ hp.symm hcss
  exact ⟨dss.flatten, ⟨dss, hdss, rfl⟩, hperm.symm.flatten⟩

theorem Contributed.subset {p : Plugin} (hc : Contributed b site ps cs) (hp : p ∈ ps) :
    ∃ own, (p.contributions b site).2 = .ok own ∧ own ⊆ cs := by
  obtain ⟨css, hcss, rfl⟩ := hc
  obtain ⟨own, hmem, hown⟩ := exists_of_forall₂ hcss hp
  exact ⟨own, hown, fun c hc => List.mem_flatten.2 ⟨own, hmem, hc⟩⟩

theorem Contributed.exists_plugin {c : Contribution} (hc : Contributed b site ps cs) (hm : c ∈ cs) :
    ∃ p ∈ ps, ∃ own, (p.contributions b site).2 = .ok own ∧ c ∈ own := by
  obtain ⟨css, hcss, rfl⟩ := hc
  obtain ⟨own, hown, hmem⟩ := List.mem_flatten.1 hm
  have hflip : List.Forall₂ (flip fun p own => (p.contributions b site).2 = .ok own) css ps :=
    List.Forall₂.flip hcss
  obtain ⟨p, hp, hpown⟩ := exists_of_forall₂ hflip hown
  exact ⟨p, hp, own, hpown, hmem⟩

/-- The files of a registry, with its plugins in any order. -/
theorem files_eq_ok (hp : ps.Perm r.plugins) : (files r b site).2 = .ok fs ↔
    ∃ cs, Contributed b site ps cs ∧ PlannedFile.ofContributions cs = .ok fs := by
  have hrev : r.plugins.reverse.Perm ps := (List.reverse_perm r.plugins).trans hp.symm
  unfold files
  rw [Reading.snd_bind_eq_ok]
  constructor
  · rintro ⟨cs, hcs, hfs⟩
    obtain ⟨ds, hds, hperm⟩ := (contributions_eq_ok.1 hcs).perm hrev
    exact ⟨ds, hds, (PlannedFile.ofContributions_perm hperm).1 (mapError_eq_ok.1 hfs)⟩
  · rintro ⟨ds, hds, hfs⟩
    obtain ⟨cs, hcs, hperm⟩ := hds.perm hrev.symm
    exact ⟨cs, contributions_eq_ok.2 hcs,
      mapError_eq_ok.2 ((PlannedFile.ofContributions_perm hperm).1 hfs)⟩

/-- A plan is made when the plugins can be loaded and their files fit together. -/
theorem plan_eq_ok : ((plan b).exec h w).1 = .ok fs ↔
    (w.registry.load h.plugins h.trouble).2.2 = .ok () ∧
      (files (w.registry.load h.plugins h.trouble).1 b ⟨w.files, h.platform, h.engine⟩).2 =
        .ok fs := by
  unfold plan
  constructor
  · intro hplan
    obtain ⟨⟨⟩, hload, hfiles⟩ := Action.fst_bind_eq_ok.1 hplan
    exact ⟨hload, hfiles⟩
  · rintro ⟨hload, hfiles⟩
    exact Action.fst_bind_eq_ok.2 ⟨(), hload, hfiles⟩

theorem plan_of_files {f : Failure} (hload : (w.registry.load h.plugins h.trouble).2.2 = .ok ())
    (hfiles : (files (w.registry.load h.plugins h.trouble).1 b ⟨w.files, h.platform, h.engine⟩).2 =
      .error f) :
    ((plan b).exec h w).1 = .error f := by
  have hloaded : (Action.loadPlugins.exec h w).1 = .ok () := hload
  unfold plan
  rw [Action.fst_bind_of_ok hloaded]
  exact hfiles

theorem plan_eq_ok_of_readyFor (hr : w.registry.ReadyFor h.plugins)
    (hn : (h.plugins.map Plugin.name).Nodup)
    (hb : ∀ p ∈ h.plugins, p.name ∉ Plugin.bundled.map Plugin.name) :
    ((plan b).exec h w).1 = .ok fs ↔
      ∃ cs, Contributed b ⟨w.files, h.platform, h.engine⟩ (Plugin.bundled ++ h.plugins) cs ∧
        PlannedFile.ofContributions cs = .ok fs := by
  obtain ⟨hload, hok⟩ := Registry.load_of_readyFor h.trouble hr hn hb
  rw [plan_eq_ok, hok, hload, files_eq_ok (List.Perm.refl _)]
  simp

theorem inside_of_plan (hplan : ((plan b).exec h w).1 = .ok fs) :
    (∀ f ∈ fs, f.path.leaves = false) ∧ (fs.map PlannedFile.path).Nodup := by
  obtain ⟨-, hfs⟩ := plan_eq_ok.1 hplan
  obtain ⟨cs, -, hof⟩ := (files_eq_ok (List.Perm.refl _)).1 hfs
  obtain ⟨hc, hu⟩ := PlannedFile.ofContributions_eq_ok.1 hof
  exact ⟨fun f hf => hu.inside hc hf, hu.nodup hc⟩

theorem planned_of_plan {p : Plugin} (hplan : ((plan b).exec h w).1 = .ok fs)
    (hp : p ∈ (w.registry.load h.plugins h.trouble).1.plugins) :
    ∃ own, (p.contributions b ⟨w.files, h.platform, h.engine⟩).2 = .ok own ∧
      ∀ c ∈ own, ∃ f ∈ fs, c.Gives f := by
  obtain ⟨-, hfs⟩ := plan_eq_ok.1 hplan
  obtain ⟨cs, hcs, hof⟩ := (files_eq_ok (List.Perm.refl _)).1 hfs
  obtain ⟨own, hown, hmem⟩ := hcs.subset hp
  obtain ⟨-, hu⟩ := PlannedFile.ofContributions_eq_ok.1 hof
  exact ⟨own, hown, fun c hc => hu.exists_gives (hmem hc)⟩

theorem contributed_of_plan {f : PlannedFile} (hplan : ((plan b).exec h w).1 = .ok fs)
    (hf : f ∈ fs) : ∃ p ∈ (w.registry.load h.plugins h.trouble).1.plugins,
      ∃ own, (p.contributions b ⟨w.files, h.platform, h.engine⟩).2 = .ok own ∧
        ∃ c ∈ own, c.Gives f := by
  obtain ⟨-, hfs⟩ := plan_eq_ok.1 hplan
  obtain ⟨cs, hcs, hof⟩ := (files_eq_ok (List.Perm.refl _)).1 hfs
  obtain ⟨-, hu⟩ := PlannedFile.ofContributions_eq_ok.1 hof
  obtain ⟨c, hc, hgives⟩ := hu.exists_contribution hf
  obtain ⟨p, hp, own, hown, hmem⟩ := hcs.exists_plugin hc
  exact ⟨p, hp, own, hown, c, hmem, hgives⟩

theorem bundled_subset_of_plan (hr : w.registry.Reachable)
    (hplan : ((plan b).exec h w).1 = .ok fs) :
    Plugin.bundled ⊆ (w.registry.load h.plugins h.trouble).1.plugins :=
  Registry.bundled_of_load hr.bundled_subset (.inr (plan_eq_ok.1 hplan).1)

theorem bundled_of_plan {p : Plugin} (hr : w.registry.Reachable)
    (hplan : ((plan b).exec h w).1 = .ok fs) (hp : p ∈ Plugin.bundled) :
    ∃ own, (p.contributions b ⟨w.files, h.platform, h.engine⟩).2 = .ok own ∧
      ∀ c ∈ own, ∃ f ∈ fs, c.Gives f :=
  planned_of_plan hplan (bundled_subset_of_plan hr hplan hp)

/-- The build script is planned as it is rendered. -/
theorem script_of_plan (hr : w.registry.Reachable) (hplan : ((plan b).exec h w).1 = .ok fs) :
    ∃ s, (b.templates.renderBuildScript b.coordinates ⟨w.files, h.platform, h.engine⟩).2 = .ok s ∧
      ∃ f ∈ fs, f.path = ("build.gradle.kts" : Path) ∧ f.content = .text s := by
  have hbundled : Plugin.gradle ∈ Plugin.bundled := List.mem_cons_self
  obtain ⟨own, hown, hmem⟩ := bundled_of_plan hr hplan hbundled
  obtain ⟨s, hs, hrest⟩ := Reading.snd_bind_eq_ok.1 hown
  obtain ⟨settings, -, hrest⟩ := Reading.snd_bind_eq_ok.1 hrest
  obtain ⟨properties, -, hrest⟩ := Reading.snd_bind_eq_ok.1 hrest
  obtain ⟨wrapper, -, hpure⟩ := Reading.snd_bind_eq_ok.1 hrest
  cases hpure
  obtain ⟨f, hf, hgives⟩ := hmem (.ofText "build.gradle.kts" s) List.mem_cons_self
  exact ⟨s, hs, f, hf, (Option.some.inj hgives.place).symm, (Option.some.inj hgives.content).symm⟩

/-- The object that loads the library is planned at its path, as it is rendered. -/
theorem object_of_plan (hr : w.registry.Reachable) (hplan : ((plan b).exec h w).1 = .ok fs) :
    ∃ s, (b.templates.render "kotlin/Library.kt" (Template.Library.contextOf b.coordinates ++
        [("native_library".toList, .text (Native.fileName h.platform (Plugin.libraryName b)))])
        ⟨w.files, h.platform, h.engine⟩).2 = .ok s ∧
      ∃ f ∈ fs, f.path = Path.ofText (Plugin.libraryPath b.coordinates) ∧ f.content = .text s := by
  have hbundled : Plugin.kotlin ∈ Plugin.bundled := List.mem_cons_of_mem _ List.mem_cons_self
  obtain ⟨own, hown, hmem⟩ := bundled_of_plan hr hplan hbundled
  obtain ⟨platform, hplatform, hrest⟩ := Reading.snd_bind_eq_ok.1 hown
  cases hplatform
  obtain ⟨s, hs, hpure⟩ := Reading.snd_bind_eq_ok.1 hrest
  cases hpure
  obtain ⟨f, hf, hgives⟩ := hmem (.ofText (Plugin.libraryPath b.coordinates) s) List.mem_cons_self
  exact ⟨s, hs, f, hf, (Option.some.inj hgives.place).symm, (Option.some.inj hgives.content).symm⟩

theorem keeps_plan : (plan b).Keeps World.SameTree :=
  Action.Keeps.bind World.SameTree.trans Action.keeps_loadPlugins fun _ =>
    Action.Keeps.bind World.SameTree.trans (fun _ _ => .rfl) fun _ => Action.keeps_reading _

/-- A plan is made just when no plugin fails and the contributions are compatible. It holds each of
them once, in the order of the paths, and is the same in whatever order the external plugins were
registered. -/
theorem plan_eq_union (h : Host) (w : World) (b : Brief) (hr : w.registry.ReadyFor h.plugins)
    (hn : (h.plugins.map Plugin.name).Nodup)
    (hb : ∀ p ∈ h.plugins, p.name ∉ Plugin.bundled.map Plugin.name) :
    ((∃ fs, ((plan b).exec h w).1 = .ok fs) ↔
      ∃ cs, Contributed b ⟨w.files, h.platform, h.engine⟩ (Plugin.bundled ++ h.plugins) cs ∧
        Compatible cs) ∧
    (∀ fs cs, ((plan b).exec h w).1 = .ok fs →
      Contributed b ⟨w.files, h.platform, h.engine⟩ (Plugin.bundled ++ h.plugins) cs →
        IsUnion fs cs) ∧
    ∀ h' w', h'.plugins.Perm h.plugins → h'.platform = h.platform → h'.engine = h.engine →
      w'.files = w.files → w'.registry.ReadyFor h'.plugins →
      ∀ fs, ((plan b).exec h' w').1 = .ok fs ↔ ((plan b).exec h w).1 = .ok fs := by
  refine ⟨?_, ?_, ?_⟩
  · simp only [plan_eq_ok_of_readyFor hr hn hb, ← PlannedFile.exists_ofContributions_iff]
    constructor
    · rintro ⟨fs, cs, hcs, hfs⟩
      exact ⟨cs, hcs, fs, hfs⟩
    · rintro ⟨cs, hcs, fs, hfs⟩
      exact ⟨fs, cs, hcs, hfs⟩
  · intro fs cs hplan hcs
    obtain ⟨ds, hds, hfs⟩ := (plan_eq_ok_of_readyFor hr hn hb).1 hplan
    rw [hcs.unique hds]
    exact (PlannedFile.ofContributions_eq_ok.1 hfs).2
  · intro h' w' hperm hplatform hengine hfiles hr' fs
    have hn' : (h'.plugins.map Plugin.name).Nodup := (hperm.map Plugin.name).nodup_iff.2 hn
    have hb' : ∀ p ∈ h'.plugins, p.name ∉ Plugin.bundled.map Plugin.name :=
      fun p hp => hb p (hperm.mem_iff.1 hp)
    have hall : (Plugin.bundled ++ h'.plugins).Perm (Plugin.bundled ++ h.plugins) :=
      hperm.append_left Plugin.bundled
    rw [plan_eq_ok_of_readyFor hr' hn' hb', plan_eq_ok_of_readyFor hr hn hb, hplatform, hengine,
      hfiles]
    constructor
    · rintro ⟨cs, hcs, hfs⟩
      obtain ⟨ds, hds, hp⟩ := hcs.perm hall
      exact ⟨ds, hds, (PlannedFile.ofContributions_perm hp).1 hfs⟩
    · rintro ⟨cs, hcs, hfs⟩
      obtain ⟨ds, hds, hp⟩ := hcs.perm hall.symm
      exact ⟨ds, hds, (PlannedFile.ofContributions_perm hp).1 hfs⟩

def overriding : FileTree := [
  ([".jni-cli"], .dir), ([".jni-cli", "templates"], .dir),
  ([".jni-cli", "templates", "gradle"], .dir), ([".jni-cli", "templates", "kotlin"], .dir),
  ([".jni-cli", "templates", "gradle", "build.gradle.kts"],
    .file (Utf8.encode "\x7b\x7bgroup_id\x7d\x7d") false),
  ([".jni-cli", "templates", "gradle", "settings.gradle.kts"], .file [] false),
  ([".jni-cli", "templates", "gradle", "gradle.properties"], .file [] false),
  ([".jni-cli", "templates", "gradle", "gradle-wrapper.properties"], .file [] false),
  ([".jni-cli", "templates", "kotlin", "Library.kt"], .file [] false)]

def single (name path content : Text) : Plugin :=
  ⟨name, name, fun _ => pure [.ofText path content]⟩

def sampleBrief : Brief :=
  ⟨⟨"org", "lib", by decide +kernel, by decide +kernel⟩, none, [], .project Path.here⟩

def twoPlugins : Host :=
  { Host.plain with
    plugins := [single "notes" "./gradle-notes/" "", single "list" "gradle//list" ""] }

theorem isOk_plan_twoPlugins :
    ((plan sampleBrief).exec twoPlugins (.ofFiles overriding)).1.isOk = true := by
  decide +kernel

theorem plan_eq_union_twoPlugins :
    (twoPlugins.plugins.map Plugin.name).Nodup ∧
      (∀ p ∈ twoPlugins.plugins, p.name ∉ Plugin.bundled.map Plugin.name) ∧
      ∃ fs, ((plan sampleBrief).exec twoPlugins (.ofFiles overriding)).1 = .ok fs ∧
        ((plan sampleBrief).exec { twoPlugins with plugins := twoPlugins.plugins.reverse }
          (.ofFiles overriding)).1 = .ok fs := by
  have hn : (twoPlugins.plugins.map Plugin.name).Nodup := by decide
  have hb : ∀ p ∈ twoPlugins.plugins, p.name ∉ Plugin.bundled.map Plugin.name := by
    simp only [twoPlugins, List.forall_mem_cons]
    exact ⟨by decide, by decide, by simp⟩
  have hunion := plan_eq_union twoPlugins (.ofFiles overriding) sampleBrief (.inl rfl) hn hb
  cases hplan : ((plan sampleBrief).exec twoPlugins (.ofFiles overriding)).1 with
  | error e =>
    have hok := isOk_plan_twoPlugins
    rw [hplan] at hok
    cases hok
  | ok fs =>
    refine ⟨hn, hb, fs, rfl, ?_⟩
    exact (hunion.2.2 { twoPlugins with plugins := twoPlugins.plugins.reverse } _
      (List.reverse_perm _) rfl rfl rfl (.inl rfl) fs).2 hplan

def plain (parts : List Text) (content : Text) : PlannedFile :=
  ⟨⟨.relative, parts⟩, .text content, .bool false⟩

/-- What the bundled plugins contribute with the short templates, and these texts for the build
script and the object that loads the library. -/
def contributionsWith (script object : Text) : List (List Contribution) :=
  [[.ofText "build.gradle.kts" script, .ofText "settings.gradle.kts" [],
      .ofText "gradle.properties" [], .ofText "gradle/wrapper/gradle-wrapper.properties" []],
    [.ofText "src/main/kotlin/org/lib/Library.kt" object]]

def filesWith (script object : Text) : List PlannedFile :=
  [plain ["build.gradle.kts"] script, plain ["settings.gradle.kts"] [],
    plain ["gradle.properties"] [], plain ["gradle", "wrapper", "gradle-wrapper.properties"] [],
    plain ["src", "main", "kotlin", "org", "lib", "Library.kt"] object]

def planWith (script object : Text) : List PlannedFile :=
  [plain ["build.gradle.kts"] script, plain ["gradle", "wrapper", "gradle-wrapper.properties"] [],
    plain ["gradle.properties"] [], plain ["settings.gradle.kts"] [],
    plain ["src", "main", "kotlin", "org", "lib", "Library.kt"] object]

def sampleContributions : List (List Contribution) := contributionsWith "org" []

def samplePlan : List PlannedFile := planWith "org" []

theorem ofContributions_contributionsWith (script object : Text) :
    PlannedFile.ofContributions (contributionsWith script object).flatten =
      .ok (planWith script object) := by
  have hgives : List.Forall₂ Contribution.Gives (contributionsWith script object).flatten
      (filesWith script object) :=
    .cons ⟨rfl, rfl, rfl⟩ (.cons ⟨rfl, rfl, rfl⟩ (.cons ⟨rfl, rfl, rfl⟩ (.cons ⟨rfl, rfl, rfl⟩
      (.cons ⟨rfl, rfl, rfl⟩ .nil))))
  have hin : ∀ f ∈ filesWith script object, f.path.leaves = false := by
    simp [filesWith, plain, Path.leaves, Path.isAbsolute]
  have hn : ((filesWith script object).map PlannedFile.path).Nodup := by
    simp [filesWith, plain]
  have hlt : (planWith script object).Pairwise fun f g => f.path.parts < g.path.parts := by
    simp [planWith, plain, List.cons_lt_cons_iff]
  have hperm : (planWith script object).Perm (filesWith script object) :=
    ((List.reverse_perm [plain ["settings.gradle.kts"] [], plain ["gradle.properties"] [],
      plain ["gradle", "wrapper", "gradle-wrapper.properties"] []]).append_right _).cons _
  refine PlannedFile.ofContributions_eq_ok.2
    ⟨⟨?_, ?_, ?_⟩, ⟨filesWith script object, hgives, hperm⟩, hlt⟩
  · exact PlannedFile.complete_of_gives hgives
  · exact (PlannedFile.inside_iff hgives).2 hin
  · exact (PlannedFile.nodup_place?_iff hgives).2 hn

/-- With the coordinates of the sample, the templates come to this build script, to this object,
and to nothing else. -/
structure Renders (b : Brief) (site : Site) (script object : Text) : Prop where
  coordinates : b.coordinates = sampleBrief.coordinates
  script : (b.templates.renderBuildScript b.coordinates site).2 = .ok script
  others : ∀ name ∈ (["gradle/settings.gradle.kts", "gradle/gradle.properties",
      "gradle/gradle-wrapper.properties"] : List Text),
    (b.templates.render name (Template.Library.contextOf b.coordinates ++
      [("gradle_version".toList, .text Plugin.gradleVersion)]) site).2 = .ok []
  object : (b.templates.render "kotlin/Library.kt" (Template.Library.contextOf b.coordinates ++
    [("native_library".toList, .text (Native.fileName site.platform (Plugin.libraryName b)))])
      site).2 = .ok object

theorem contributed_of_renders {site : Site} {script object : Text}
    (hb : Renders b site script object) :
    Contributed b site Plugin.bundled (contributionsWith script object).flatten := by
  obtain ⟨hsettings, hproperties, hwrapper, -⟩ := by
    simpa only [List.forall_mem_cons] using hb.others
  refine ⟨contributionsWith script object, .cons ?_ (.cons ?_ .nil), rfl⟩
  · refine Reading.snd_bind_eq_ok.2 ⟨script, hb.script, ?_⟩
    refine Reading.snd_bind_eq_ok.2 ⟨[], hsettings, ?_⟩
    refine Reading.snd_bind_eq_ok.2 ⟨[], hproperties, ?_⟩
    exact Reading.snd_bind_eq_ok.2 ⟨[], hwrapper, rfl⟩
  · have hpath : Plugin.libraryPath b.coordinates = "src/main/kotlin/org/lib/Library.kt" := by
      rw [hb.coordinates]
      decide +kernel
    refine Reading.snd_bind_eq_ok.2 ⟨site.platform, rfl, ?_⟩
    rw [hpath]
    exact Reading.snd_bind_eq_ok.2 ⟨object, hb.object, rfl⟩

theorem contributed_sampleBrief :
    Contributed sampleBrief ⟨overriding, "linux", .refusing⟩ Plugin.bundled
      sampleContributions.flatten :=
  contributed_of_renders ⟨rfl, by decide +kernel, by decide +kernel, by decide +kernel⟩

theorem ofContributions_sample :
    PlannedFile.ofContributions sampleContributions.flatten = .ok samplePlan :=
  ofContributions_contributionsWith "org" []

structure IsSampleHost (h : Host) : Prop where
  platform : h.platform = "linux"
  engine : h.engine = .refusing
  names : (h.plugins.map Plugin.name).Nodup
  others : ∀ p ∈ h.plugins, p.name ∉ Plugin.bundled.map Plugin.name
  silent : Contributed sampleBrief ⟨overriding, "linux", .refusing⟩ h.plugins []

theorem isSampleHost_plain : IsSampleHost Host.plain where
  platform := rfl
  engine := rfl
  names := .nil
  others := by simp [Host.plain]
  silent := ⟨[], .nil, rfl⟩

theorem plan_sampleBrief (hh : IsSampleHost h) (hfiles : w.files = overriding)
    (hr : w.registry = .empty) : ((plan sampleBrief).exec h w).1 = .ok samplePlan := by
  refine (plan_eq_ok_of_readyFor (.inl hr) hh.names hh.others).2 ⟨_, ?_, ofContributions_sample⟩
  rw [hfiles, hh.platform, hh.engine]
  have hall := contributed_sampleBrief.append hh.silent
  rwa [List.append_nil] at hall

end CrateScaffold.Project
