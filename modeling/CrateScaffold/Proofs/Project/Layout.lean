import CrateScaffold.Proofs.FileTree.Room
import CrateScaffold.Proofs.Project.Confinement
import CrateScaffold.Proofs.Project.Directories

/-!
Which plans can be laid out. The files of the bundled plugins leave room for one another, whatever
the project; what other plugins contribute is only checked for leading out of the project and for
being at a path twice, so a plan may need a file and a directory at the same place. Such a plan is
never written to its end, and every other one can be.
-/

namespace CrateScaffold.Project

open FileTree (HasNames IsOpen)

variable {b : Brief} {site : Site} {h : Host} {w w' : World} {f : PlannedFile}
variable {fs : List PlannedFile} {ds qs : List Path} {p q output : Path} {ps : List Path}

/-- Files at these paths leave room for one another: none of them is the project itself, and none is
where another one needs a directory. -/
structure IsLayout (ps : List Path) : Prop where
  named : Path.here ∉ ps
  apart : ∀ p ∈ ps, ∀ q ∈ ps, ¬ p.IsAbove q

/-- A file at this path and the planned ones do not leave room for one another. -/
def Clashes (fs : List PlannedFile) (q : Path) : Prop :=
  q = Path.here ∨ ∃ f ∈ fs, q.IsAbove f.path ∨ f.path.IsAbove q

def bundledPaths (c : Coordinates) : List Path :=
  ["build.gradle.kts", "settings.gradle.kts", "gradle.properties",
    "gradle/wrapper/gradle-wrapper.properties", Path.ofText (Plugin.libraryPath c)]

/-- In the project the bundled files are in different places from the first component on. -/
theorem nodup_head?_bundledPaths (c : Coordinates) :
    ((bundledPaths c).map fun p => p.parts.head?).Nodup := by
  have hlast : (Path.ofText (Plugin.libraryPath c)).parts.head? = some "src".toList := by
    change (Path.partsOf (Plugin.libraryPath c)).head? = _
    rw [partsOf_libraryPath]
    rfl
  have hheads : (bundledPaths c).map (fun p => p.parts.head?) =
      [some "build.gradle.kts".toList, some "settings.gradle.kts".toList,
        some "gradle.properties".toList, some "gradle".toList, some "src".toList] := by
    rw [← hlast]
    rfl
  rw [hheads]
  decide

theorem isLayout_bundledPaths (c : Coordinates) : IsLayout (bundledPaths c) := by
  have hne : ∀ p ∈ bundledPaths c, p.parts ≠ [] := by
    have hlast : (Path.ofText (Plugin.libraryPath c)).parts ≠ [] := by
      change Path.partsOf (Plugin.libraryPath c) ≠ []
      simp [partsOf_libraryPath]
    simp only [bundledPaths, List.forall_mem_cons]
    exact ⟨by decide +kernel, by decide +kernel, by decide +kernel, by decide +kernel, hlast,
      by simp⟩
  refine ⟨fun hm => hne _ hm rfl, fun p hp q hq habove => ?_⟩
  have heq := List.inj_on_of_nodup_map (nodup_head?_bundledPaths c) hp hq
    (habove.head?_eq (hne p hp))
  exact habove.strict (congrArg Path.parts heq)

/-- What a bundled plugin contributes is at one of these paths. -/
theorem place?_mem_bundledPaths {g : Plugin} {own : List Contribution} {c : Contribution}
    (hg : g ∈ Plugin.bundled) (hown : (g.contributions b site).2 = .ok own) (hc : c ∈ own)
    (hq : c.place? = some q) : q ∈ bundledPaths b.coordinates := by
  have hgives : ∀ path text : Text, c = .ofText path text → q = Path.ofText path := by
    rintro path text rfl
    exact (Option.some.inj hq).symm
  simp only [Plugin.bundled, List.mem_cons, List.not_mem_nil, or_false] at hg
  rcases hg with rfl | rfl
  · obtain ⟨script, -, hown⟩ := Reading.snd_bind_eq_ok.1 hown
    obtain ⟨settings, -, hown⟩ := Reading.snd_bind_eq_ok.1 hown
    obtain ⟨properties, -, hown⟩ := Reading.snd_bind_eq_ok.1 hown
    obtain ⟨wrapper, -, hown⟩ := Reading.snd_bind_eq_ok.1 hown
    cases hown
    simp only [List.mem_cons, List.not_mem_nil, or_false] at hc
    rcases hc with hc | hc | hc | hc
    all_goals
      rw [hgives _ _ hc]
      simp [bundledPaths]
  · obtain ⟨platform, -, hown⟩ := Reading.snd_bind_eq_ok.1 hown
    obtain ⟨object, -, hown⟩ := Reading.snd_bind_eq_ok.1 hown
    cases hown
    rw [hgives _ _ (List.mem_singleton.1 hc)]
    simp [bundledPaths]

/-- A plan is a layout just when nothing that a plugin of another origin contributes clashes. -/
theorem isLayout_iff (hplan : ((plan b).exec h w).1 = .ok fs) :
    IsLayout (fs.map PlannedFile.path) ↔
      ∀ g ∈ (w.registry.load h.plugins h.trouble).1.plugins, g ∉ Plugin.bundled →
        ∀ own, (g.contributions b ⟨w.files, h.platform, h.engine⟩).2 = .ok own →
          ∀ c ∈ own, ∀ q, c.place? = some q → ¬ Clashes fs q := by
  constructor
  · intro hl g hg _ own hown c hc q hq hclash
    obtain ⟨own', hown', hplanned⟩ := planned_of_plan hplan hg
    obtain rfl : own' = own := Except.ok.inj (hown'.symm.trans hown)
    obtain ⟨f, hf, hgives⟩ := hplanned c hc
    obtain rfl : q = f.path := Option.some.inj (hq.symm.trans hgives.place)
    rcases hclash with hhere | ⟨f', hf', habove | hbelow⟩
    · exact hl.named (hhere ▸ List.mem_map_of_mem hf)
    · exact hl.apart _ (List.mem_map_of_mem hf) _ (List.mem_map_of_mem hf') habove
    · exact hl.apart _ (List.mem_map_of_mem hf') _ (List.mem_map_of_mem hf) hbelow
  · intro hothers
    have hplace : ∀ f ∈ fs, f.path ∈ bundledPaths b.coordinates ∨ ¬ Clashes fs f.path := by
      intro f hf
      obtain ⟨g, hg, own, hown, c, hc, hgives⟩ := contributed_of_plan hplan hf
      by_cases hbundled : g ∈ Plugin.bundled
      · exact .inl (place?_mem_bundledPaths hbundled hown hc hgives.place)
      · exact .inr (hothers g hg hbundled own hown c hc _ hgives.place)
    have hbundled := isLayout_bundledPaths b.coordinates
    refine ⟨fun hm => ?_, fun p hp q hq habove => ?_⟩
    · obtain ⟨f, hf, hhere⟩ := List.mem_map.1 hm
      rcases hplace f hf with hin | hfree
      · exact hbundled.named (hhere ▸ hin)
      · exact hfree (.inl hhere)
    · obtain ⟨f, hf, rfl⟩ := List.mem_map.1 hp
      obtain ⟨f', hf', rfl⟩ := List.mem_map.1 hq
      rcases hplace f hf with hin | hfree
      · rcases hplace f' hf' with hin' | hfree'
        · exact hbundled.apart _ hin _ hin' habove
        · exact hfree' (.inr ⟨f, hf, .inr habove⟩)
      · exact hfree (.inr ⟨f', hf', .inl habove⟩)

theorem isAbove_join (output : Path) (hp : p.leaves = false) (hq : q.leaves = false)
    (h : p.IsAbove q) : (output / p).IsAbove (output / q) := by
  rw [Path.join_of_relative _ (Path.anchor_of_inside hp),
    Path.join_of_relative _ (Path.anchor_of_inside hq)]
  exact ⟨rfl, (List.prefix_append_right_inj _).2 h.below,
    fun heq => h.strict (List.append_cancel_left heq)⟩

theorem here_join (hp : p.leaves = false) : Path.here / p = p := by
  obtain ⟨a, cs⟩ := p
  obtain rfl : a = .relative := Path.anchor_of_inside hp
  rw [Path.join_of_relative _ rfl]
  rfl

/-- Written files leave room for one another and have names. -/
theorem apart_of_write (hin : ∀ f ∈ fs, f.path.leaves = false)
    (hn : (fs.map PlannedFile.path).Nodup)
    (hrun : (write output fs ds).exec h w = (.ok ps, w')) :
    (∀ p ∈ fs.map PlannedFile.path, ∀ q ∈ fs.map PlannedFile.path, ¬ p.IsAbove q) ∧
      ∀ f ∈ fs, HasNames f.path := by
  constructor
  · intro p hp q hq habove
    obtain ⟨f, hf, rfl⟩ := List.mem_map.1 hp
    obtain ⟨f', hf', rfl⟩ := List.mem_map.1 hq
    exact (holdsFile_of_write hin hn hf hrun).not_isAbove (holdsFile_of_write hin hn hf' hrun)
      (isAbove_join output (hin f hf) (hin f' hf') habove)
  · intro f hf
    refine (holdsFile_of_write hin hn hf hrun).hasNames.of_subset ?_
    rw [Path.join_of_relative _ (Path.anchor_of_inside (hin f hf))]
    exact List.subset_append_right _ _

def HasRoom (t : FileTree) (fs : List PlannedFile) : Prop :=
  ∀ f ∈ fs, t.IsOpen f.path.parent.parts ∧ t.at? f.path.parts ≠ some .dir

theorem exec_writeFile_of_room (hf : f.path.leaves = false) (hnames : HasNames f.path)
    (hopen : w.files.IsOpen f.path.parent.parts) (hdir : w.files.at? f.path.parts ≠ some .dir) :
    ∃ p w', (writeFile Path.here f).exec h w = (.ok p, w') := by
  have hdots := Path.dots_not_mem_of_inside hf
  have hsub : f.path.parent.parts ⊆ f.path.parts := List.dropLast_subset _
  have hne : f.path.parts ≠ [] := by
    intro hnil
    rw [hnil] at hdir
    exact hdir rfl
  have hdots' : ['.', '.'] ∉ f.path.parent.parts := fun hm => hdots (hsub hm)
  obtain ⟨t, hmade⟩ := FileTree.makeDirs_of_open hdots' (hnames.of_subset hsub) hopen
  have hsame := FileTree.at?_makeDirs_parent w.files hdots' hne
  rw [hmade] at hsame
  obtain ⟨t', hwrite⟩ : ∃ t', t.write f.path f.content.encode = .ok t' :=
    FileTree.write_of_stat_parent (FileTree.stat_makeDirs hmade) hdots hne hnames (hsame ▸ hdir)
  rw [← here_join hf] at hmade hwrite
  obtain ⟨w', hrun⟩ := exists_exec_writeFile (h := h) hmade hwrite
  exact ⟨_, w', hrun⟩

/-- A written file leaves room for those it does not clash with. -/
theorem HasRoom.of_writeFile (hroom : HasRoom w.files (f :: fs))
    (hin : ∀ g ∈ f :: fs, g.path.leaves = false)
    (hapart : ∀ g ∈ fs, ¬ f.path.IsAbove g.path ∧ ¬ g.path.IsAbove f.path ∧ f.path ≠ g.path)
    (hrun : (writeFile Path.here f).exec h w = (.ok p, w')) : HasRoom w'.files fs := by
  obtain ⟨hf, hin⟩ := List.forall_mem_cons.1 hin
  have hne : ∀ {q : Path}, q.leaves = false → q ≠ f.path → q.parts ≠ f.path.parts :=
    fun hq hqf heq => hqf (Path.eq_of_parts hq hf heq)
  have hanchor : ∀ {q : Path}, q.leaves = false → q.anchor = f.path.anchor :=
    fun hq => (Path.anchor_of_inside hq).trans (Path.anchor_of_inside hf).symm
  obtain ⟨-, hkept⟩ := at?_writeFile (by simp [Path.here]) hf hrun
  rw [here_join hf, Path.location_of_plain (Path.dots_not_mem_of_inside hf)] at hkept
  intro g hg
  obtain ⟨hopen, hdir⟩ := hroom g (List.mem_cons_of_mem f hg)
  obtain ⟨hnotAbove, hnotBelow, hdistinct⟩ := hapart g hg
  have hparts := hne (hin g hg) hdistinct.symm
  constructor
  · intro m hm
    have hgm : m <+: g.path.parts := hm.trans (List.dropLast_prefix _)
    have hmf : m ≠ f.path.parts := by
      rintro rfl
      exact hnotAbove ⟨(hanchor (hin g hg)).symm, hgm, hparts.symm⟩
    rcases hkept m hmf with hsame | ⟨-, -, hmade⟩
    · rw [hsame]
      exact hopen m hm
    · exact .inr hmade
  · rcases hkept _ hparts with hsame | ⟨hpre, -, -⟩
    · rwa [hsame]
    · have hgf : g.path.parts <+: f.path.parts := hpre.trans (List.dropLast_prefix _)
      exact absurd ⟨hanchor (hin g hg), hgf, hparts⟩ hnotBelow

theorem exec_writeFiles_of_room (hroom : HasRoom w.files fs)
    (hin : ∀ f ∈ fs, f.path.leaves = false) (hnames : ∀ f ∈ fs, HasNames f.path)
    (hn : (fs.map PlannedFile.path).Nodup)
    (hapart : ∀ p ∈ fs.map PlannedFile.path, ∀ q ∈ fs.map PlannedFile.path, ¬ p.IsAbove q) :
    ∃ ps w', (writeFiles Path.here fs).exec h w = (.ok ps, w') := by
  induction fs generalizing w with
  | nil => exact ⟨[], w, rfl⟩
  | cons f fs ih =>
    obtain ⟨hopen, hdir⟩ := hroom f List.mem_cons_self
    obtain ⟨p, u, hfirst⟩ := exec_writeFile_of_room (h := h) (hin f List.mem_cons_self)
      (hnames f List.mem_cons_self) hopen hdir
    obtain ⟨hnew, hn⟩ := List.nodup_cons.1 hn
    have hroom' : HasRoom u.files fs := by
      refine hroom.of_writeFile hin (fun g hg => ?_) hfirst
      have hgm : g.path ∈ fs.map PlannedFile.path := List.mem_map_of_mem hg
      have hfm : f.path ∈ (f :: fs).map PlannedFile.path := List.mem_cons_self
      refine ⟨hapart _ hfm _ (List.mem_cons_of_mem _ hgm),
        hapart _ (List.mem_cons_of_mem _ hgm) _ hfm, fun heq => hnew (heq ▸ hgm)⟩
    obtain ⟨qs, v, hrest⟩ := ih hroom' (fun g hg => hin g (List.mem_cons_of_mem f hg))
      (fun g hg => hnames g (List.mem_cons_of_mem f hg)) hn
      (fun p hp q hq => hapart p (List.mem_cons_of_mem _ hp) q (List.mem_cons_of_mem _ hq))
    rw [writeFiles, Action.exec_bind_of_ok hfirst, Action.exec_bind_of_ok hrest]
    exact ⟨_, _, rfl⟩

/-- In an empty directory there is room for all files of a layout. -/
theorem exists_write_of_isLayout (h : Host) (hl : IsLayout (fs.map PlannedFile.path))
    (hin : ∀ f ∈ fs, f.path.leaves = false) (hnames : ∀ f ∈ fs, HasNames f.path)
    (hn : (fs.map PlannedFile.path).Nodup) :
    ∃ ps w', (write Path.here fs []).exec h (.ofFiles []) = (.ok ps, w') := by
  have hempty : ∀ l, l ≠ [] → FileTree.at? [] l = none := fun l hl => by simp [FileTree.at?, hl]
  refine exec_writeFiles_of_room (fun f hf => ⟨fun m hm => ?_, ?_⟩) hin hnames hn hl.apart
  · by_cases hm : m = []
    · exact .inr (by rw [hm]; rfl)
    · exact .inl (hempty m hm)
  · have hne : f.path.parts ≠ [] := by
      intro hnil
      have hhere : f.path = Path.here := Path.eq_of_parts (hin f hf) rfl hnil
      exact hl.named (hhere ▸ List.mem_map_of_mem hf)
    rw [World.ofFiles, hempty _ hne]
    simp

/-- A plan may be written somewhere just when it is a layout of files that have names. -/
theorem exists_write_iff (hr : w.registry.Reachable) (hplan : ((plan b).exec h w).1 = .ok fs) :
    (∃ output ds h' w' ps w'', (write output fs ds).exec h' w' = (.ok ps, w'')) ↔
      IsLayout (fs.map PlannedFile.path) ∧ ∀ f ∈ fs, HasNames f.path := by
  obtain ⟨hin, hn⟩ := inside_of_plan hplan
  constructor
  · rintro ⟨output, ds, h', w', ps, w'', hrun⟩
    obtain ⟨hapart, hnames⟩ := apart_of_write hin hn hrun
    -- The project itself is above the build script, which is always planned.
    obtain ⟨-, -, f, hf, hpath, -⟩ := script_of_plan hr hplan
    refine ⟨⟨fun hhere => hapart _ hhere _ (List.mem_map_of_mem hf) ?_, hapart⟩, hnames⟩
    rw [hpath]
    exact ⟨rfl, List.nil_prefix, by decide +kernel⟩
  · rintro ⟨hl, hnames⟩
    obtain ⟨ps, w', hrun⟩ := exists_write_of_isLayout h hl hin hnames hn
    exact ⟨Path.here, [], h, .ofFiles [], ps, w', hrun⟩

/-- A plan is a layout just when what plugins of another origin contribute does not clash, neither
with one another nor with the files of the bundled ones. Only a layout is ever written to its end,
and every one with names that are possible can be. -/
theorem plan_isLayout_iff (h : Host) (w : World) (b : Brief) (fs : List PlannedFile)
    (hr : w.registry.Reachable) (hplan : ((plan b).exec h w).1 = .ok fs) :
    (IsLayout (fs.map PlannedFile.path) ↔
      ∀ g ∈ (w.registry.load h.plugins h.trouble).1.plugins, g ∉ Plugin.bundled →
        ∀ own, (g.contributions b ⟨w.files, h.platform, h.engine⟩).2 = .ok own →
          ∀ c ∈ own, ∀ q, c.place? = some q → ¬ Clashes fs q) ∧
    ((∃ output ds h' w' ps w'', (write output fs ds).exec h' w' = (.ok ps, w'')) ↔
      IsLayout (fs.map PlannedFile.path) ∧ ∀ f ∈ fs, HasNames f.path) :=
  ⟨isLayout_iff hplan, exists_write_iff hr hplan⟩

/-- A host with a plugin whose file is the project itself, and two plugins whose files are in one
another's way. -/
def clashing : Host :=
  { Host.plain with
    plugins := [single "whole" "" "", single "outer" "a" "", single "inner" "a/b" ""] }

theorem mem_load_clashing {g : Plugin} (hg : g ∈ clashing.plugins) :
    g ∈ (Registry.empty.load clashing.plugins clashing.trouble).1.plugins := by
  have hothers : ∀ p ∈ clashing.plugins, p.name ∉ Plugin.bundled.map Plugin.name := by
    simp only [clashing, List.forall_mem_cons]
    exact ⟨by decide, by decide, by decide, by simp⟩
  obtain ⟨hload, -⟩ := Registry.load_of_readyFor clashing.trouble (.inl rfl) (by decide) hothers
  rw [hload]
  exact List.mem_append_right _ hg

theorem exists_plan_clashing :
    ∃ fs, ((plan sampleBrief).exec clashing (.ofFiles overriding)).1 = .ok fs :=
  isOk_iff.1 (by decide +kernel)

theorem mem_paths_clashing {name path content : Text}
    (hplan : ((plan sampleBrief).exec clashing (.ofFiles overriding)).1 = .ok fs)
    (hg : single name path content ∈ clashing.plugins) :
    Path.ofText path ∈ fs.map PlannedFile.path := by
  obtain ⟨own, hown, hplanned⟩ := planned_of_plan hplan (mem_load_clashing hg)
  cases hown
  obtain ⟨f, hf, hgives⟩ := hplanned _ List.mem_cons_self
  have hpath : Path.ofText path = f.path := Option.some.inj hgives.place
  exact hpath ▸ List.mem_map_of_mem hf

/-- The plan is made, though the project itself would be a file and one file would be in another. -/
theorem plan_accepts_clash :
    ∃ fs, ((plan sampleBrief).exec clashing (.ofFiles overriding)).1 = .ok fs ∧
      Path.here ∈ fs.map PlannedFile.path ∧
      ("a" : Path) ∈ fs.map PlannedFile.path ∧ ("a/b" : Path) ∈ fs.map PlannedFile.path ∧
      ("a" : Path).IsAbove "a/b" := by
  obtain ⟨fs, hplan⟩ := exists_plan_clashing
  exact ⟨fs, hplan, mem_paths_clashing hplan List.mem_cons_self,
    mem_paths_clashing hplan (List.mem_cons_of_mem _ List.mem_cons_self),
    mem_paths_clashing hplan (List.mem_cons_of_mem _ (List.mem_cons_of_mem _ List.mem_cons_self)),
    rfl, by decide +kernel, by decide +kernel⟩

theorem plan_isLayout_iff_sample :
    (IsLayout (samplePlan.map PlannedFile.path) ∧
      ∃ output ds h' w' ps w'', (write output samplePlan ds).exec h' w' = (.ok ps, w'')) ∧
    ∃ fs, ((plan sampleBrief).exec clashing (.ofFiles overriding)).1 = .ok fs ∧
      ¬ IsLayout (fs.map PlannedFile.path) ∧
      ¬ ∃ output ds h' w' ps w'', (write output fs ds).exec h' w' = (.ok ps, w'') := by
  constructor
  · have hplan := plan_sampleBrief (w := .ofFiles overriding) isSampleHost_plain rfl rfl
    obtain ⟨hlayout, hwrite⟩ := plan_isLayout_iff _ _ _ _ .empty hplan
    have hnames : ∀ f ∈ samplePlan, HasNames f.path := by
      have hfit : ∀ f ∈ samplePlan, FileTree.HasShortNames f.path ∧
          FileTree.hasNull f.path = false := by
        decide +kernel
      exact fun f hf => ⟨(hfit f hf).1, (hfit f hf).2⟩
    have hl : IsLayout (samplePlan.map PlannedFile.path) := by
      refine hlayout.2 fun g hg hother => ?_
      have hbundled := Registry.load_subset _ _ _ hg
      exact absurd (by simpa [World.ofFiles, Registry.empty, Host.plain] using hbundled) hother
    exact ⟨hl, hwrite.2 ⟨hl, hnames⟩⟩
  · obtain ⟨fs, hplan⟩ := exists_plan_clashing
    obtain ⟨hlayout, hwrite⟩ := plan_isLayout_iff _ _ _ _ .empty hplan
    have hwhole : single "whole" "" "" ∈ clashing.plugins := List.mem_cons_self
    have hother : single "whole" "" "" ∉ Plugin.bundled := fun hm =>
      absurd (List.mem_map_of_mem hm : _ ∈ Plugin.bundled.map Plugin.name) (by decide)
    have hnot : ¬ IsLayout (fs.map PlannedFile.path) := fun hl =>
      hlayout.1 hl _ (mem_load_clashing hwhole) hother _ rfl _ List.mem_cons_self _ rfl (.inl rfl)
    exact ⟨fs, hplan, hnot, fun hw => hnot (hwrite.1 hw).1⟩

end CrateScaffold.Project
