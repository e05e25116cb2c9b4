import CrateScaffold.Proofs.Project.Directories
import CrateScaffold.Proofs.Project.Locality
import CrateScaffold.Proofs.Project.Rewriting

/-!
Generating again. What is read for a project is apart from where it is written, so a second run
finds the same manifest, bindings and templates; it makes the same plan, and writing that changes
nothing.
-/

namespace CrateScaffold

/-- A host on which a run can be given again: only what has no part in a run without a build may be
another. -/
structure Host.Repeats (h h' : Host) : Prop where
  platform : h'.platform = h.platform
  plugins : h'.plugins = h.plugins
  trouble : h'.trouble = h.trouble
  engine : h'.engine = h.engine

namespace Project

open FileTree (SameApart HasShortNames)

variable {o : Order} {b : Brief} {fs : List PlannedFile} {out : Outcome} {p : Path} {s : Site}
variable {h h' : Host} {w w' u v : World}

/-- A plan is prepared with the registry loaded. -/
theorem registry_of_prepare (hp : (prepare o).exec h w = (.ok (b, fs), u)) :
    u.registry = (w.registry.load h.plugins h.trouble).1 := by
  obtain ⟨b', v, hbrief, hp⟩ := Action.exec_bind_eq_ok.1 hp
  obtain ⟨fs', x, hplan, hp⟩ := Action.exec_bind_eq_ok.1 hp
  obtain ⟨⟨⟩, y, hcheck, hpure⟩ := Action.exec_bind_eq_ok.1 hp
  obtain ⟨⟨⟩, z, hload, hfiles⟩ := Action.exec_bind_eq_ok.1 hplan
  cases hpure
  obtain ⟨-, rfl⟩ := Prod.mk.inj hcheck
  obtain ⟨-, rfl⟩ := Prod.mk.inj hfiles
  obtain ⟨-, rfl⟩ := Prod.mk.inj hload
  obtain ⟨-, rfl⟩ := Prod.mk.inj hbrief
  rfl

/-- After a plan was prepared and written, its plugins are loaded, or would be loaded anew. -/
theorem load_again (hp : (prepare o).exec h w = (.ok (b, fs), u))
    (hrest : u.SameRest v) (hr : w'.registry = v.registry ∨ w'.registry = w.registry) :
    (w'.registry.load h.plugins h.trouble).1 = (w.registry.load h.plugins h.trouble).1 ∧
      (w'.registry.load h.plugins h.trouble).2.2 = .ok () := by
  obtain ⟨-, hplan, -⟩ := prepare_eq_ok.1 (congrArg Prod.fst hp)
  obtain ⟨hload, -⟩ := plan_eq_ok.1 hplan
  rcases hr with hr | hr
  · rw [hr, hrest.registry, registry_of_prepare hp, Registry.load_load hload]
    exact ⟨rfl, rfl⟩
  · rw [hr]
    exact ⟨rfl, hload⟩

/-- What was written can be prepared again, with the same plan. -/
theorem prepare_again (hsound : w.files.Sound) (hsep : o.Separated) (hforce : o.force = true)
    (hplugins : ∀ p ∈ (w.registry.load h.plugins h.trouble).1.plugins, p.ReadsApart o.output)
    (hh : Host.Repeats h h') (hp : ((prepare o).exec h w).1 = .ok (b, fs))
    (hsame : SameApart o.output w.files w'.files)
    (hscript : ∃ x, w'.files.stat (script o.output) = .ok x)
    (hregistry : (w'.registry.load h.plugins h.trouble).1 =
        (w.registry.load h.plugins h.trouble).1 ∧
      (w'.registry.load h.plugins h.trouble).2.2 = .ok ()) :
    ((prepare o).exec h' w').1 = .ok (b, fs) := by
  obtain ⟨hbrief, hplan, -⟩ := prepare_eq_ok.1 hp
  obtain ⟨-, hfiles⟩ := plan_eq_ok.1 hplan
  obtain ⟨-, -, htemplates⟩ := brief_eq_ok hbrief
  obtain ⟨hload, hok⟩ := hregistry
  obtain ⟨x, hx⟩ := hscript
  have hthere : w'.files.holds (script o.output) = .ok true := by
    rw [FileTree.holds, FileTree.look_of_stat hx]
    rfl
  refine prepare_eq_ok.2 ⟨?_, plan_eq_ok.2 ?_, ?_⟩
  · exact brief_again (s := ⟨w.files, h.platform, h.engine⟩) hsound hsame hsep hbrief
  · rw [hh.plugins, hh.trouble, hload]
    exact ⟨hok, files_again (s := ⟨w.files, h.platform, h.engine⟩) hsame hh.platform hh.engine
      (htemplates ▸ hsep.templates) hplugins hfiles⟩
  · rw [hforce]
    exact checkOverwrite_of_force hthere

/-- Where a project was generated without a build, in a tree whose entries have their directories
and from what is apart from it, generating it again answers the same and leaves the tree as it is,
be it in the same process or in a new one, as long as templates come to the same. -/
theorem run_again (o : Order) (h h' : Host) (w w' : World) (out : Outcome)
    (hh : Host.Repeats h h') (hsound : w.files.Sound) (hreachable : w.registry.Reachable)
    (hsep : o.Separated) (hplugins : ∀ p ∈ w.registry.plugins ++ h.plugins,
      p ∈ Plugin.bundled ∨ p.ReadsApart o.output)
    (hrelative : ∀ b fs, ((prepare o).exec h w).1 = .ok (b, fs) →
      ∀ d ∈ directories b.coordinates b.bindings, d.anchor = .relative)
    (hforce : o.force = true) (hbuild : o.build = false)
    (hrun : (run o).exec h w = (.ok out, w')) (hok : out.failure = none) :
    ∀ u : World, u.files = w'.files → u.registry = w'.registry ∨ u.registry = w.registry →
      ∃ v, (run o).exec h' u = (.ok out, v) ∧ v.files = w'.files := by
  intro u hfiles hregistry
  rcases run_eq_ok hrun with ⟨-, f, rfl⟩ | ⟨b, fs, x, y, hp, hwrite, hstage⟩
  · cases hok
  rw [buildStage_of_not_build hbuild] at hstage
  obtain ⟨hout, rfl⟩ := Prod.mk.inj hstage
  have hout := Except.ok.inj hout
  obtain ⟨-, hplan, -⟩ := prepare_eq_ok.1 (congrArg Prod.fst hp)
  obtain ⟨hin, hn⟩ := inside_of_plan hplan
  have hds := leaves_of_relative (dots_not_mem_of_plan hreachable hplan)
    (hrelative b fs (congrArg Prod.fst hp))
  have hx : x.files = w.files := (keeps_prepare.of_exec hp).files
  -- What the first run wrote is there, and nothing that it had read has changed.
  have hdirs := fun d => stat_dir_of_write (d := d) hwrite
  have hentries := fun f => stat_file_of_write (f := f) hsep.output hds hin hn hwrite
  have hsame : SameApart o.output w.files u.files := by
    rw [hfiles, ← hx]
    exact sameApart_of_write (hx ▸ hsound) hsep.output hds hin hwrite
  have hscript : ∃ e, u.files.stat (script o.output) = .ok e := by
    obtain ⟨-, -, f, hf, hpath, -⟩ := script_of_plan hreachable hplan
    rw [hfiles, script, ← hpath]
    exact ⟨_, hentries f hf⟩
  have hrest := (writes_write _ _ _).sameRest.of_exec hwrite
  -- So the second run prepares the same plan and writes what is there.
  have hprepared := prepare_again hsound hsep hforce
    (fun p => Plugin.readsApart_of_load hplugins) hh (congrArg Prod.fst hp) hsame hscript
    (load_again hp hrest hregistry)
  rcases hagain : (prepare o).exec h' u with ⟨result, z⟩
  rw [hagain] at hprepared
  change result = _ at hprepared
  subst hprepared
  have hz : z.files = y.files := (keeps_prepare.of_exec hagain).files.trans hfiles
  have hwrite' := write_of_stat (w := z) (h := h') (hz ▸ hdirs) fun f hf => ⟨_, hz ▸ hentries f hf⟩
  refine ⟨{ z with records := z.records ++ fs.map (writtenRecord o.output) }, ?_, hz⟩
  rw [exec_run_of_write hagain hwrite' hbuild, ← write_eq_ok hwrite, hout]

/-- After a run without a build that succeeded the plugins are loaded, and the output directory and
all above it are there. -/
theorem run_leaves (hreachable : w.registry.Reachable) (hout : ['.', '.'] ∉ o.output.parts)
    (hrelative : ∀ b fs, ((prepare o).exec h w).1 = .ok (b, fs) →
      ∀ d ∈ directories b.coordinates b.bindings, d.anchor = .relative)
    (hbuild : o.build = false) (hrun : (run o).exec h w = (.ok out, w'))
    (hok : out.failure = none) :
    w'.registry = (w.registry.load h.plugins h.trouble).1 ∧
      (w.registry.load h.plugins h.trouble).2.2 = .ok () ∧
      ∀ m, m <+: o.output.parts → w'.files.at? m = some .dir := by
  rcases run_eq_ok hrun with ⟨-, f, rfl⟩ | ⟨b, fs, x, y, hp, hwrite, hstage⟩
  · cases hok
  rw [buildStage_of_not_build hbuild] at hstage
  obtain ⟨-, rfl⟩ := Prod.mk.inj hstage
  obtain ⟨-, hplan, -⟩ := prepare_eq_ok.1 (congrArg Prod.fst hp)
  have hds := leaves_of_relative (dots_not_mem_of_plan hreachable hplan)
    (hrelative b fs (congrArg Prod.fst hp))
  have hmem : resources ∈ directories b.coordinates b.bindings :=
    mem_directories.2 (.inr (.inl rfl))
  have hstat := stat_dir_of_write hwrite hmem
  have hrest := (writes_write _ _ _).sameRest.of_exec hwrite
  refine ⟨hrest.registry.trans (registry_of_prepare hp), (plan_eq_ok.1 hplan).1, fun m hm => ?_⟩
  refine FileTree.at?_of_stat_dir (dots_not_mem_join hout (hds _ hmem)) hstat ?_
  rw [Path.join_of_relative _ (Path.anchor_of_inside (hds _ hmem))]
  exact hm.trans (List.prefix_append _ _)

theorem crate_of_dir {build : Bool} (hp : s.files.stat p = .ok .dir) :
    (crate (some p) build s).2 =
      .error (.manifest (.reading (.files (.system .isDirectory p)))) := by
  have hlook := FileTree.look_of_stat hp
  have hread : Manifest.read s.files p =
      .error (.reading (.files (.system .isDirectory p))) := by
    simp only [Manifest.read, Manifest.load, Manifest.holds, FileTree.holds, hlook,
      FileTree.readText, FileTree.readExact, FileTree.read, hp]
    rfl
  have hholds : (holds p s).2 = .ok true := by
    rw [holds, Reading.snd_ofTree, FileTree.holds, hlook]
    rfl
  unfold crate
  rw [Reading.snd_bind, hholds]
  change (((Reading.ofTree fun t => (Manifest.read t p).mapError .manifest) >>= _) s).2 = _
  rw [Reading.snd_bind, Reading.snd_ofTree, hread]
  rfl

theorem sound_overriding : overriding.Sound := FileTree.sound_of_forall (by decide)

def replacing : Order :=
  ⟨"kotlin", some Path.here, true, some "org", some "lib", some "Cargo.toml", some "src", false,
    600⟩

theorem isSample_replacing : replacing.IsSample overriding where
  group := rfl
  package := rfl
  root := rfl
  manifest := by
    rintro _ ⟨⟩
    decide +kernel
  source := by
    rintro _ ⟨⟩
    decide
  build := rfl

theorem relative_of_isSample (ho : o.IsSample overriding) (hh : IsSampleHost h)
    (hw : w.files = overriding) (hp : ((prepare o).exec h w).1 = .ok (b, fs)) :
    ∀ d ∈ directories b.coordinates b.bindings, d.anchor = .relative := by
  obtain ⟨hbrief, -, -⟩ := prepare_eq_ok.1 hp
  rw [hw, hh.platform, hh.engine] at hbrief
  cases (brief_sample ⟨overriding, "linux", .refusing⟩ ho).symm.trans hbrief
  decide

theorem run_again_replacing :
    ∃ out w', (run replacing).exec Host.plain (.ofFiles overriding) = (.ok out, w') ∧
      out.failure = none ∧ out.written.length = 5 ∧
        ∃ v, (run replacing).exec Host.plain w' = (.ok out, v) ∧ v.files = w'.files := by
  have hprepared := prepare_sample (w := .ofFiles overriding) isSample_replacing rfl rfl
    isSampleHost_plain (by decide +kernel)
  obtain ⟨out, w', hrun, hok, hwritten⟩ := exists_run_of_write hprepared (by decide +kernel) rfl
  have hsep : replacing.Separated := by
    refine ⟨by decide, ?_, ?_, ⟨?_, ?_, ?_⟩⟩
    · rintro _ ⟨⟩
      exact ⟨⟨by decide, by decide, by decide⟩, by decide⟩
    · rintro _ ⟨⟩
      exact ⟨⟨by decide +kernel, by decide, by decide⟩, by decide⟩
    · decide
    · decide
    · decide
  have hagain := run_again replacing Host.plain Host.plain (.ofFiles overriding) w' out
    ⟨rfl, rfl, rfl, rfl⟩ sound_overriding .empty hsep nofun
    (fun b fs => relative_of_isSample isSample_replacing isSampleHost_plain rfl) rfl rfl hrun hok
  refine ⟨out, w', hrun, hok, ?_, hagain w' rfl (.inl rfl)⟩
  rw [hwritten, List.length_map]
  rfl

/-- An order whose manifest, sources and overrides are not in the output directory, which is in
neither the sources nor the overrides. The output directory may be below the manifest, and names may
have any length. -/
structure Order.Disjoint (o : Order) : Prop where
  output : ['.', '.'] ∉ o.output.parts
  manifest : ∀ p, o.manifest = some p → ['.', '.'] ∉ p.parts ∧ ¬ o.output.parts <+: p.parts
  source : ∀ p, o.source = some p → p.Apart o.output
  templates : (library o.root).Apart o.output

def longName : Text := List.replicate 256 'x'

theorem follow_of_dir {t : FileTree} {cs : List Text} (ha : t.at? ["a"] = some .dir) :
    t.follow [] ("a" :: cs) = t.follow ["a"] cs := by
  have hshort : ¬ 255 < (Utf8.encode "a").length := by decide
  have hdots : ("a" : Text) ≠ ['.', '.'] := by decide
  have hat : t.at? ([] ++ [("a" : Text)]) = some .dir := ha
  rw [FileTree.follow.eq_def]
  simp only [if_neg hdots, if_neg hshort, hat]
  rfl

theorem bindings_of_longName (ha : s.files.at? ["a"] = some .dir) :
    (bindings (some ⟨.relative, ["a", longName]⟩) s).2 =
      .error (.files (.system .nameTooLong ⟨.relative, ["a", longName]⟩)) := by
  have hfollow : s.files.follow [] ["a", longName] = .error .nameTooLong := by
    have hlong : 255 < (Utf8.encode longName).length := by decide +kernel
    have hdots : longName ≠ ['.', '.'] := by decide
    rw [follow_of_dir ha, FileTree.follow.eq_def]
    simp only [if_neg hdots, if_pos hlong]
  have hnull : FileTree.hasNull ⟨.relative, ["a", longName]⟩ = false := by decide
  have hdir : s.files.isDir ⟨.relative, ["a", longName]⟩ =
      .error (.system .nameTooLong ⟨.relative, ["a", longName]⟩) := by
    rw [FileTree.isDir, FileTree.look, FileTree.stat, FileTree.locate, hnull, hfollow]
    rfl
  simp only [bindings, Reading.snd_bind, Reading.snd_ofTree, hdir]
  rfl

def nested (manifest source : Option Path) : Order :=
  ⟨"a/b", some Path.here, true, some "org", some "lib", manifest, source, false, 600⟩

def belowManifest : Order := nested (some ⟨.relative, ["a"]⟩) none

def longSource : Order := nested none (some ⟨.relative, ["a", longName]⟩)

def noticing : Plugin := ⟨"notice", "notice", fun _ s =>
  ([], if s.files.isFile (script "a/b") then .error (.plugin "seen") else .ok [])⟩

def noticingHost : Host := { Host.plain with plugins := [noticing] }

/-- The order succeeds where nothing but the templates is, and is refused when it is given again. -/
def RefusedAgain (h : Host) (o : Order) : Prop :=
  ∃ out w' f v, (run o).exec h (.ofFiles overriding) = (.ok out, w') ∧ out.failure = none ∧
    (run o).exec h w' = (.ok (.refused f), v)

section RefusedAgain

variable {manifest source : Option Path} (ho : (nested manifest source).IsSample overriding)
  (hh : IsSampleHost h)

include ho hh in
theorem refusedAgain_of_prepare
    (hagain : ∀ u : World, u.files.at? ["a"] = some .dir → u.files.isFile (script "a/b") = true →
      u.registry = (Registry.empty.load h.plugins h.trouble).1 →
      (u.registry.load h.plugins h.trouble).2.2 = .ok () →
      ∃ f, ((prepare (nested manifest source)).exec h u).1 = .error f ∧ f.isReported = true) :
    RefusedAgain h (nested manifest source) := by
  have hcheck : (checkOverwrite "a/b" true ⟨overriding, "linux", .refusing⟩).2 = .ok () := by
    decide +kernel
  -- The host has no part in writing.
  have hwrite : ((write "a/b" samplePlan (directories sampleBrief.coordinates
      sampleBrief.bindings)).exec h (.ofFiles overriding)).1.isOk = true := by
    rw [((writes_write _ _ _).depends Host.plain h (w := .ofFiles overriding) rfl).1]
    decide +kernel
  obtain ⟨out, w', hrun, hok, -⟩ :=
    exists_run_of_write (prepare_sample ho rfl rfl hh hcheck) hwrite rfl
  obtain ⟨hregistry, hload, hat⟩ := run_leaves .empty (o := nested manifest source)
    (by change _ ∉ Path.parts "a/b"; decide)
    (fun b fs => relative_of_isSample ho hh rfl) rfl hrun hok
  obtain ⟨c, text, -, -, hread⟩ := script_of_run .empty hrun rfl hok
  have hfile : w'.files.isFile (script "a/b") = true := FileTree.isFile_of_read hread
  have hloaded : (w'.registry.load h.plugins h.trouble).2.2 = .ok () := by
    rw [hregistry, Registry.load_load hload]
  have ha : w'.files.at? ["a"] = some .dir := hat _ (by
    change _ <+: Path.parts "a/b"
    decide)
  obtain ⟨f, hp, hf⟩ := hagain w' ha hfile hregistry hloaded
  obtain ⟨v, hv⟩ := exec_run_of_reported hp hf
  exact ⟨out, w', f, v, hrun, hok, hv⟩

theorem refusedAgain_belowManifest : RefusedAgain Host.plain belowManifest := by
  refine refusedAgain_of_prepare ⟨rfl, rfl, rfl, ?_, nofun, rfl⟩ isSampleHost_plain ?_
  · rintro _ ⟨⟩
    decide
  · intro u ha _ _ _
    have hstat : u.files.stat ⟨.relative, ["a"]⟩ = .ok .dir := by
      have hnull : FileTree.hasNull ⟨.relative, ["a"]⟩ = false := by decide
      rw [FileTree.stat, FileTree.locate, hnull, follow_of_dir ha, FileTree.follow]
      rfl
    refine ⟨.manifest (.reading (.files (.system .isDirectory ⟨.relative, ["a"]⟩))),
      prepare_of_brief ?_, rfl⟩
    rw [brief_of_coordinates coordinates_sample]
    change (crate (some ⟨.relative, ["a"]⟩) false ⟨u.files, _, _⟩).2 >>= _ = _
    rw [crate_of_dir hstat]
    rfl

theorem refusedAgain_longSource : RefusedAgain Host.plain longSource := by
  refine refusedAgain_of_prepare ⟨rfl, rfl, rfl, nofun, ?_, rfl⟩ isSampleHost_plain ?_
  · rintro _ ⟨⟩
    decide
  · intro u ha _ _ _
    refine ⟨.files (.system .nameTooLong ⟨.relative, ["a", longName]⟩), prepare_of_brief ?_, rfl⟩
    rw [brief_of_coordinates coordinates_sample]
    change Except.ok none >>= (fun c => (bindings (some ⟨.relative, ["a", longName]⟩)
      ⟨u.files, _, _⟩).2 >>= _) = _
    rw [bindings_of_longName ha]
    rfl

theorem isSampleHost_noticingHost : IsSampleHost noticingHost where
  platform := rfl
  engine := rfl
  names := List.nodup_singleton _
  others := by
    simp only [noticingHost, List.forall_mem_singleton]
    decide
  silent := by
    have hnone : ¬ overriding.isFile (script "a/b") = true := by decide
    have hsilent :
        (noticing.contributions sampleBrief ⟨overriding, "linux", .refusing⟩).2 = .ok [] := by
      change (if overriding.isFile (script "a/b") = true then Except.error (.plugin "seen")
        else .ok []) = _
      rw [if_neg hnone]
    exact ⟨[[]], .cons hsilent .nil, rfl⟩

theorem refusedAgain_noticing : RefusedAgain noticingHost (nested none none) := by
  refine refusedAgain_of_prepare ⟨rfl, rfl, rfl, nofun, nofun, rfl⟩ isSampleHost_noticingHost ?_
  intro u _ hfile hregistry hload
  have hbrief : (brief (nested none none)
      ⟨u.files, noticingHost.platform, noticingHost.engine⟩).2 = .ok sampleBrief :=
    brief_of_coordinates coordinates_sample
  have hh := isSampleHost_noticingHost
  obtain ⟨hplugins, hok⟩ := Registry.load_of_readyFor noticingHost.trouble (.inl rfl) hh.names
    hh.others
  refine ⟨.plugin "seen", prepare_of_plan hbrief hload ?_, rfl⟩
  rw [hregistry, Registry.load_load hok, hplugins]
  have hseen : (noticing.contributions sampleBrief
      ⟨u.files, noticingHost.platform, noticingHost.engine⟩).2 = .error (.plugin "seen") :=
    if_pos hfile
  have hlast : (Plugin.bundled ++ noticingHost.plugins).reverse =
      noticing :: Plugin.bundled.reverse := rfl
  simp only [files, Registry.contributions, Reading.snd_bind, hlast, List.mapM_cons, hseen]
  rfl

end RefusedAgain

section Drawing

def drawing : FileTree := overriding.put [".jni-cli", "templates", "kotlin", "Library.kt"]
  (.file (Utf8.encode "\x7b\x7brange(9)|random\x7d\x7d") false)

def answering (lot : Text) : Host :=
  { Host.plain with engine := ⟨fun _ => .ok [], fun _ _ _ => .ok lot⟩ }

theorem sound_drawing : drawing.Sound := FileTree.sound_of_forall (by decide)

theorem contributed_drawing {lot : Text} (hlot : lot = "1" ∨ lot = "2") :
    Contributed sampleBrief ⟨drawing, "linux", (answering lot).engine⟩ Plugin.bundled
      (contributionsWith "org" lot).flatten := by
  rcases hlot with rfl | rfl
  · exact contributed_of_renders ⟨rfl, by decide +kernel, by decide +kernel, by decide +kernel⟩
  · exact contributed_of_renders ⟨rfl, by decide +kernel, by decide +kernel, by decide +kernel⟩

theorem prepare_drawing {lot : Text} (hlot : lot = "1" ∨ lot = "2") {there : Bool}
    (hr : w.registry.ReadyFor []) (hsame : SameApart "a/b" drawing w.files)
    (hthere : w.files.holds (script "a/b") = .ok there) :
    ((prepare (nested none none)).exec (answering lot) w).1 =
      .ok (sampleBrief, planWith "org" lot) := by
  have htemplates : sampleBrief.templates.Apart "a/b" := ⟨by decide, by decide, by decide⟩
  refine prepare_of_sample ⟨rfl, rfl, rfl, nofun, nofun, rfl⟩ hr rfl ?_
    (checkOverwrite_of_force hthere)
  refine (contributed_drawing hlot).elsewhere fun p hp => ?_
  exact Plugin.readsApart_bundled hp _ sampleBrief ⟨drawing, "linux", (answering lot).engine⟩ _
    htemplates rfl rfl hsame

def drawn : FileTree :=
  ((write (nested none none).output (planWith "org" "1") (directories sampleBrief.coordinates
    sampleBrief.bindings)).exec (answering "1") (.ofFiles drawing)).2.files

/-- The first lot is written where no script is, and the second one over the first. -/
theorem isOk_write_drawn : drawing.holds (script "a/b") = .ok false ∧
    ((write (nested none none).output (planWith "org" "1") (directories sampleBrief.coordinates
      sampleBrief.bindings)).exec (answering "1") (.ofFiles drawing)).1.isOk = true ∧
    drawn.holds (script "a/b") = .ok true ∧
    ((write (nested none none).output (planWith "org" "2") (directories sampleBrief.coordinates
      sampleBrief.bindings)).exec (answering "2") (.ofFiles drawn)).1.isOk = true := by
  decide +kernel

/-- The second lot can be written wherever the first one was. -/
theorem isOk_write_again (hu : u.files = drawn) :
    ((write (nested none none).output (planWith "org" "2")
      (directories sampleBrief.coordinates sampleBrief.bindings)).exec (answering "2") u).1.isOk =
        true := by
  obtain ⟨-, -, -, hdrawn⟩ := isOk_write_drawn
  -- The tree is kept from being computed.
  generalize drawn = t at hu hdrawn
  rw [((writes_write (nested none none).output (planWith "org" "2") (directories
    sampleBrief.coordinates sampleBrief.bindings)).depends (answering "2") (answering "2")
      (w := .ofFiles t) hu).1]
  exact hdrawn

def libraryObject (lot : Text) : PlannedFile :=
  plain ["src", "main", "kotlin", "org", "lib", "Library.kt"] lot

theorem holdsFile_libraryObject {lot : Text} {ps : List Path}
    {output : Path} {ds : List Path}
    (hwrite : (write output (planWith "org" lot) ds).exec h u = (.ok ps, v)) :
    v.files.HoldsFile (output / (libraryObject lot).path) (Utf8.encode lot) := by
  have hin : ∀ f ∈ planWith "org" lot, f.path.leaves = false := by
    simp [planWith, plain, Path.leaves, Path.isAbsolute]
  have hn : ((planWith "org" lot).map PlannedFile.path).Nodup := by simp [planWith, plain]
  have hmem : libraryObject lot ∈ planWith "org" lot := by simp [libraryObject, planWith]
  exact holdsFile_of_write hin hn hmem hwrite

/-- The order succeeds with the first lot, and given again with the second it succeeds and changes
the tree. -/
theorem changesAgain_drawing : ∃ out w' out' v,
    (run (nested none none)).exec (answering "1") (.ofFiles drawing) = (.ok out, w') ∧
      out.failure = none ∧ (run (nested none none)).exec (answering "2") w' = (.ok out', v) ∧
        out'.failure = none ∧ v.files ≠ w'.files := by
  obtain ⟨hfree, hok, hheld, -⟩ := isOk_write_drawn
  have hprepared := prepare_drawing (w := .ofFiles drawing) (.inl rfl) (.inl rfl)
    ⟨fun _ _ _ => Iff.rfl, fun _ _ _ _ => rfl⟩ hfree
  obtain ⟨u, ps, x, hp, hwrite, hx⟩ := exists_write_of_isOk hprepared hok
  have hsame : SameApart "a/b" drawing x.files := by
    have hu : u.files = drawing := (keeps_prepare.of_exec hp).files
    have hin : ∀ f ∈ planWith "org" "1", f.path.leaves = false := by
      simp [planWith, plain, Path.leaves, Path.isAbsolute]
    rw [← hu]
    exact sameApart_of_write (hu ▸ sound_drawing) (by decide) (by decide) hin hwrite
  have hregistry : x.registry = ⟨Plugin.bundled ++ [], true⟩ := by
    rw [((writes_write _ _ _).sameRest.of_exec hwrite).registry, registry_of_prepare hp]
    have hready : Registry.empty.ReadyFor [] := .inl rfl
    exact (Registry.load_of_readyFor none hready List.nodup_nil
      fun p hp => absurd hp List.not_mem_nil).1
  have hdrawn : x.files = drawn := hx
  have hagain := prepare_drawing (w := x) (.inr rfl) (.inr hregistry) hsame
    (hdrawn ▸ hheld)
  obtain ⟨y, qs, v, hp', hwrite', -⟩ := exists_write_of_isOk hagain (isOk_write_again hdrawn)
  refine ⟨_, x, _, v, exec_run_of_write hp hwrite rfl, rfl, exec_run_of_write hp' hwrite' rfl, rfl,
    fun hfiles => ?_⟩
  have hfirst := (holdsFile_libraryObject hwrite).read_eq
  have hsecond := (holdsFile_libraryObject hwrite').read_eq
  have hne : Utf8.encode "1" ≠ Utf8.encode "2" := by decide
  rw [hfiles] at hsecond
  exact hne (Except.ok.inj (hfirst.symm.trans hsecond))

end Drawing

/-- What goes wrong in a second run: the first one makes the directory that the second one takes for
the manifest, or in which it looks for a name that is too long; or a plugin finds what was written;
or a template comes to something else. -/
theorem run_again_refused :
    overriding.Sound ∧ belowManifest.Disjoint ∧ longSource.Disjoint ∧
      (nested none none).Disjoint ∧
      (∀ d ∈ directories sampleBrief.coordinates sampleBrief.bindings, d.anchor = .relative) ∧
      RefusedAgain Host.plain belowManifest ∧ RefusedAgain Host.plain longSource ∧
        RefusedAgain noticingHost (nested none none) ∧
      drawing.Sound ∧ ∃ out w' out' v,
        (run (nested none none)).exec (answering "1") (.ofFiles drawing) = (.ok out, w') ∧
          out.failure = none ∧ (run (nested none none)).exec (answering "2") w' = (.ok out', v) ∧
            out'.failure = none ∧ v.files ≠ w'.files := by
  have hdots : ['.', '.'] ∉ Path.parts "a/b" := by decide
  have htemplates : (library (some Path.here)).Apart "a/b" :=
    ⟨by decide, by decide, by decide⟩
  refine ⟨sound_overriding, ⟨hdots, ?_, nofun, htemplates⟩, ⟨hdots, nofun, ?_, htemplates⟩,
    ⟨hdots, nofun, nofun, htemplates⟩, by decide, refusedAgain_belowManifest,
    refusedAgain_longSource, refusedAgain_noticing, sound_drawing, changesAgain_drawing⟩
  · rintro _ ⟨⟩
    decide
  · rintro _ ⟨⟩
    exact ⟨by decide, by decide, by decide⟩

end Project

end CrateScaffold
