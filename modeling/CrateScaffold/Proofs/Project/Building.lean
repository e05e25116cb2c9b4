import CrateScaffold.Proofs.Native.Bundle
import CrateScaffold.Proofs.Native.Place
import CrateScaffold.Proofs.Project.Directories
import CrateScaffold.Proofs.Project.Generation
import CrateScaffold.Proofs.Project.Regeneration

/-!
Generating with a native build. The build tool is called once everything is written; however it
ends, the run has an outcome, and the generated files stay. It succeeds just when the build does and
leaves the library, which is then among the resources.
-/

namespace CrateScaffold

def World.built (w : World) (h : Host) (call : Call) : World :=
  match h.cargo with
  | none => w
  | some cargo => ((Native.produce cargo.produces).exec h (w.calling call)).2

namespace Project

variable {o : Order} {b : Brief} {f : PlannedFile} {fs : List PlannedFile} {ps : List Path}
variable {c : Crate} {platform : Text} {l : Location} {site : Site} {h : Host} {u v w w' : World}

def Order.call (o : Order) (c : Crate) : Call := ⟨c.dir, o.timeout⟩

/-- What is asked of a build: a library that can be a file, and a build tool that is not
interrupted, can write what it produces, and writes no file in the output directory; afterwards
there is no directory in the place of the library or of its copy. -/
structure Buildable (o : Order) (h : Host) (w : World) (c : Crate) : Prop where
  library : c.HasPlainLibrary h.platform
  uninterrupted : ∀ cargo, h.cargo = some cargo → cargo.interrupted = false
  produced : ∀ cargo, h.cargo = some cargo →
    ((Native.produce cargo.produces).exec h (w.calling (o.call c))).1 = .ok ()
  outside : ∀ cargo p content executable, h.cargo = some cargo →
    (p, .file content executable) ∈ cargo.produces → ¬ o.output.location <+: p.location
  artifact : (w.built h (o.call c)).files.stat (c.artifact h.platform) ≠ .ok .dir
  destination : (w.built h (o.call c)).files.stat (o.destination c h.platform) ≠ .ok .dir

/-- The build tool is there, succeeds, and leaves the library with this content. -/
def Builds (o : Order) (h : Host) (w : World) (c : Crate) (content : Bytes) : Prop :=
  ∃ cargo executable, h.cargo = some cargo ∧ cargo.timesOut = false ∧ cargo.exitCode = 0 ∧
    (w.built h (o.call c)).files.stat (c.artifact h.platform) = .ok (.file content executable)

theorem built_of_cargo {cargo : Cargo} {call : Call} (hcargo : h.cargo = some cargo) :
    w.built h call = ((Native.produce cargo.produces).exec h (w.calling call)).2 := by
  rw [World.built, hcargo]

/-- A build that is asked for has a crate, whose manifest can be found. -/
theorem exists_crate (hbuild : o.build = true) (hb : (brief o site).2 = .ok b) :
    ∃ c, b.crate = some c ∧ FileTree.HasShortNames c.manifest := by
  obtain ⟨-, hcrate, -⟩ := brief_eq_ok hb
  rw [hbuild] at hcrate
  cases hc : b.crate with
  | none =>
    rw [hc] at hcrate
    cases hm : o.manifest with
    | none =>
      rw [hm] at hcrate
      cases hcrate
    | some p =>
      rw [hm] at hcrate
      obtain ⟨present, -, hcrate⟩ := Reading.snd_bind_eq_ok.1 hcrate
      cases present with
      | false => cases hcrate
      | true =>
        obtain ⟨d, -, hcrate⟩ := Reading.snd_bind_eq_ok.1 hcrate
        obtain ⟨⟨⟩, -, hpure⟩ := Reading.snd_bind_eq_ok.1 hcrate
        cases hpure
  | some c =>
    rw [hc] at hcrate
    obtain ⟨p, -, hread⟩ := crate_eq_some hcrate
    obtain ⟨rfl, x, hx⟩ := Manifest.manifest_of_read hread
    exact ⟨c, rfl, FileTree.hasShortNames_of_stat hx⟩

theorem preservesAt_built (hb : Buildable o h w c) (hl : o.output.location <+: l) :
    w.files.Preserves l (w.built h (o.call c)).files := by
  unfold World.built
  cases hcargo : h.cargo with
  | none => exact .rfl
  | some cargo =>
    refine Native.preservesAt_produce (fun p content executable hp heq => ?_) h
      (w.calling (o.call c))
    exact hb.outside cargo p content executable hcargo hp (heq ▸ hl)

theorem calls_built (w : World) (h : Host) (call : Call) :
    (w.built h call).calls = w.calls ++ h.cargo.toList.map fun _ => call := by
  unfold World.built
  cases h.cargo with
  | none => simp
  | some cargo => exact ((Native.writes_produce cargo.produces).sameRest h (w.calling call)).calls

/-- Nothing keeps the native stage from an outcome: a build tool that ends in time says what is
text, and after a success the ways to the library and, if it is there, to its place are not longer
than the system takes. -/
def Answers (o : Order) (h : Host) (w : World) (c : Crate) : Prop :=
  ∀ cargo, h.cargo = some cargo → cargo.timesOut = false →
    (Native.said cargo).isOk = true ∧ (cargo.exitCode = 0 →
      Native.isTooLong (c.artifact h.platform) = false ∧
        ∀ content, Builds o h w c content →
          Native.isTooLong (o.destination c h.platform) = false)

theorem failure?_eq_none_iff {cargo : Cargo} {timeout : Int} : cargo.failure? timeout = none ↔
    cargo.timesOut = false ∧ (Native.said cargo).isOk = true ∧ cargo.exitCode = 0 := by
  unfold Cargo.failure?
  split
  · simp_all
  · cases hsaid : Native.said cargo <;> simp_all [Except.isOk, Except.toBool]

theorem builds_iff {cargo : Cargo} {content : Bytes} (hcargo : h.cargo = some cargo) :
    Builds o h w c content ↔ cargo.timesOut = false ∧ cargo.exitCode = 0 ∧ ∃ executable,
      (w.built h (o.call c)).files.stat (c.artifact h.platform) =
        .ok (.file content executable) := by
  constructor
  · rintro ⟨cargo', executable, hsome, htimes, hexit, hs⟩
    cases hcargo.symm.trans hsome
    exact ⟨htimes, hexit, executable, hs⟩
  · rintro ⟨htimes, hexit, executable, hs⟩
    exact ⟨cargo, executable, hcargo, htimes, hexit, hs⟩

/-- A build tool whose words are text fails with an outcome. -/
theorem isBuildOutcome_of_failure? {cargo : Cargo} {timeout : Int} {e : Failure}
    (hsaid : cargo.timesOut = false → (Native.said cargo).isOk = true)
    (he : cargo.failure? timeout = some e) : e.isBuildOutcome = true := by
  unfold Cargo.failure? at he
  split at he
  · cases he
    rfl
  · next htimes =>
    obtain ⟨errors, herrors⟩ := isOk_iff.1 (hsaid (by simpa using htimes))
    rw [herrors] at he
    simp only at he
    split at he
    · cases he
      rfl
    · cases he

theorem exists_decoding_of_failure? {cargo : Cargo} {timeout : Int} {e : Failure}
    (htimes : cargo.timesOut = false) (hnot : ¬ (Native.said cargo).isOk = true)
    (he : cargo.failure? timeout = some e) : ∃ d, e = .decoding d := by
  unfold Cargo.failure? at he
  rw [htimes, if_neg Bool.false_ne_true] at he
  cases hsaid : Native.said cargo with
  | error f =>
    rw [hsaid] at he
    cases he
    obtain ⟨d, -, rfl⟩ := mapError_eq_error.1 hsaid
    exact ⟨d, rfl⟩
  | ok errors => exact absurd (isOk_iff.2 ⟨errors, hsaid⟩) hnot

/-- The place of the library among the resources can be used: there is a file or nothing. -/
theorem locate_destination (hb : Buildable o h w c)
    (hres : w.files.stat (o.output / resources) = .ok .dir) :
    ∃ e, (w.built h (o.call c)).files.locate (o.destination c h.platform) =
      .ok ((o.destination c h.platform).location, e) ∧ e ≠ some .dir := by
  have hlib := hb.library
  have hdirs := (preservesAt_built hb (List.prefix_refl _)).dirs
  have hname : c.fileName h.platform ≠ ['.', '.'] := Native.fileName_ne_dots h.platform c.libName
  have hloc := FileTree.locate_child (FileTree.stat_dir_of_dirs hdirs hres) hname hlib.short
    hlib.null_not_mem
  rw [child_resources hlib.slash] at hloc
  obtain ⟨hl, -⟩ := FileTree.locate_eq_ok hloc
  rw [hl] at hloc
  refine ⟨_, hloc, fun he => hb.destination ?_⟩
  rw [FileTree.stat_eq_ok_iff, hloc, he]

def Bundles (o : Order) (h : Host) (w : World) (c : Crate) : Prop :=
  ∃ content executable records, Builds o h w c content ∧
    (bundle o c).exec h w = (.ok (o.destination c h.platform),
      { w.built h (o.call c) with
        files := (w.built h (o.call c)).files.put (o.destination c h.platform).location
          (.file content executable)
        records := records })

def Fails (o : Order) (h : Host) (w : World) (c : Crate) (e : Failure) : Prop :=
  ∃ records, (bundle o c).exec h w = (.error e, { w.built h (o.call c) with records := records })

/-- A failure that is no outcome: words that are no text, or a way that is too long. -/
def IsStray (e : Failure) : Prop :=
  (∃ d, e = .decoding d) ∨ ∃ p, e = .files (.system .nameTooLong p)

/-- After a success of the build tool only ways that are too long keep the run from an outcome. -/
theorem answers_iff {cargo : Cargo} (hcargo : h.cargo = some cargo)
    (hsuccess : cargo.failure? o.timeout = none) :
    Answers o h w c ↔ Native.isTooLong (c.artifact h.platform) = false ∧
      ∀ content, Builds o h w c content →
        Native.isTooLong (o.destination c h.platform) = false := by
  obtain ⟨htimes, hsaid, hexit⟩ := failure?_eq_none_iff.1 hsuccess
  constructor
  · exact fun hall => (hall cargo hcargo htimes).2 hexit
  · rintro hways _ hsome -
    cases hcargo.symm.trans hsome
    exact ⟨hsaid, fun _ => hways⟩

theorem exec_bundle_of_build {x : World}
    (hbuild : (Native.build c.dir o.timeout).exec h w = (.ok (), x)) :
    (bundle o c).exec h w = (Native.bundle h.platform c.libName (c.dir / ("target" : Path))
      (o.output / resources)).exec h x := by
  unfold bundle
  rw [Action.exec_bind_of_ok hbuild, Action.exec_bind_of_ok Action.exec_read]

/-- A library that was built is brought to its place, unless that is too far away. -/
theorem bundles_or_fails {records : List Record} {content : Bytes} (hb : Buildable o h w c)
    (hres : w.files.stat (o.output / resources) = .ok .dir)
    (hbuild : (Native.build c.dir o.timeout).exec h w =
      (.ok (), { w.built h (o.call c) with records := records }))
    (hway : Native.isTooLong (c.artifact h.platform) = false) (hbuilds : Builds o h w c content) :
    (Native.isTooLong (o.destination c h.platform) = false ∧ Bundles o h w c) ∨
      (Native.isTooLong (o.destination c h.platform) = true ∧
        ∃ p, Fails o h w c (.files (.system .nameTooLong p))) := by
  obtain ⟨-, executable, -, -, -, hs⟩ := id hbuilds
  have hdirs := (preservesAt_built hb (List.prefix_refl _)).dirs
  have hres' := FileTree.stat_dir_of_dirs hdirs hres
  cases hfar : Native.isTooLong (o.destination c h.platform) with
  | true =>
    obtain ⟨p, hfails⟩ := Native.exec_bundle_of_far
      (w := { w.built h (o.call c) with records := records }) hway hs hres' hfar
    exact .inr ⟨rfl, p, records, (exec_bundle_of_build hbuild).trans hfails⟩
  | false =>
    -- The directory of the resources is on the way to the place, so it is not too far away either.
    have hnear : Native.isTooLong (o.output / resources) = false := by
      by_contra hlong
      have hchild := Native.isTooLong_of_child hb.library.null_not_mem (by simpa using hlong)
      rw [child_resources hb.library.slash, hfar] at hchild
      cases hchild
    obtain ⟨e, hloc, hdir⟩ := locate_destination hb hres
    obtain ⟨records', hbundled⟩ := Native.exec_bundle_of_file
      (w := { w.built h (o.call c) with records := records }) hway hnear hfar hs hres' hloc hdir
      (location_artifact_ne hb.library)
    exact .inl ⟨rfl, content, executable, records', hbuilds,
      (exec_bundle_of_build hbuild).trans hbundled⟩

/-- After a success of the build tool the library is brought to its place, or is not there, or one
of the two is too far away. -/
theorem exec_bundle_of_success {cargo : Cargo} {records : List Record} (hb : Buildable o h w c)
    (hm : FileTree.HasShortNames c.manifest)
    (hres : w.files.stat (o.output / resources) = .ok .dir) (hcargo : h.cargo = some cargo)
    (hsuccess : cargo.failure? o.timeout = none)
    (hbuild : (Native.build c.dir o.timeout).exec h w =
      (.ok (), { w.built h (o.call c) with records := records })) :
    (Answers o h w c ∧ Bundles o h w c) ∨
      (∃ e, Answers o h w c ∧ (∀ content, ¬ Builds o h w c content) ∧
        e.isBuildOutcome = true ∧ Fails o h w c e) ∨
      ∃ e, ¬ Answers o h w c ∧ IsStray e ∧ Fails o h w c e := by
  have hanswers := answers_iff (c := c) (w := w) hcargo hsuccess
  obtain ⟨htimes, -, hexit⟩ := failure?_eq_none_iff.1 hsuccess
  cases hway : Native.isTooLong (c.artifact h.platform) with
  | true =>
    have hfails : (bundle o c).exec h w = _ :=
      (exec_bundle_of_build hbuild).trans (Native.exec_bundle_of_long hway)
    refine .inr (.inr ⟨_, fun hall => ?_, .inr ⟨c.artifact h.platform, rfl⟩, records, hfails⟩)
    rw [(hanswers.1 hall).1] at hway
    cases hway
  | false =>
    cases hs : (w.built h (o.call c)).files.stat (c.artifact h.platform) with
    | error f =>
      have hnone : ∀ content, ¬ Builds o h w c content := by
        intro content hbuilds
        obtain ⟨-, -, executable, he⟩ := (builds_iff hcargo).1 hbuilds
        cases hs.symm.trans he
      have hfails := (exec_bundle_of_build hbuild).trans (Native.exec_bundle_of_absent hway
        (hb.library.hasShortNames_artifact hm) fun e he => nomatch hs.symm.trans he)
      refine .inr (.inl ⟨_, ?_, hnone, rfl, records, hfails⟩)
      exact hanswers.2 ⟨hway, fun content hbuilds => absurd hbuilds (hnone content)⟩
    | ok y =>
      cases y with
      | dir => exact absurd hs hb.artifact
      | file content executable =>
        have hbuilds : Builds o h w c content :=
          (builds_iff hcargo).2 ⟨htimes, hexit, executable, hs⟩
        rcases bundles_or_fails hb hres hbuild hway hbuilds with
          ⟨hnear, hbundles⟩ | ⟨hfar, p, hfails⟩
        · exact .inl ⟨hanswers.2 ⟨hway, fun _ _ => hnear⟩, hbundles⟩
        · refine .inr (.inr ⟨_, fun hall => ?_, .inr ⟨p, rfl⟩, hfails⟩)
          rw [(hanswers.1 hall).2 content hbuilds] at hfar
          cases hfar

/-- Building and bundling bring the library to its place or fail, with an outcome just when nothing
keeps them from one. -/
theorem exec_bundle (hb : Buildable o h w c) (hm : FileTree.HasShortNames c.manifest)
    (hres : w.files.stat (o.output / resources) = .ok .dir) :
    (Answers o h w c ∧ Bundles o h w c) ∨
      (∃ e, Answers o h w c ∧ (∀ content, ¬ Builds o h w c content) ∧
        e.isBuildOutcome = true ∧ Fails o h w c e) ∨
      ∃ e, ¬ Answers o h w c ∧ IsStray e ∧ Fails o h w c e := by
  cases hcargo : h.cargo with
  | none =>
    refine .inr (.inl ⟨.native .noCargo, ?_, ?_, rfl, w.records, ?_⟩)
    · rintro cargo hsome
      cases hcargo.symm.trans hsome
    · rintro content ⟨cargo, executable, hsome, -⟩
      cases hcargo.symm.trans hsome
    · have hbuilt : w.built h (o.call c) = w := by rw [World.built, hcargo]
      rw [bundle, hbuilt, Action.exec_bind_of_error (Native.exec_build_of_none hcargo)]
  | some cargo =>
    have hbuilt : (Native.produce cargo.produces).exec h (w.calling ⟨c.dir, o.timeout⟩) =
        (.ok (), w.built h (o.call c)) := by
      rw [built_of_cargo hcargo]
      exact Prod.ext (hb.produced cargo hcargo) rfl
    obtain ⟨records, hexec⟩ := Native.exec_build hcargo (hb.uninterrupted cargo hcargo) hbuilt
    cases hfailure : cargo.failure? o.timeout with
    | none =>
      rw [hfailure] at hexec
      exact exec_bundle_of_success hb hm hres hcargo hfailure hexec
    | some e =>
      rw [hfailure] at hexec
      have hfails : Fails o h w c e := ⟨records, by
        rw [bundle, Action.exec_bind_of_error hexec]⟩
      by_cases hsaid : cargo.timesOut = false → (Native.said cargo).isOk = true
      · refine .inr (.inl ⟨e, ?_, ?_, isBuildOutcome_of_failure? hsaid hfailure, hfails⟩)
        · rintro _ hsome htimes
          cases hcargo.symm.trans hsome
          refine ⟨hsaid htimes, fun hexit => ?_⟩
          cases hfailure.symm.trans (failure?_eq_none_iff.2 ⟨htimes, hsaid htimes, hexit⟩)
        · intro content hbuilds
          obtain ⟨htimes, hexit, -⟩ := (builds_iff hcargo).1 hbuilds
          cases hfailure.symm.trans (failure?_eq_none_iff.2 ⟨htimes, hsaid htimes, hexit⟩)
      · obtain ⟨htimes, hnot⟩ := Classical.not_imp.1 hsaid
        refine .inr (.inr ⟨e, fun hall => hnot (hall cargo hcargo htimes).1, ?_, hfails⟩)
        exact .inl (exists_decoding_of_failure? htimes hnot hfailure)

/-- With an outcome of the native stage, the run has one; any other failure ends the run. -/
theorem exec_buildStage {x : Except Failure Path} (hbuild : o.build = true)
    (hc : b.crate = some c) (hexec : (bundle o c).exec h w = (x, w')) :
    (buildStage o b ps).exec h w =
      (match x with
        | .ok p => .ok ⟨ps, b.bindings, some p, none⟩
        | .error e =>
          if e.isBuildOutcome then .ok ⟨ps, b.bindings, none, some e⟩ else .error e, w') := by
  have hattempt : (bundle o c).attempt.exec h w = (.ok x, w') := by
    rw [Action.exec_attempt, hexec]
  unfold buildStage
  simp only [hbuild, hc]
  rw [Action.exec_bind_of_ok hattempt]
  cases x with
  | ok p => rfl
  | error e =>
    simp only
    split <;> rfl

theorem Builds.unique {content content' : Bytes} (hb : Builds o h w c content)
    (hb' : Builds o h w c content') : content = content' := by
  obtain ⟨cargo, executable, -, -, -, hs⟩ := hb
  obtain ⟨cargo', executable', -, -, -, hs'⟩ := hb'
  rw [hs] at hs'
  cases hs'
  rfl

theorem holdsFile_built (hb : Buildable o h w c) (hin : f.path.leaves = false)
    (hf : w.files.HoldsFile (o.output / f.path) f.content.encode) :
    (w.built h (o.call c)).files.HoldsFile (o.output / f.path) f.content.encode := by
  refine hf.of_preserves (preservesAt_built hb ?_)
  rw [Path.location_join _ hin]
  exact List.prefix_append _ _

theorem location_ne_destination (hlib : c.HasPlainLibrary platform) (hin : f.path.leaves = false)
    (hf : f.path ≠ resources / Path.ofText (c.fileName platform)) :
    (o.destination c platform).location ≠ (o.output / f.path).location := by
  intro heq
  rw [location_destination hlib, Path.location_join _ hin] at heq
  refine hf (Path.eq_of_parts hin ?_ (List.append_cancel_left heq).symm)
  exact Path.leaves_join_eq_false_iff.2 ⟨leaves_resources, hlib.leaves_fileName⟩

/-- All files are written before the build tool is called, at most once, and each keeps its content
unless it is in the place of the library. -/
structure KeepsPlan (o : Order) (h : Host) (fs : List PlannedFile) (c : Crate) (w v w' : World) :
    Prop where
  planned : ∀ f ∈ fs, v.files.read (o.output / f.path) = .ok f.content.encode
  kept : ∀ f ∈ fs, f.path ≠ resources / Path.ofText (c.fileName h.platform) →
    w'.files.read (o.output / f.path) = .ok f.content.encode
  before : v.calls = w.calls
  after : w'.calls = v.calls ++ h.cargo.toList.map fun _ => o.call c

theorem keepsPlan_of_built (hb : Buildable o h v c) (hin : ∀ f ∈ fs, f.path.leaves = false)
    (hholds : ∀ f ∈ fs, v.files.HoldsFile (o.output / f.path) f.content.encode)
    (hbefore : v.calls = w.calls) (hcalls : w'.calls = (v.built h (o.call c)).calls)
    (hkept : ∀ f ∈ fs, f.path ≠ resources / Path.ofText (c.fileName h.platform) →
      (v.built h (o.call c)).files.HoldsFile (o.output / f.path) f.content.encode →
        w'.files.HoldsFile (o.output / f.path) f.content.encode) :
    KeepsPlan o h fs c w v w' where
  planned := fun f hf => (hholds f hf).read_eq
  kept := fun f hf hne => (hkept f hf hne (holdsFile_built hb (hin f hf) (hholds f hf))).read_eq
  before := hbefore
  after := hcalls.trans (calls_built v h (o.call c))

theorem isBuildOutcome_of_isStray {e : Failure} (he : IsStray e) : e.isBuildOutcome = false := by
  rcases he with ⟨d, rfl⟩ | ⟨p, rfl⟩
  · rfl
  · rfl

section Sample

def crated : FileTree :=
  (["Cargo.toml"], .file (Utf8.encode "[package]\nname = 'lib'\n") false) :: overriding

def buildOrderFor (manifest : Path) : Order :=
  ⟨"kotlin", some Path.here, false, some "org", some "lib", some manifest, none, true, 600⟩

def buildOrder : Order := buildOrderFor "Cargo.toml"

def hostWith (cargo : Cargo) : Host := { Host.plain with cargo := some cargo }

def demoCargo : Cargo :=
  ⟨[("target/release/liblib.so", .file [127, 69] true)], false, false, 0, [], []⟩

def buildHost : Host := hostWith demoCargo

def namesLib (t : FileTree) (manifest : Path) : Bool :=
  match Manifest.read t manifest with
  | .ok c => c.libName.display == "lib".toList
  | .error _ => false

theorem exists_crate_of_namesLib {t : FileTree} {manifest : Path} (h : namesLib t manifest = true) :
    ∃ c, Manifest.read t manifest = .ok c ∧ c.libName.display = "lib" := by
  unfold namesLib at h
  split at h
  · next c hc => exact ⟨c, hc, by simpa using h⟩
  · cases h

def cratedBrief (c : Crate) : Brief := { sampleBrief with crate := some c }

/-- The manifest has no part in the templates. -/
theorem sameApart_crated : FileTree.SameApart "Cargo.toml" overriding crated := by
  refine FileTree.sameApart_of_under sound_overriding (fun m hm => ?_) fun p hp => ?_
  · have hne : m ≠ [("Cargo.toml" : Text)] := by
      rintro rfl
      exact absurd hm (by decide)
    unfold FileTree.at? at hm ⊢
    rwa [crated, List.lookup_cons, beq_false_of_ne hne]
  · have hno : (p.parts.isPrefixOf [("Cargo.toml" : Text)]) = false := by
      rw [Bool.eq_false_iff, Ne, List.isPrefixOf_iff_prefix]
      exact hp.notAbove
    rw [FileTree.under, crated, List.filter_cons, hno]
    rfl

theorem contributed_cratedBrief (hlib : c.libName.display = "lib") :
    Contributed (cratedBrief c) ⟨crated, "linux", .refusing⟩ Plugin.bundled
      sampleContributions.flatten := by
  have hname : ∀ platform, Native.fileName platform (Plugin.libraryName (cratedBrief c)) =
      Native.fileName platform (Plugin.libraryName sampleBrief) := by
    intro platform
    have hdisplay : (Plugin.libraryName (cratedBrief c)).display =
        (Plugin.libraryName sampleBrief).display := hlib
    rw [Native.fileName, Native.fileName, hdisplay]
  have htemplates : sampleBrief.templates.Apart "Cargo.toml" :=
    ⟨by decide, by decide, by decide⟩
  refine contributed_sampleBrief.elsewhere fun p hp => ?_
  have hsame : p.contributions (cratedBrief c) ⟨crated, "linux", .refusing⟩ =
      p.contributions sampleBrief ⟨crated, "linux", .refusing⟩ := by
    rcases List.mem_cons.1 hp with rfl | hp
    · rfl
    · obtain rfl := List.mem_singleton.1 hp
      change Plugin.kotlinFiles (cratedBrief c) _ = Plugin.kotlinFiles sampleBrief _
      simp only [Plugin.kotlinFiles, hname]
      rfl
  rw [hsame]
  exact Plugin.readsApart_bundled hp _ sampleBrief ⟨overriding, "linux", .refusing⟩
    ⟨crated, "linux", .refusing⟩ htemplates rfl rfl sameApart_crated

/-- With a crate, the order is prepared as soon as the contributions fit together. -/
theorem prepare_of_contributed {t : FileTree} {manifest : Path} {cargo : Cargo}
    {cs : List Contribution} (hread : Manifest.read t manifest = .ok c)
    (hcs : Contributed (cratedBrief c) ⟨t, "linux", .refusing⟩ Plugin.bundled cs)
    (hfs : PlannedFile.ofContributions cs = .ok fs)
    (hcheck : (checkOverwrite "kotlin" false ⟨t, "linux", .refusing⟩).2 = .ok ()) :
    ((prepare (buildOrderFor manifest)).exec (hostWith cargo) (.ofFiles t)).1 =
      .ok (cratedBrief c, fs) := by
  have hcrate : (crate (some manifest) true ⟨t, "linux", .refusing⟩).2 = .ok (some c) :=
    crate_of_read hread
  have hcoordinates : Coordinates.of? (buildOrderFor manifest).group
      (buildOrderFor manifest).package = .ok sampleBrief.coordinates := coordinates_sample
  refine prepare_eq_ok.2 ⟨?_, ?_, hcheck⟩
  · change (brief (buildOrderFor manifest) ⟨t, "linux", .refusing⟩).2 = _
    rw [brief_of_coordinates hcoordinates]
    change ((crate (some manifest) true ⟨t, "linux", .refusing⟩).2 >>= _) = _
    rw [hcrate]
    rfl
  · have hbundled : Plugin.bundled ++ (hostWith cargo).plugins = Plugin.bundled :=
      List.append_nil _
    have hothers : ∀ p ∈ (hostWith cargo).plugins, p.name ∉ Plugin.bundled.map Plugin.name :=
      fun p hp => nomatch hp
    refine (plan_eq_ok_of_readyFor (h := hostWith cargo) (.inl rfl) .nil hothers).2 ⟨_, ?_, hfs⟩
    rw [hbundled]
    exact hcs

def leftIn (t : FileTree) : FileTree :=
  ((Native.produce demoCargo.produces).exec buildHost (.ofFiles t)).2.files

@[mk_iff] structure TakesLibrary (t : FileTree) : Prop where
  produced : ((Native.produce demoCargo.produces).exec buildHost (.ofFiles t)).1 = .ok ()
  artifact : (leftIn t).stat "target/release/liblib.so" = .ok (.file [127, 69] false)
  destination : (leftIn t).stat "kotlin/src/main/resources/liblib.so" ≠ .ok .dir

instance (t : FileTree) : Decidable (TakesLibrary t) :=
  decidable_of_iff' _ (takesLibrary_iff t)

/-- The manifest names the library, the plan is written to the tree, and the library is built and
bundled in what is written. -/
@[mk_iff] structure Accepts (t : FileTree) (fs : List PlannedFile) : Prop where
  named : namesLib t "Cargo.toml" = true
  fresh : (checkOverwrite "kotlin" false ⟨t, "linux", .refusing⟩).2 = .ok ()
  written : ((write buildOrder.output fs (directories sampleBrief.coordinates [])).exec buildHost
    (.ofFiles t)).1.isOk = true
  library : TakesLibrary ((write buildOrder.output fs (directories sampleBrief.coordinates [])).exec
    buildHost (.ofFiles t)).2.files

instance (t : FileTree) (fs : List PlannedFile) : Decidable (Accepts t fs) :=
  decidable_of_iff' _ (accepts_iff t fs)

def writtenTree : FileTree :=
  ((write buildOrder.output samplePlan (directories sampleBrief.coordinates [])).exec buildHost
    (.ofFiles crated)).2.files

theorem accepts_crated : Accepts crated samplePlan := by
  decide +kernel

theorem takesLibrary_writtenTree : TakesLibrary writtenTree :=
  accepts_crated.library

theorem prepare_crated {manifest : Path} {cargo : Cargo}
    (hread : Manifest.read crated manifest = .ok c) (hlib : c.libName.display = "lib") :
    ((prepare (buildOrderFor manifest)).exec (hostWith cargo) (.ofFiles crated)).1 =
      .ok (cratedBrief c, samplePlan) :=
  prepare_of_contributed hread (contributed_cratedBrief hlib) ofContributions_sample
    accepts_crated.fresh

theorem fileName_crated (hlib : c.libName.display = "lib") :
    c.fileName buildHost.platform = "liblib.so" := by
  rw [Crate.fileName, Native.fileName, hlib]
  decide

theorem hasPlainLibrary_crated (hlib : c.libName.display = "lib") :
    c.HasPlainLibrary buildHost.platform where
  slash := by
    rw [hlib]
    decide
  null := by
    rw [hlib]
    decide
  short := by
    rw [fileName_crated hlib]
    decide

theorem artifact_crated (hm : c.manifest = "Cargo.toml") (hlib : c.libName.display = "lib") :
    c.artifact buildHost.platform = "target/release/liblib.so" := by
  rw [Crate.artifact, fileName_crated hlib, Crate.dir, hm]
  decide

theorem destination_crated (hlib : c.libName.display = "lib") :
    buildOrder.destination c buildHost.platform = "kotlin/src/main/resources/liblib.so" := by
  rw [Order.destination, fileName_crated hlib]
  decide

theorem built_crated {t : FileTree} (hv : v.files = t) :
    (v.built buildHost (buildOrder.call c)).files = leftIn t := by
  rw [built_of_cargo rfl, (Native.produce_calling _ _ _ hv).2, leftIn]

theorem buildable_crated {t : FileTree} (ht : TakesLibrary t) (hv : v.files = t)
    (hm : c.manifest = "Cargo.toml") (hlib : c.libName.display = "lib") :
    Buildable buildOrder buildHost v c := by
  obtain ⟨hfst, -⟩ := Native.produce_calling demoCargo.produces buildHost (buildOrder.call c) hv
  refine ⟨hasPlainLibrary_crated hlib, ?_, ?_, ?_, ?_, ?_⟩
  · rintro _ ⟨⟩
    rfl
  · rintro _ ⟨⟩
    exact hfst.trans ht.produced
  · rintro _ p content executable ⟨⟩ hp
    obtain ⟨rfl, -⟩ := Prod.mk.inj (List.mem_singleton.1 hp)
    decide
  · rw [built_crated hv, artifact_crated hm hlib, ht.artifact]
    nofun
  · rw [built_crated hv, destination_crated hlib]
    exact ht.destination

theorem builds_crated {t : FileTree} (ht : TakesLibrary t) (hv : v.files = t)
    (hm : c.manifest = "Cargo.toml") (hlib : c.libName.display = "lib") :
    Builds buildOrder buildHost v c [127, 69] := by
  refine ⟨demoCargo, false, rfl, rfl, rfl, ?_⟩
  rw [built_crated hv, artifact_crated hm hlib]
  exact ht.artifact

theorem answers_crated (hm : c.manifest = "Cargo.toml") (hlib : c.libName.display = "lib") :
    Answers buildOrder buildHost v c := by
  rintro _ ⟨⟩ -
  refine ⟨rfl, fun _ => ⟨?_, fun _ _ => ?_⟩⟩
  · rw [artifact_crated hm hlib]
    decide
  · rw [destination_crated hlib]
    decide

def farManifest : Path :=
  ⟨.relative, (List.replicate 340 [(".jni-cli" : Text), ".."]).flatten ++ [("Cargo.toml" : Text)]⟩

theorem namesLib_far : namesLib crated farManifest = true := by
  decide +kernel

def idleCargo (output : Bytes) : Cargo := ⟨[], false, false, 0, output, []⟩

/-- With this manifest and this build tool, the sample is prepared and written, all that is asked of
a build holds, and the run ends without an outcome. -/
def StopsAtBuild (manifest : Path) (cargo : Cargo) : Prop :=
  ∃ c b fs u ps v e, ((prepare (buildOrderFor manifest)).exec (hostWith cargo)
      (.ofFiles crated)) = (.ok (b, fs), u) ∧
    (write (buildOrderFor manifest).output fs (directories b.coordinates b.bindings)).exec
      (hostWith cargo) u = (.ok ps, v) ∧ b.crate = some c ∧
    Buildable (buildOrderFor manifest) (hostWith cargo) v c ∧
    ((run (buildOrderFor manifest)).exec (hostWith cargo) (.ofFiles crated)).1 = .error e

theorem isOk_write_hostWith (manifest : Path) (cargo : Cargo) :
    ((write (buildOrderFor manifest).output samplePlan (directories sampleBrief.coordinates
      [])).exec (hostWith cargo) (.ofFiles crated)).1.isOk = true ∧
    ((write (buildOrderFor manifest).output samplePlan (directories sampleBrief.coordinates
      [])).exec (hostWith cargo) (.ofFiles crated)).2.files = writtenTree := by
  have hout : (buildOrderFor manifest).output = buildOrder.output := rfl
  obtain ⟨hfst, hfiles⟩ := (writes_write buildOrder.output samplePlan
    (directories sampleBrief.coordinates [])).depends buildHost (hostWith cargo)
      (w := .ofFiles crated) rfl
  rw [hout, hfst, hfiles]
  exact ⟨accepts_crated.written, rfl⟩

/-- No directory stands where the library is built or bundled. -/
theorem stat_writtenTree : ∀ p ∈ [("target/release/liblib.so" : Path),
    farManifest.parent / ("target/release/liblib.so" : Path),
    "kotlin/src/main/resources/liblib.so"], writtenTree.stat p ≠ .ok .dir := by
  decide +kernel

/-- A build tool that leaves nothing leaves nothing in the way. -/
theorem buildable_idle {manifest : Path} {output : Bytes} (hv : v.files = writtenTree)
    (hlib : c.libName.display = "lib")
    (hartifact : writtenTree.stat (c.artifact "linux") ≠ .ok .dir) :
    Buildable (buildOrderFor manifest) (hostWith (idleCargo output)) v c where
  library := hasPlainLibrary_crated hlib
  uninterrupted := by
    rintro _ ⟨⟩
    rfl
  produced := by
    rintro _ ⟨⟩
    rfl
  outside := by
    rintro _ p content executable ⟨⟩ hp
    cases hp
  artifact := by
    change v.files.stat _ ≠ _
    rw [hv]
    exact hartifact
  destination := by
    have hdestination : (buildOrderFor manifest).destination c "linux" =
        "kotlin/src/main/resources/liblib.so" := destination_crated hlib
    change v.files.stat ((buildOrderFor manifest).destination c "linux") ≠ _
    rw [hv, hdestination]
    exact stat_writtenTree _ (by simp)

theorem stopsAtBuild {manifest : Path} {output : Bytes}
    (hread : Manifest.read crated manifest = .ok c) (hlib : c.libName.display = "lib")
    (hartifact : writtenTree.stat (c.artifact "linux") ≠ .ok .dir)
    (hnot : ∀ v, ¬ Answers (buildOrderFor manifest) (hostWith (idleCargo output)) v c) :
    StopsAtBuild manifest (idleCargo output) := by
  have hdirs : directories (cratedBrief c).coordinates (cratedBrief c).bindings =
      directories sampleBrief.coordinates [] := rfl
  obtain ⟨hok, hfiles⟩ := isOk_write_hostWith manifest (idleCargo output)
  rw [← hdirs] at hok hfiles
  obtain ⟨u, ps, v, hp, hwrite, hv⟩ := exists_write_of_isOk
    (o := buildOrderFor manifest) (prepare_crated hread hlib) hok
  rw [hfiles] at hv
  obtain ⟨hm, x, hx⟩ := Manifest.manifest_of_read hread
  have hb : Buildable (buildOrderFor manifest) (hostWith (idleCargo output)) v c :=
    buildable_idle hv hlib hartifact
  have hres := stat_dir_of_write hwrite (mem_directories.2 (.inr (.inl rfl)))
  rcases exec_bundle hb (hm ▸ FileTree.hasShortNames_of_stat hx) hres with
    ⟨hanswers, -⟩ | ⟨e, hanswers, -⟩ | ⟨e, -, he, records, hexec⟩
  · exact absurd hanswers (hnot v)
  · exact absurd hanswers (hnot v)
  · refine ⟨c, _, _, u, ps, v, e, hp, hwrite, rfl, hb, ?_⟩
    rw [exec_run_of_ok hp, Action.exec_bind_of_ok hwrite,
      exec_buildStage (c := c) rfl rfl hexec]
    simp only [isBuildOutcome_of_isStray he, Bool.false_eq_true, if_false]

end Sample

end Project

end CrateScaffold
