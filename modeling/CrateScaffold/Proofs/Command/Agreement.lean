import CrateScaffold.Proofs.Command.Execution
import CrateScaffold.Proofs.Console.Escape
import CrateScaffold.Proofs.Plugin.Locality
import CrateScaffold.Proofs.Project.Generation

/-!
Generating a project and rendering its build script agree. Both take the coordinates and the
templates from the same parameters, and nothing that is written later touches the script.
-/

namespace CrateScaffold.Command

variable {environment : Environment} {g p m text : Text} {h h' : Host} {w : World} {s : Selection}

/-- What a rendering comes to, and that nothing is written. -/
theorem performRender_apply (hg : filled s.group = some g) (hp : filled s.package = some p) :
    performRender s none h w =
      match scriptFor s g p ⟨w.files, h.platform, h.engine⟩ with
      | (records, .error f) =>
        (.error (.ofFailure Failure.isArgumentError f), { w with records := w.records ++ records })
      | (records, .ok text) =>
        (.ok (), { w with
          records := w.records ++ records
          printed := w.printed ++ Console.withoutSequences text }) := by
  have hread := Work.reporting_apply (h := h) (w := w) Failure.isArgumentError
    (Action.reading (scriptFor s g p))
  unfold performRender
  rw [Work.bind_of_ok (resolved_of_filled hg hp)]
  change (Work.reporting Failure.isArgumentError (Action.reading (scriptFor s g p)) >>=
    fun script => Work.ofAction (Action.echo script)) h w = _
  rw [Action.exec_reading] at hread
  rcases hscript : scriptFor s g p ⟨w.files, h.platform, h.engine⟩ with ⟨records, f | text⟩
  · rw [hscript] at hread
    exact Work.bind_of_error hread
  · rw [hscript] at hread
    exact Work.bind_of_ok hread

theorem performRender_of_script (hg : s.group = some g) (hp : s.package = some p) (hgne : g ≠ [])
    (hpne : p ≠ []) (hs : (scriptFor s g p ⟨w.files, h.platform, h.engine⟩).2 = .ok text) :
    ∃ w', performRender s none h w = (.ok (), w') ∧
      w'.printed = w.printed ++ Console.withoutSequences text ∧ w.SameTree w' := by
  have hscript : scriptFor s g p ⟨w.files, h.platform, h.engine⟩ = (_, .ok text) := Prod.ext rfl hs
  rw [performRender_apply (by rw [hg, filled_of_ne_nil hgne]) (by rw [hp, filled_of_ne_nil hpne]),
    hscript]
  exact ⟨_, rfl, rfl, rfl, rfl⟩

theorem program_renderWords (environment : Environment) (hgne : g ≠ []) (hpne : p ≠ [])
    (hm : manifest.form.check w.files m = .ok none)
    (hs : (scriptFor ⟨some g, some p, .ofText m⟩ g p ⟨w.files, h.platform, h.engine⟩).2 =
      .ok text) :
    (program (renderWords g p m) environment h w).1.code = some 0 ∧
      (program (renderWords g p m) environment h w).1.output =
        Console.withoutSequences text := by
  obtain ⟨w', hrun, hprinted, -⟩ := performRender_of_script
    (w := { w with printed := [], records := [] }) rfl rfl hgne hpne hs
  rw [program_eq (read_renderWords hm) hrun]
  exact ⟨rfl, hprinted⟩

/-- Of the host only the engine has a part in a rendering. -/
theorem snd_scriptFor_eq (hengine : h'.engine = h.engine) :
    (scriptFor s g p ⟨w.files, h'.platform, h'.engine⟩).2 =
      (scriptFor s g p ⟨w.files, h.platform, h.engine⟩).2 := by
  unfold scriptFor
  rw [Reading.snd_bind, Reading.snd_bind, Reading.snd_ofExcept, Reading.snd_ofExcept]
  refine bind_congr_of_ok fun c _ => ?_
  unfold Template.Library.renderBuildScript
  refine Template.Library.render_congr ?_ ?_ _ _
  · exact fun _ => rfl
  · exact hengine

/-- After the exit code 0, the project has the script that rendering comes to. -/
theorem exists_script_of_program {ws : List Text} {l : Line} (hr : w.registry.Reachable)
    (hasks : Asks w.files environment ws .init l) (hbuild : l.isSet build = false)
    (hg : l.value? environment group = some g) (hp : l.value? environment package = some p)
    (hm : l.value? environment manifest = some m) (hgne : g ≠ []) (hpne : p ≠ [])
    (hcode : (program ws environment h w).1.code = some 0) :
    ∃ text, (program ws environment h w).2.files.read (Project.script (pathOf l project)) =
        .ok (Utf8.encode text) ∧
      (scriptFor ⟨some g, some p, .ofText m⟩ g p ⟨w.files, h.platform, h.engine⟩).2 =
        .ok text := by
  obtain ⟨out, v, shown, hrun, hnone, -, hlast⟩ := generated_eq_ok_zero.1
    (execute_eq_ok_zero.1 (execute_of_program hasks hg hp hgne hpne hcode))
  have hreachable : (announced (orderOf l g p)
      { w with printed := [], records := [] }).registry.Reachable := hr
  obtain ⟨c, text, hc, hs, hread⟩ := Project.script_of_run hreachable hrun hbuild hnone
  have hmanifest : pathOf l manifest = .ofText m := by
    change Path.ofText ((l.value? environment manifest).getD []) = _
    rw [hm]
    rfl
  refine ⟨text, by rw [hlast]; exact hread, ?_⟩
  refine Reading.snd_bind_eq_ok.2 ⟨c, mapError_eq_ok.2 hc, ?_⟩
  change (Template.Library.renderBuildScript (.project (Path.ofText m).parent) c _).2 = _
  rw [← hmanifest]
  exact hs

section Sample

open Project (Contributed contributionsWith overriding planWith sampleBrief)

def sampleWords : List Text := ["init", "-g", "org", "-p", "lib"]

def sampleLine : Line := ⟨[⟨group, .value "org"⟩, ⟨package, .value "lib"⟩], []⟩

def sampleOrder : Project.Order := orderOf sampleLine "org" "lib"

structure Yields (t : FileTree) (script : Text) : Prop where
  project : project.form.check t "kotlin" = .ok none
  source : source.form.check t "src" = .ok none
  manifest : manifest.form.check t "Cargo.toml" = .ok none
  order : sampleOrder.IsSample t
  contributed : Contributed sampleBrief ⟨t, "linux", .refusing⟩ Plugin.bundled
    (contributionsWith script []).flatten
  fresh : (Project.checkOverwrite sampleOrder.output false ⟨t, "linux", .refusing⟩).2 = .ok ()
  written : ((Project.write sampleOrder.output (planWith script [])
    (Project.directories sampleBrief.coordinates sampleBrief.bindings)).exec Host.plain
      (announced sampleOrder (.ofFiles t))).1.isOk = true

variable {t : FileTree} {script : Text}

theorem readLine_sample (ht : Yields t script) :
    readLine (some .init) (parameters .init) t [] sampleWords.tail = .ok sampleLine := by
  have hall : ∀ q ∈ [group, package, project, source, manifest, build, force, timeout, help],
      checkValue (some .init) t [] sampleLine q = .ok () := by
    simp only [List.forall_mem_cons]
    refine ⟨?_, ?_, ?_, ?_, ?_, ?_, ?_, ?_, ?_, ?_⟩
    · exact checkValue_of_check (s := "org") rfl rfl
    · exact checkValue_of_check (s := "lib") rfl rfl
    · exact checkValue_of_check (s := "kotlin") rfl ht.project
    · exact checkValue_of_check (s := "src") rfl ht.source
    · exact checkValue_of_check (s := "Cargo.toml") rfl ht.manifest
    · exact checkValue_of_none rfl
    · exact checkValue_of_none rfl
    · exact checkValue_of_check (s := "600") rfl rfl
    · exact checkValue_of_none rfl
    · simp
  have hsub : [group, package].Sublist (parameters .init) :=
    .cons_cons _ (.cons_cons _ (List.nil_sublist _))
  exact readLine_of_checks rfl rfl rfl hsub hall

theorem read_sampleWords (ht : Yields t script) : Command.read t [] sampleWords =
    .ok (⟨false, false, none⟩, invocation .init [] sampleLine) := by
  have hgeneral : readLine none general t [] sampleWords = .ok ⟨[], sampleWords⟩ := rfl
  unfold Command.read
  refine bind_eq_ok.2 ⟨_, hgeneral, bind_eq_ok.2 ⟨.init, rfl, ?_⟩⟩
  exact bind_eq_ok.2 ⟨sampleLine, readLine_sample ht, rfl⟩

theorem asks_sampleWords (ht : Yields t script) : Asks t [] sampleWords .init sampleLine :=
  ⟨⟨[], sampleWords⟩, sampleWords.tail, rfl, rfl, readLine_sample ht⟩

theorem run_sample (ht : Yields t script) :
    ∃ out v, (Project.run sampleOrder).exec Host.plain (announced sampleOrder (.ofFiles t)) =
      (.ok out, v) ∧ out.failure = none ∧ out.written.length = 5 := by
  have hprepared := Project.prepare_of_sample (h := Host.plain)
    (w := announced sampleOrder (.ofFiles t)) ht.order (.inl rfl) rfl ht.contributed ht.fresh
  obtain ⟨out, v, hrun, hnone, hwritten⟩ :=
    Project.exists_run_of_write hprepared ht.written rfl
  refine ⟨out, v, hrun, hnone, ?_⟩
  rw [hwritten, List.length_map]
  rfl

theorem generated_sample (ht : Yields t script) : ∃ w',
    (generated sampleOrder).exec Host.plain (announced sampleOrder (.ofFiles t)) = (.ok 0, w') := by
  obtain ⟨out, v, hrun, hnone, hlength⟩ := run_sample ht
  have hmessage : (Console.message Host.plain.literals Host.plain.columns .success
      ("Generated " ++ Text.ofNat 5 ++ " files in 0.00s")).isOk = true := by decide +kernel
  cases hshown : Console.message Host.plain.literals Host.plain.columns .success
      ("Generated " ++ Text.ofNat 5 ++ " files in 0.00s") with
  | error f =>
    rw [hshown] at hmessage
    cases hmessage
  | ok shown =>
    rw [← hlength] at hshown
    exact ⟨_, generated_eq_ok_zero.2 ⟨out, v, shown, hrun, hnone, hshown, rfl⟩⟩

theorem code_sampleWords (ht : Yields t script) :
    (program sampleWords [] Host.plain (.ofFiles t)).1.code = some 0 := by
  obtain ⟨w', hgenerated⟩ := generated_sample ht
  have hexecute : (execute sampleOrder).exec Host.plain (.ofFiles t) = (.ok 0, w') :=
    execute_eq_ok_zero.2 hgenerated
  obtain ⟨hcode, -⟩ := program_of_read (h := Host.plain) (w := .ofFiles t)
    (read_sampleWords ht) (g := "org") (p := "lib") rfl rfl (by simp) (by simp)
  rw [hcode]
  change ((execute sampleOrder).exec Host.plain (.ofFiles t)).1.toOption = _
  rw [hexecute]
  rfl

theorem isSample_sampleOrder (hmanifest : t.holds "Cargo.toml" = .ok false)
    (hsource : t.isDir "src" = .ok false) : sampleOrder.IsSample t where
  group := rfl
  package := rfl
  root := rfl
  manifest := by
    rintro _ ⟨⟩
    exact hmanifest
  source := by
    rintro _ ⟨⟩
    exact hsource
  build := rfl

theorem yields_overriding : Yields overriding "org" where
  project := by decide +kernel
  source := by decide +kernel
  manifest := by decide +kernel
  order := isSample_sampleOrder (by decide +kernel) (by decide +kernel)
  contributed := Project.contributed_sampleBrief
  fresh := by decide +kernel
  written := by decide +kernel

def resetting : FileTree := overriding.put [".jni-cli", "templates", "gradle", "build.gradle.kts"]
  (.file (Utf8.encode "\x1b[0m") false)

theorem yields_resetting : Yields resetting "\x1b[0m" where
  project := by decide +kernel
  source := by decide +kernel
  manifest := by decide +kernel
  order := isSample_sampleOrder (by decide +kernel) (by decide +kernel)
  contributed := Project.contributed_of_renders
    ⟨rfl, by decide +kernel, by decide +kernel, by decide +kernel⟩
  fresh := by decide +kernel
  written := by decide +kernel

theorem scriptFor_resetting : (scriptFor ⟨some "org", some "lib", .ofText "Cargo.toml"⟩ "org" "lib"
    ⟨resetting, "linux", .refusing⟩).2 = .ok "\x1b[0m" := by decide +kernel

end Sample

end CrateScaffold.Command
