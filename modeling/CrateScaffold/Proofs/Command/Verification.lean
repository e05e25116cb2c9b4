import CrateScaffold.Proofs.BuildScript.Verdict
import CrateScaffold.Proofs.Command.Execution
import CrateScaffold.Proofs.Console.Escape
import CrateScaffold.Proofs.Console.Verbatim
import CrateScaffold.Proofs.Project.Plan

/-!
What the verification of a build script shows. Its problems are logged as they are; that there are
none is said through the console, which reads the file name and the coordinates as markup, so they
are shown as they are just when nothing in them has a meaning there.
-/

namespace CrateScaffold.Command

open BuildScript (problems)

variable {environment : Environment} {ws : List Text} {v : Verbosity} {s : Selection}
variable {script : Path} {g p m f text template : Text} {c : Coordinates} {h : Host} {w : World}
variable {t : FileTree}

def verdict (script : Path) (g p : Text) : Text := script.text ++ " publishes " ++ g ++ ':' :: p

/-- Logging each of the problems, one after the other. -/
theorem forM_log {α : Type} (level : Level) (message : α → Text) (xs : List α) :
    (xs.forM fun x => Work.ofAction (Action.log level (message x))) h w =
      (.ok (), { w with records := w.records ++ xs.map fun x => ⟨level, message x⟩ }) := by
  induction xs generalizing w with
  | nil => simp [List.forM]; rfl
  | cons x xs ih =>
    have hfirst : Work.ofAction (Action.log level (message x)) h w =
      (.ok (), { w with records := w.records ++ [⟨level, message x⟩] }) := rfl
    change (Work.ofAction (Action.log level (message x)) >>= fun _ =>
      xs.forM fun x => Work.ofAction (Action.log level (message x))) h w = _
    rw [Work.bind_of_ok hfirst, ih]
    simp

theorem problemsOf_apply (site : Site) (c : Coordinates)
    (htext : site.files.readExact script = .ok text)
    (htemplate : (library s).load site.files Template.buildScriptName = .ok template) :
    problemsOf s c script site = ([], .ok (problems text c template)) := by
  have hsource : (library s).source Template.buildScriptName site = ([], .ok template) := by
    unfold Template.Library.source Reading.ofTree
    simp [htemplate, Except.mapError]
  have hscript : (Reading.ofTree fun t => (t.readExact script).mapError .ofRead) site =
      ([], .ok text) := by
    unfold Reading.ofTree
    simp [htext, Except.mapError]
  unfold problemsOf
  rw [Reading.apply_bind_of_ok hsource, Reading.apply_bind_of_ok hscript]
  rfl

/-- The verdict is said, or the problems are logged. -/
theorem performVerify_of_given (hg : s.group = some c.group) (hp : s.package = some c.package)
    (htext : w.files.readExact script = .ok text)
    (htemplate : (library s).load w.files Template.buildScriptName = .ok template) :
    performVerify s script h w =
      match problems text c template with
      | [] => Work.ofAction (Action.say .success (verdict script c.group c.package)) h w
      | ps => (.error (.exit 1),
          { w with records := w.records ++ ps.map fun p => ⟨.error, p.message⟩ }) := by
  have hresolved : resolved .verify s h w = (.ok (c.group, c.package), w) :=
    resolved_of_given hg hp (identifier_ne_nil c.group_identifier)
      (identifier_ne_nil c.package_identifier)
  have hcoordinates : Work.reporting Failure.isArgumentError (Action.reading (.ofExcept
      ((Coordinates.of? (some c.group) (some c.package)).mapError .coordinate))) h w =
        (.ok c, w) := by
    rw [Work.reporting_apply, Action.exec_reading, Coordinates.of?_eq_ok.2 ⟨rfl, rfl⟩]
    simp [Reading.ofExcept, Except.mapError]
  have hproblems : Work.ofAction (Action.reading (problemsOf s c script)) h w =
      (.ok (problems text c template), w) := by
    rw [Work.ofAction, Work.reporting_apply, Action.exec_reading,
      problemsOf_apply ⟨w.files, h.platform, h.engine⟩ c htext htemplate]
    simp [Except.mapError]
  unfold performVerify
  rw [Work.bind_of_ok hresolved]
  simp only
  rw [Work.bind_of_ok hcoordinates, Work.bind_of_ok hproblems]
  cases hps : problems text c template with
  | nil => rfl
  | cons q qs =>
    simp only
    rw [Work.bind_of_ok (forM_log .error _ _)]
    rfl

theorem segments?_buildScriptName : Template.segments? Template.buildScriptName =
    some (["gradle", "build.gradle.kts"] : List Text) := by
  decide

/-- A template is there when its override can be read, if it has one. -/
theorem load_of_override (hoverride : ∀ content,
    Template.override? s.manifest.parent t ["gradle", "build.gradle.kts"] = some content →
      ∃ source, Utf8.decode content = .ok source) :
    ∃ template, (library s).load t Template.buildScriptName = .ok template := by
  unfold library Template.Library.load
  rw [segments?_buildScriptName]
  simp only
  cases hbytes : Template.override? s.manifest.parent t ["gradle", "build.gradle.kts"] with
  | none => exact ⟨_, rfl⟩
  | some content =>
    obtain ⟨source, hsource⟩ := hoverride content hbytes
    exact ⟨source, mapError_eq_ok.2 hsource⟩

theorem getLast?_verdict (hp : isIdentifier p = true) :
    (verdict script g p).getLast? ≠ some '\\' := by
  intro hlast
  have hmem : '\\' ∈ p := by
    rw [verdict, List.getLast?_append_of_ne_nil _ (List.cons_ne_nil _ _),
      List.getLast?_cons, List.getLast?_eq_some_getLast (identifier_ne_nil hp)] at hlast
    exact Option.some.inj hlast ▸ List.getLast_mem (identifier_ne_nil hp)
  unfold isIdentifier at hp
  simp only [Bool.and_eq_true, Bool.not_eq_true', List.any_eq_false] at hp
  exact absurd (hp.2 _ hmem) (by decide)

/-- The words ask for the verification of a script for coordinates that are given, and the script
and its template can be read. -/
structure Verifies (environment : Environment) (w : World) (ws : List Text) (v : Verbosity)
    (s : Selection) (script : Path) (c : Coordinates) (text template : Text) : Prop where
  asked : Command.read w.files environment ws = .ok (v, .verify s script)
  group : s.group = some c.group
  package : s.package = some c.package
  text : w.files.readExact script = .ok text
  template : (library s).load w.files Template.buildScriptName = .ok template

namespace Verifies

variable {shown : Text} {f : Console.Fault}

theorem of_problems (hv : Verifies environment w ws v s script c text template)
    (hproblems : problems text c template ≠ []) :
    (program ws environment h w).1.code = some 1 ∧
      (program ws environment h w).1.failure = none ∧
      (program ws environment h w).1.output = [] ∧
      (program ws environment h w).1.errors = [] ∧
      (program ws environment h w).2.records =
        (problems text c template).map fun p => ⟨.error, p.message⟩ := by
  have hrun := performVerify_of_given (h := h) (w := { w with printed := [], records := [] })
    hv.group hv.package hv.text hv.template
  obtain ⟨q, qs, hps⟩ := List.exists_cons_of_ne_nil hproblems
  rw [hps] at hrun ⊢
  rw [program_eq hv.asked hrun]
  exact ⟨rfl, rfl, rfl, Console.withoutSequences_nil, rfl⟩

theorem perform_eq (hv : Verifies environment w ws v s script c text template)
    (hproblems : problems text c template = []) :
    perform (.verify s script) h { w with printed := [], records := [] } =
      Work.ofAction (Action.say .success (verdict script c.group c.package)) h
        { w with printed := [], records := [] } := by
  have hrun := performVerify_of_given (h := h) (w := { w with printed := [], records := [] })
    hv.group hv.package hv.text hv.template
  rwa [hproblems] at hrun

theorem of_shown (hv : Verifies environment w ws v s script c text template)
    (hproblems : problems text c template = [])
    (hshown : Console.message h.literals h.columns .success
      (verdict script c.group c.package) = .ok shown) :
    (program ws environment h w).1.code = some 0 ∧
      (program ws environment h w).1.output = shown ∧
      (program ws environment h w).2.records = [] := by
  have hrun := hv.perform_eq (h := h) hproblems
  rw [Work.ofAction, Work.reporting_apply, exec_say, hshown] at hrun
  rw [program_eq hv.asked hrun]
  exact ⟨rfl, rfl, rfl⟩

/-- Without problems, a verdict that the console cannot show ends the program with that
failure. -/
theorem of_fault (hv : Verifies environment w ws v s script c text template)
    (hproblems : problems text c template = [])
    (hfault : Console.message h.literals h.columns .success
      (verdict script c.group c.package) = .error f) :
    (program ws environment h w).1.code = none ∧
      (program ws environment h w).1.failure = some (.ofConsole f) ∧
      (program ws environment h w).2.records = [] := by
  have hrun := hv.perform_eq (h := h) hproblems
  rw [Work.ofAction, Work.reporting_apply, exec_say, hfault] at hrun
  rw [program_eq hv.asked hrun]
  exact ⟨rfl, rfl, rfl⟩

end Verifies

/-- The problems of the script, in order, or that there are none: that is shown as it is just when
the console finds nothing in it and has room for it, and otherwise in other words or with a failure
of the markup or of a colour. -/
theorem verify_reports_verdict (environment : Environment) (h : Host) (w : World)
    (ws : List Text) (v : Verbosity) (s : Selection) (script : Path) (c : Coordinates)
    (text : Text) (hread : Command.read w.files environment ws = .ok (v, .verify s script))
    (hg : s.group = some c.group) (hp : s.package = some c.package)
    (htext : w.files.readExact script = .ok text)
    (hoverride : ∀ content,
      Template.override? s.manifest.parent w.files ["gradle", "build.gradle.kts"] = some content →
        ∃ source, Utf8.decode content = .ok source) :
    ∃ template, (library s).load w.files Template.buildScriptName = .ok template ∧
      (problems text c template ≠ [] →
        (program ws environment h w).1.code = some 1 ∧
        (program ws environment h w).1.failure = none ∧
        (program ws environment h w).1.output = [] ∧
        (program ws environment h w).1.errors = [] ∧
        (program ws environment h w).2.records =
          (problems text c template).map fun p => ⟨.error, p.message⟩) ∧
      (problems text c template = [] →
        (((program ws environment h w).1.code = some 0 ∧
            (program ws environment h w).1.output =
              verdict script c.group c.package ++ ['\n']) ↔
          Console.isVerbatim (verdict script c.group c.package) = true ∧
            Console.fits h.columns (verdict script c.group c.package) = true) ∧
        ((program ws environment h w).1.code = some 0 ∨
          (∃ f, (program ws environment h w).1.failure = some (.markup f)) ∨
          ∃ f, (program ws environment h w).1.failure = some (.color f)) ∧
        (program ws environment h w).2.records = []) := by
  obtain ⟨template, htemplate⟩ := load_of_override hoverride
  have hv : Verifies environment w ws v s script c text template :=
    ⟨hread, hg, hp, htext, htemplate⟩
  refine ⟨template, htemplate, hv.of_problems, fun hnone => ?_⟩
  rw [← Console.message_eq_iff h.literals .success (getLast?_verdict c.package_identifier)]
  cases hshown : Console.message h.literals h.columns .success
      (verdict script c.group c.package) with
  | error f =>
    obtain ⟨hcode, hfailure, hrecords⟩ := hv.of_fault (h := h) hnone hshown
    refine ⟨⟨fun hsome => ?_, nofun⟩, .inr ?_, hrecords⟩
    · exact absurd (hcode.symm.trans hsome.1) nofun
    · cases f with
      | markup f => exact .inl ⟨f, hfailure⟩
      | color f => exact .inr ⟨f, hfailure⟩
  | ok shown =>
    obtain ⟨hcode, houtput, hrecords⟩ := hv.of_shown (h := h) hnone hshown
    rw [houtput]
    refine ⟨⟨fun heq => congrArg _ heq.2, fun heq => ?_⟩, .inl hcode, hrecords⟩
    exact ⟨hcode, Except.ok.inj heq⟩

def verifyWords (g p m f : Text) : List Text :=
  ["verify", "-g", g, "-p", p, "--manifest", m, "--", f]

def verifyLine (g p m f : Text) : Line :=
  ⟨[⟨group, .value g⟩, ⟨package, .value p⟩, ⟨manifest, .value m⟩], [f]⟩

theorem readLine_verifyWords (hm : manifest.form.check t m = .ok none)
    (hf : (⟨true, true, false⟩ : PathRule).check t f = .ok none) :
    readLine (some .verify) (parameters .verify) t environment (verifyWords g p m f).tail =
      .ok (verifyLine g p m f) := by
  have hall : ∀ q ∈ [group, package, manifest, help],
      checkValue (some .verify) t environment (verifyLine g p m f) q = .ok () := by
    simp only [List.forall_mem_cons]
    refine ⟨?_, ?_, ?_, ?_, ?_⟩
    · exact checkValue_of_check rfl rfl
    · exact checkValue_of_check rfl rfl
    · exact checkValue_of_check rfl hm
    · exact checkValue_of_none rfl
    · simp
  have hargument : checkArgument (some .verify) t (verifyLine g p m f) = .ok () := by
    change stopAt _ _ ((⟨true, true, false⟩ : PathRule).check t f) = _
    rw [hf]
    rfl
  have hsub : [group, package, manifest].Sublist [group, package, manifest, help] :=
    .cons_cons _ (.cons_cons _ (.cons_cons _ (List.nil_sublist _)))
  exact readLine_of_checks rfl rfl hargument hsub hall

theorem read_verifyWords (hm : manifest.form.check t m = .ok none)
    (hf : (⟨true, true, false⟩ : PathRule).check t f = .ok none) :
    Command.read t environment (verifyWords g p m f) =
      .ok (⟨false, false, none⟩, .verify ⟨some g, some p, .ofText m⟩ (.ofText f)) := by
  have hgeneral : readLine none general t environment (verifyWords g p m f) =
      .ok ⟨[], verifyWords g p m f⟩ := rfl
  unfold Command.read
  refine bind_eq_ok.2 ⟨_, hgeneral, bind_eq_ok.2 ⟨.verify, rfl, ?_⟩⟩
  exact bind_eq_ok.2 ⟨verifyLine g p m f, readLine_verifyWords hm hf, rfl⟩

section Sample

open BuildScript (problems_publishedScript publishedScript publishedTemplate tagLikeCoordinates)
def publishing (script : Text) : FileTree := [
  ([".jni-cli"], .dir), ([".jni-cli", "templates"], .dir),
  ([".jni-cli", "templates", "gradle"], .dir),
  ([".jni-cli", "templates", "gradle", "build.gradle.kts"],
    .file (Utf8.encode publishedTemplate) false),
  (["build.gradle.kts"], .file (Utf8.encode script) false)]

def publishingWords (c : Coordinates) : List Text :=
  verifyWords c.group c.package "Cargo.toml" "build.gradle.kts"

def publishingSelection (c : Coordinates) : Selection :=
  ⟨some c.group, some c.package, "Cargo.toml"⟩

theorem verifies_published : Verifies [] (.ofFiles (publishing publishedScript))
    (publishingWords tagLikeCoordinates) ⟨false, false, none⟩
    (publishingSelection tagLikeCoordinates) "build.gradle.kts" tagLikeCoordinates
    publishedScript publishedTemplate where
  asked := read_verifyWords (by decide +kernel) (by decide +kernel)
  group := rfl
  package := rfl
  text := by decide +kernel
  template := by decide +kernel

theorem verify_reports_verdict_published :
    problems publishedScript tagLikeCoordinates publishedTemplate = [] ∧
      (program (publishingWords tagLikeCoordinates) [] Host.plain
        (.ofFiles (publishing publishedScript))).1.code = some 0 ∧
      (program (publishingWords tagLikeCoordinates) [] Host.plain
        (.ofFiles (publishing publishedScript))).1.output =
          verdict "build.gradle.kts" tagLikeCoordinates.group tagLikeCoordinates.package ++
            ['\n'] := by
  have hverbatim : Console.isVerbatim (verdict "build.gradle.kts" tagLikeCoordinates.group
      tagLikeCoordinates.package) = true := by
    decide +kernel
  have hfits : Console.fits Host.plain.columns (verdict "build.gradle.kts"
      tagLikeCoordinates.group tagLikeCoordinates.package) = true := by
    decide +kernel
  have hcontent : Template.override? (publishingSelection tagLikeCoordinates).manifest.parent
      (publishing publishedScript) ["gradle", "build.gradle.kts"] =
        some (Utf8.encode publishedTemplate) := by
    decide +kernel
  have hdecoded : Utf8.decode (Utf8.encode publishedTemplate) = .ok publishedTemplate := by
    decide +kernel
  have hv := verifies_published
  obtain ⟨template, hloaded, -, hverdict⟩ := verify_reports_verdict [] Host.plain
    (.ofFiles (publishing publishedScript)) (publishingWords tagLikeCoordinates) _ _ _
    tagLikeCoordinates publishedScript hv.asked hv.group hv.package hv.text (by
      intro content hsome
      cases hcontent.symm.trans hsome
      exact ⟨_, hdecoded⟩)
  cases hv.template.symm.trans hloaded
  obtain ⟨hcode, houtput⟩ := (hverdict problems_publishedScript).1.2 ⟨hverbatim, hfits⟩
  exact ⟨problems_publishedScript, hcode, houtput⟩

def taggedCoordinates : Coordinates := ⟨"a[b]", "p", by decide +kernel, isIdentifier_p⟩

def taggedScript : Text :=
  "publishing \x7b\r\n  groupId = \"a[b]\"\r\n  artifactId = \"p\"\r\n" ++
    "  version = \"2\"\r\n\x7d\r\n"

theorem verifies_tagged : Verifies [] (.ofFiles (publishing taggedScript))
    (publishingWords taggedCoordinates) ⟨false, false, none⟩
    (publishingSelection taggedCoordinates) "build.gradle.kts" taggedCoordinates
    taggedScript publishedTemplate where
  asked := read_verifyWords (by decide +kernel) (by decide +kernel)
  group := rfl
  package := rfl
  text := by decide +kernel
  template := by decide +kernel

/-- There is no problem, but the verdict is shown without the tag. -/
theorem verify_loses_tag :
    Verifies [] (.ofFiles (publishing taggedScript)) (publishingWords taggedCoordinates)
        ⟨false, false, none⟩ (publishingSelection taggedCoordinates) "build.gradle.kts"
        taggedCoordinates taggedScript publishedTemplate ∧
      problems taggedScript taggedCoordinates publishedTemplate = [] ∧
      (program (publishingWords taggedCoordinates) [] Host.plain
        (.ofFiles (publishing taggedScript))).1.output =
          ("build.gradle.kts publishes a:p\n" : Text) ∧
      verdict "build.gradle.kts" taggedCoordinates.group taggedCoordinates.package ++ ['\n'] =
        ("build.gradle.kts publishes a[b]:p\n" : Text) := by
  have hproblems : problems taggedScript taggedCoordinates publishedTemplate = [] := by
    decide +kernel
  have hshown : Console.message Host.plain.literals Host.plain.columns .success
      (verdict "build.gradle.kts" taggedCoordinates.group taggedCoordinates.package) =
        .ok "build.gradle.kts publishes a:p\n" := by
    decide +kernel
  obtain ⟨-, houtput, -⟩ := verifies_tagged.of_shown (h := Host.plain) hproblems hshown
  exact ⟨verifies_tagged, hproblems, houtput, by decide +kernel⟩

end Sample

end CrateScaffold.Command
