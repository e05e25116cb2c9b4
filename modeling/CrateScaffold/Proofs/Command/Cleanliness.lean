import CrateScaffold.Proofs.Binding.Discovery
import CrateScaffold.Proofs.Command.Agreement
import CrateScaffold.Proofs.Command.Verification
import CrateScaffold.Proofs.Command.Words
import CrateScaffold.Proofs.FileTree.Apart

/-!
How the commands that write nothing end. Of the failures of a rendering only bad coordinates and
missing values are reported, and of those of a listing only refusals. So a template that is no text,
or that cannot be read or evaluated, leaves the program, and so do a source that is a directory and
a package that the table cannot show; everything else ends with an exit code.
-/

namespace CrateScaffold

/-- The run ended by itself or with what was reported, with one of the exit codes of the program. -/
structure Report.IsClean (r : Report) : Prop where
  failure : r.failure = none
  code : ∃ n ≤ 2, r.code = some n

namespace Template.Library

variable {l : Library} {name : Text} {c : Context} {site : Site} {f : Failure}

/-- The template is a text that can be read, and where all that it looks up is supplied, it has a
value. -/
def Presents (l : Library) (site : Site) (name : Text) (c : Context) : Prop :=
  ∃ source names, l.load site.files name = .ok source ∧
    site.engine.missing source c = .ok names ∧
      (names = [] → ∃ text, site.engine.text (l.load site.files) source c = .ok text)

theorem snd_render : (l.render name c site).2 =
    (l.load site.files name).mapError Failure.load >>= fun source =>
      checkTokens site.engine name source c >>= fun _ =>
        (site.engine.text (l.load site.files) source c).mapError Failure.template := by
  unfold render
  rw [Reading.snd_bind]
  congr 1
  funext source
  rw [Reading.snd_bind]
  rfl

/-- A rendering fails at the source, for missing values, or at what the source says. -/
theorem render_eq_error (h : (l.render name c site).2 = .error f) :
    (∃ u, l.load site.files name = .error u ∧ f = .load u) ∨ f.isArgumentError = true ∨
      ∃ u, f = .template u := by
  rw [snd_render] at h
  rcases bind_eq_error.1 h with hload | ⟨source, -, h⟩
  · obtain ⟨u, hu, rfl⟩ := mapError_eq_error.1 hload
    exact .inl ⟨u, hu, rfl⟩
  rcases bind_eq_error.1 h with hmissing | ⟨_, -, h⟩
  · unfold checkTokens at hmissing
    split at hmissing
    · cases hmissing
      exact .inr (.inr ⟨_, rfl⟩)
    · cases hmissing
    · cases hmissing
      exact .inr (.inl rfl)
  · obtain ⟨u, -, rfl⟩ := mapError_eq_error.1 h
    exact .inr (.inr ⟨u, rfl⟩)

/-- Only values are missing in every rendering that fails just when the template can be
presented. -/
theorem isArgumentError_of_render_iff :
    (∀ f, (l.render name c site).2 = .error f → f.isArgumentError = true) ↔
      l.Presents site name c := by
  rw [snd_render]
  constructor
  · intro h
    cases hload : l.load site.files name with
    | error u =>
      rw [hload] at h
      exact absurd (h (.load u) rfl) nofun
    | ok source =>
      rw [hload] at h
      change ∀ f, (checkTokens site.engine name source c >>= fun _ =>
        (site.engine.text (l.load site.files) source c).mapError Failure.template) =
          .error f → _ at h
      cases hmissing : site.engine.missing source c with
      | error u =>
        simp only [checkTokens, hmissing] at h
        exact absurd (h (.template u) rfl) nofun
      | ok names =>
        refine ⟨source, names, hload, hmissing, ?_⟩
        rintro rfl
        simp only [checkTokens, hmissing] at h
        cases hevaluate : site.engine.text (l.load site.files) source c with
        | error u =>
          rw [hevaluate] at h
          exact absurd (h (.template u) rfl) nofun
        | ok text => exact ⟨text, rfl⟩
  · rintro ⟨source, names, hload, hmissing, hevaluate⟩ f hf
    rw [hload] at hf
    change (checkTokens site.engine name source c >>= fun _ => _) = _ at hf
    cases names with
    | nil =>
      obtain ⟨text, htext⟩ := hevaluate rfl
      simp only [checkTokens, hmissing, htext] at hf
      cases hf
    | cons n ns =>
      simp only [checkTokens, hmissing] at hf
      cases hf
      rfl

end Template.Library

namespace Command

variable {environment : Environment} {h : Host} {w w' : World} {ws : List Text} {v : Verbosity}
variable {i : Invocation} {s : Selection} {g p : Text} {source : Path} {stop : Option Stop}
variable {f : Failure} {n : Nat} {t : FileTree}

theorem isClean_ofRun_iff :
    (Report.ofRun n stop w).IsClean ↔ ∀ s, stop = some s → s.IsClean := by
  cases stop with
  | none => exact iff_of_true ⟨rfl, 0, by omega, rfl⟩ (by rintro _ ⟨⟩)
  | some s =>
    constructor
    · rintro ⟨-, hcode⟩ _ ⟨⟩
      exact hcode
    · intro hs
      obtain ⟨n, hn, hcode⟩ := hs s rfl
      refine ⟨?_, n, hn, hcode⟩
      cases s with
      | escaped f => cases hcode
      | _ => rfl

def fresh (w : World) : World := { w with printed := [], records := [] }

theorem report_eq (hread : Command.read w.files environment ws = .ok (v, i)) :
    (program ws environment h w).1 = .ofRun (v.threshold.toOption.getD 0)
      (stopOf (perform i h (fresh w)).1) (perform i h (fresh w)).2 := by
  have hrun : perform i h (fresh w) = ((perform i h (fresh w)).1, (perform i h (fresh w)).2) := rfl
  rw [program_eq hread hrun]

theorem isClean_program_iff (hread : Command.read w.files environment ws = .ok (v, i)) :
    (program ws environment h w).1.IsClean ↔
      ∀ s, (perform i h (fresh w)).1 = .error s → s.IsClean := by
  rw [report_eq hread, isClean_ofRun_iff]
  cases (perform i h (fresh w)).1 with
  | ok _ => exact iff_of_true (by rintro _ ⟨⟩) (by rintro _ ⟨⟩)
  | error s => simp [stopOf]

theorem escaped_of_failure (hread : Command.read w.files environment ws = .ok (v, i))
    (hf : (program ws environment h w).1.failure = some f) :
    (perform i h (fresh w)).1 = .error (.escaped f) := by
  rw [report_eq hread] at hf
  cases hrun : (perform i h (fresh w)).1 with
  | ok _ =>
    rw [hrun] at hf
    cases hf
  | error s =>
    rw [hrun] at hf
    cases s with
    | escaped f' => cases hf; rfl
    | _ => cases hf

theorem isClean_program_of_error {s : Stop}
    (hread : Command.read w.files environment ws = .error s) (hs : s.IsClean) :
    (program ws environment h w).1.IsClean := by
  unfold program
  simp only [hread]
  exact isClean_ofRun_iff.2 fun _ hsome => Option.some.inj hsome ▸ hs

theorem isClean_ofFailure_iff {handled : Failure → Bool} :
    (Stop.ofFailure handled f).IsClean ↔ handled f = true := by
  unfold Stop.ofFailure
  split
  · next hf => exact iff_of_true ⟨1, by omega, rfl⟩ hf
  · next hf => exact iff_of_false (by rintro ⟨n, -, ⟨⟩⟩) hf

theorem ofFailure_eq_escaped {handled : Failure → Bool} {f' : Failure}
    (hf : Stop.ofFailure handled f = .escaped f') : f = f' ∧ handled f = false := by
  unfold Stop.ofFailure at hf
  split at hf
  · cases hf
  · next hnot =>
    cases hf
    exact ⟨rfl, by simpa using hnot⟩

section Rendering

theorem fst_performRender (hg : filled s.group = some g) (hp : filled s.package = some p) :
    (performRender s none h w).1 =
      ((scriptFor s g p ⟨w.files, h.platform, h.engine⟩).2.mapError
        (.ofFailure Failure.isArgumentError)).map fun _ => () := by
  rw [performRender_apply hg hp]
  rcases scriptFor s g p ⟨w.files, h.platform, h.engine⟩ with ⟨records, f | text⟩ <;> rfl

theorem load_buildScript_eq_error {u : Template.LoadFault}
    (hload : (library s).load t Template.buildScriptName = .error u) :
    ∃ d, u = .unreadable d := by
  unfold library Template.Library.load at hload
  rw [segments?_buildScriptName] at hload
  simp only at hload
  split at hload
  · obtain ⟨d, -, rfl⟩ := mapError_eq_error.1 hload
    exact ⟨d, rfl⟩
  · cases hload

theorem scriptFor_eq_error {site : Site} (hf : (scriptFor s g p site).2 = .error f) :
    f.isArgumentError = true ∨ (∃ d, f = .load (.unreadable d)) ∨ ∃ u, f = .template u := by
  rcases Reading.snd_bind_eq_error.1 hf with hcoordinates | ⟨c, -, hrender⟩
  · obtain ⟨u, -, rfl⟩ := mapError_eq_error.1 hcoordinates
    exact .inl rfl
  · rcases Template.Library.render_eq_error hrender with ⟨u, hload, rfl⟩ | hrest
    · obtain ⟨d, rfl⟩ := load_buildScript_eq_error hload
      exact .inr (.inl ⟨d, rfl⟩)
    · exact hrest.imp_right .inr

theorem isArgumentError_of_scriptFor_iff (site : Site) :
    (∀ f, (scriptFor s g p site).2 = .error f → f.isArgumentError = true) ↔
      ∀ c, Coordinates.of? (some g) (some p) = .ok c →
        (library s).Presents site Template.buildScriptName
          (Template.Library.contextOf c) := by
  simp only [← Template.Library.isArgumentError_of_render_iff]
  constructor
  · intro hall c hc f hf
    exact hall f (Reading.snd_bind_eq_error.2 (.inr ⟨c, mapError_eq_ok.2 hc, hf⟩))
  · intro hall f hf
    rcases Reading.snd_bind_eq_error.1 hf with hcoordinates | ⟨c, hc, hrender⟩
    · obtain ⟨u, -, rfl⟩ := mapError_eq_error.1 hcoordinates
      rfl
    · exact hall c (mapError_eq_ok.1 hc) f hrender

/-- A rendering ends cleanly just when the template can be presented with the coordinates. -/
theorem isClean_render_iff
    (hread : Command.read w.files environment ws = .ok (v, .render s none))
    (hg : filled s.group = some g) (hp : filled s.package = some p) :
    (program ws environment h w).1.IsClean ↔
      ∀ c, Coordinates.of? (some g) (some p) = .ok c →
        (library s).Presents ⟨w.files, h.platform, h.engine⟩ Template.buildScriptName
          (Template.Library.contextOf c) := by
  rw [isClean_program_iff hread,
    ← isArgumentError_of_scriptFor_iff ⟨w.files, h.platform, h.engine⟩]
  change (∀ stop, (performRender s none h (fresh w)).1 = .error stop → _) ↔ _
  rw [fst_performRender hg hp]
  constructor
  · intro hall f hf
    exact isClean_ofFailure_iff.1
      (hall _ (map_eq_error.2 (mapError_eq_error.2 ⟨f, hf, rfl⟩)))
  · intro hall stop hstop
    obtain ⟨f, hf, rfl⟩ := mapError_eq_error.1 (map_eq_error.1 hstop)
    exact isClean_ofFailure_iff.2 (hall f hf)

theorem failure_render (hread : Command.read w.files environment ws = .ok (v, .render s none))
    (hg : filled s.group = some g) (hp : filled s.package = some p)
    (hf : (program ws environment h w).1.failure = some f) :
    (∃ d, f = .load (.unreadable d)) ∨ ∃ u, f = .template u := by
  have hstop : (performRender s none h (fresh w)).1 = .error (.escaped f) :=
    escaped_of_failure hread hf
  rw [fst_performRender hg hp] at hstop
  obtain ⟨f', hf', hescaped⟩ := mapError_eq_error.1 (map_eq_error.1 hstop)
  obtain ⟨rfl, hnot⟩ := ofFailure_eq_escaped hescaped
  rcases scriptFor_eq_error hf' with hargument | hrest
  · rw [hnot] at hargument
    cases hargument
  · exact hrest

end Rendering

section Listing

open Discovery (CanReach collect)

def listed (h : Host) : Except Failure (List Binding) → Except Stop Unit
  | .error f => .error (.ofFailure Failure.isRefusal f)
  | .ok [] => .error (.exit 1)
  | .ok bs =>
    match Console.bindingTable h.literals h.columns bs with
    | .ok _ => .ok ()
    | .error f => .error (.escaped (.ofConsole f))

theorem fst_performListClasses : (performListClasses source h w).1 =
    listed h (Discovery.bindings source ⟨w.files, h.platform, h.engine⟩).2 := by
  have hread := Work.reporting_apply (h := h) (w := w) Failure.isRefusal
    (Action.reading (Discovery.bindings source))
  rw [Action.exec_reading] at hread
  unfold performListClasses
  cases hfound : (Discovery.bindings source ⟨w.files, h.platform, h.engine⟩).2 with
  | error f =>
    rw [hfound] at hread
    rw [Work.bind_of_error hread]
    rfl
  | ok bs =>
    rw [hfound] at hread
    rw [Work.bind_of_ok hread]
    cases bs with
    | nil => rfl
    | cons b bs =>
      change ((Action.showTable (b :: bs)).exec h _).1.mapError (Stop.ofFailure fun _ => false) = _
      simp only [Action.showTable, Action.exec, listed]
      cases Console.bindingTable h.literals h.columns (b :: bs) <;> rfl

theorem isClean_listed_iff {x : Except Failure (List Binding)} :
    (∀ s, listed h x = .error s → s.IsClean) ↔
      (∀ f, x = .error f → f.isRefusal = true) ∧ ∀ bs, x = .ok bs →
        (Console.bindingTable h.literals h.columns bs).isOk = true := by
  cases x with
  | error f => simp [listed, isClean_ofFailure_iff]
  | ok bs =>
    cases bs with
    | nil =>
      refine iff_of_true ?_ ⟨by rintro _ ⟨⟩, ?_⟩
      · rintro s ⟨⟩
        exact ⟨1, by omega, rfl⟩
      · rintro _ ⟨⟩
        exact Console.isOk_bindingTable_of_shows nofun nofun
    | cons b bs =>
      simp only [listed]
      cases htable : Console.bindingTable h.literals h.columns (b :: bs) with
      | ok table =>
        refine iff_of_true (by rintro _ ⟨⟩) ⟨by rintro _ ⟨⟩, ?_⟩
        rintro _ ⟨⟩
        rw [htable]
        rfl
      | error f =>
        refine iff_of_false (fun hall => ?_) fun hall => ?_
        · obtain ⟨n, -, hn⟩ := hall _ rfl
          cases hn
        · have hok := hall.2 _ rfl
          rw [htable] at hok
          cases hok

theorem failure_listed {x : Except Failure (List Binding)}
    (hx : listed h x = .error (.escaped f)) :
    (x = .error f ∧ f.isRefusal = false) ∨ ∃ u, f = .ofConsole u := by
  unfold listed at hx
  split at hx
  · obtain ⟨rfl, hnot⟩ := ofFailure_eq_escaped (Except.error.inj hx)
    exact .inl ⟨rfl, hnot⟩
  · cases hx
  · split at hx
    · cases hx
    · cases hx
      exact .inr ⟨_, rfl⟩

/-- Only a directory passes as one that is there. -/
theorem stat_of_check {u : Text}
    (hcheck : (⟨true, false, true⟩ : PathRule).check t u = .ok none) :
    t.stat (.ofText u) = .ok .dir := by
  obtain ⟨e, hentry, hrest⟩ := bind_eq_ok.1 hcheck
  have he : e = some .dir := by
    split at hrest
    · cases hrest
    · rfl
    · cases hrest
  exact stat_of_entryAt (he ▸ hentry)

/-- An accepted line for a listing names a directory. -/
theorem stat_of_read (hread : Command.read t environment ws = .ok (v, .listClasses source)) :
    t.stat source = .ok .dir := by
  obtain ⟨before, -, hread⟩ := bind_eq_ok.1 hread
  split at hread
  · cases hread
  obtain ⟨c, -, hread⟩ := bind_eq_ok.1 hread
  split at hread
  · cases hread
  obtain ⟨line, hline, hread⟩ := bind_eq_ok.1 hread
  obtain ⟨⟨⟩, -, hpure⟩ := bind_eq_ok.1 hread
  cases c with
  | listClasses =>
    cases hpure
    obtain ⟨u, hu⟩ : ∃ u, line.value? [] scanned = some u := by
      unfold Line.value?
      cases (line.last? scanned).bind Given.value? <;> exact ⟨_, rfl⟩
    have hcheck := check_of_readLine hline (q := scanned) List.mem_cons_self hu
    change t.stat (.ofText ((line.value? [] scanned).getD [])) = _
    rw [hu]
    exact stat_of_check hcheck
  | _ => cases hpure

theorem bindings_eq {site : Site} {ps : List Path} (hps : site.files.below source ".rs" = .ok ps) :
    (Discovery.bindings source site).2 = (collect [] ps site).2 := by
  unfold Discovery.bindings
  rw [Reading.snd_bind, Reading.snd_ofTree, hps]
  rfl

/-- A listing ends cleanly just when the system can read what it reaches and the table of what is
found can be shown. -/
theorem isClean_listClasses_iff {ps : List Path}
    (hread : Command.read w.files environment ws = .ok (v, .listClasses source))
    (hps : w.files.below source ".rs" = .ok ps) :
    (program ws environment h w).1.IsClean ↔
      CanReach ⟨w.files, h.platform, h.engine⟩ [] ps ∧
        ∀ bs, (collect [] ps ⟨w.files, h.platform, h.engine⟩).2 = .ok bs →
          (Console.bindingTable h.literals h.columns bs).isOk = true := by
  rw [isClean_program_iff hread]
  change (∀ stop, (performListClasses source h (fresh w)).1 = .error stop → _) ↔ _
  rw [fst_performListClasses, bindings_eq hps, isClean_listed_iff,
    Discovery.isRefusal_of_collect_iff]
  rfl

theorem isOk_bindingTable_of_collect {site : Site} {ps : List Path} {bs : List Binding}
    (hbs : (collect [] ps site).2 = .ok bs)
    (hshown : h.columns < 7 ∨ ∀ b ∈ bs, Console.shows h.literals b.package = .ok true) :
    (Console.bindingTable h.literals h.columns bs).isOk = true := by
  rcases hshown with hnarrow | hshows
  · exact Console.isOk_bindingTable_of_narrow hnarrow
  · refine Console.isOk_bindingTable_of_shows (fun b hb => ?_) hshows
    rcases Discovery.exists_source_of_collect hbs hb with hnil | ⟨text, htext⟩
    · cases hnil
    · exact Source.hasNoBrackets_of_mem_bindings htext

theorem failure_listClasses {ps : List Path}
    (hread : Command.read w.files environment ws = .ok (v, .listClasses source))
    (hps : w.files.below source ".rs" = .ok ps)
    (hf : (program ws environment h w).1.failure = some f) :
    (∃ cause q, f = .files (.system cause q)) ∨ ∃ u, f = .ofConsole u := by
  have hstop : (performListClasses source h (fresh w)).1 = .error (.escaped f) :=
    escaped_of_failure hread hf
  rw [fst_performListClasses, bindings_eq hps] at hstop
  rcases failure_listed hstop with ⟨hcollect, hnot⟩ | hmarkup
  · rcases Discovery.collect_eq_error hcollect with hrefusal | hsystem
    · rw [hnot] at hrefusal
      cases hrefusal
    · exact .inl hsystem
  · exact .inr hmarkup

end Listing

section Sample

open Project (coordinates_sample sampleBrief)

def templated (content : Bytes) : FileTree := [
  ([".jni-cli"], .dir), ([".jni-cli", "templates"], .dir),
  ([".jni-cli", "templates", "gradle"], .dir),
  ([".jni-cli", "templates", "gradle", "build.gradle.kts"], .file content false)]

def sourced (e : Entry) : FileTree := [(["src"], .dir), (["src", "lib.rs"], e)]

def groupTemplate : Text := "\x7b\x7bgroup_id\x7d\x7d"

def boundIn (package : Text) : Entry :=
  .file (Utf8.encode ("#[java_class(\"" ++ package ++ "\")] impl T \x7b\x7d")) false

def shortWords : List Text := renderWords "org" "lib" "Cargo.toml"

def listWords : List Text := ["list-classes"]

theorem presents_groupTemplate : (library ⟨some "org", some "lib", "Cargo.toml"⟩).Presents
    ⟨templated (Utf8.encode groupTemplate), "linux", .refusing⟩ Template.buildScriptName
    (Template.Library.contextOf sampleBrief.coordinates) := by
  refine ⟨groupTemplate, [], by decide +kernel, by decide +kernel, fun _ => ⟨"org", ?_⟩⟩
  decide +kernel

theorem collect_boundIn : (Discovery.collect [] ["src/lib.rs"]
    ⟨sourced (boundIn "a.b"), "linux", .refusing⟩).2 = .ok [⟨"T", "a.b"⟩] := by
  decide +kernel

end Sample

end Command

end CrateScaffold
