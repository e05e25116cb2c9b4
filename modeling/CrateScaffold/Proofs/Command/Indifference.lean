import CrateScaffold.Proofs.Command.Cleanliness
import CrateScaffold.Proofs.Plugin.Locality
import CrateScaffold.Proofs.World.Difference

/-!
A manifest that is not needed does not matter. Where the group and the package are given, rendering
and verifying come to the same in two worlds whose trees differ at the manifest, whatever is in it
and whether or not it is there. Its path matters: it selects the overrides, which are elsewhere.
-/

namespace CrateScaffold

variable {m : Location} {e e' : Option Entry} {t t' : FileTree} {cs : List Text} {p : Path}

namespace Template

/-- No override of a project is at the place of a file in its directory. -/
theorem location_override_ne (hcs : ['.', '.'] ∉ cs) :
    (Path.mk (overrides p.parent).anchor ((overrides p.parent).parts ++ cs)).location ≠
      p.location := by
  have hinside : Path.leaves (".jni-cli/templates" : Path) = false := by decide
  have hparts : (Path.parts (".jni-cli/templates" : Path)).length = 2 := by decide
  have hoverride : (Path.mk (overrides p.parent).anchor
      ((overrides p.parent).parts ++ cs)).location =
        p.parent.location ++ Path.parts (".jni-cli/templates" : Path) ++ cs := by
    change walk [] ((overrides p.parent).parts ++ cs) = _
    rw [walk_append, walk_of_not_mem hcs]
    exact congrArg (· ++ cs) (Path.location_join _ hinside)
  intro he
  have hlength := congrArg List.length (hoverride.symm.trans he)
  have hlong := p.length_location_le
  rw [List.length_append, List.length_append, hparts] at hlength
  omega

theorem override?_eq_of_differsAt (h : t.DiffersAt p.location e e' t') (hcs : ['.', '.'] ∉ cs) :
    override? p.parent t' cs = override? p.parent t cs := by
  rw [override?_eq_toOption, override?_eq_toOption, h.toOption_stat (location_override_ne hcs)]

end Template

namespace Command

open Template (Library)

variable {s : Selection} {g : Text} {environment : Environment} {c : Command} {l : Line}
variable {ws opts : List Text} {platform : Text} {engine : Template.Engine} {script : Path}
variable {q : Parameter}

theorem load_library_eq (h : t.DiffersAt s.manifest.location e e' t') (name : Text) :
    (library s).load t' name = (library s).load t name := by
  refine Library.load_congr (fun root cs hroot hcs => ?_) name
  cases hroot
  exact Template.override?_eq_of_differsAt h hcs

theorem source_eq (h : t.DiffersAt s.manifest.location e e' t') (name : Text) :
    (library s).source name ⟨t', platform, engine⟩ =
      (library s).source name ⟨t, platform, engine⟩ :=
  Reading.ofTree_eq_of_trees (congrArg (·.mapError Failure.load) (load_library_eq h name))

theorem scriptFor_eq (h : t.DiffersAt s.manifest.location e e' t') (g p : Text) :
    scriptFor s g p ⟨t', platform, engine⟩ = scriptFor s g p ⟨t, platform, engine⟩ := by
  have hload : (library s).load t' = (library s).load t := funext (load_library_eq h)
  refine Reading.bind_eq_of_sites rfl fun c => ?_
  refine Reading.bind_eq_of_sites (source_eq h _) fun source => ?_
  refine Reading.bind_eq_of_sites rfl fun _ => ?_
  refine Reading.bind_eq_of_sites rfl fun _ => ?_
  simp only [Reading.ofSite, hload]

theorem problemsOf_eq (h : t.DiffersAt s.manifest.location e e' t') (c : Coordinates)
    {x : Entry} (hscript : t.stat script = .ok x) (hne : script.location ≠ s.manifest.location) :
    problemsOf s c script ⟨t', platform, engine⟩ =
      problemsOf s c script ⟨t, platform, engine⟩ := by
  have hread : t'.readExact script = t.readExact script := by
    unfold FileTree.readExact FileTree.read
    rw [hscript, (h.stat_iff hne).2 hscript]
  refine Reading.bind_eq_of_sites (source_eq h _) fun _ => ?_
  refine Reading.bind_eq_of_sites ?_ fun _ => rfl
  exact Reading.ofTree_eq_of_trees (congrArg (·.mapError Failure.ofRead) hread)

/-- What is at a path as it is written, from what is found there. -/
theorem entryAt_eq_toOption (t : FileTree) (u : Text) : entryAt t u =
    if u.isEmpty then .ok none
    else if FileTree.hasNull (.ofText u) then .error .null
    else .ok ((t.stat (.ofText u)).toOption.filter fun x => x == .dir || !endsInSlash u) := by
  unfold entryAt
  split
  · rfl
  · by_cases hnull : FileTree.hasNull (.ofText u) = true
    · have hstat : t.stat (.ofText u) = .error .null := by
        rw [FileTree.stat, FileTree.locate, if_pos hnull]
        rfl
      rw [if_pos hnull, hstat]
    · rw [if_neg hnull]
      cases hstat : t.stat (.ofText u) with
      | error f =>
        cases f with
        | null => exact absurd (hasNull_of_stat hstat) hnull
        | system cause q => rfl
      | ok x =>
        cases x with
        | dir => rfl
        | file content executable =>
          cases endsInSlash u <;> rfl

theorem entryAt_eq (h : t.DiffersAt m e e' t') {u : Text} (hu : (Path.ofText u).location ≠ m) :
    entryAt t' u = entryAt t u := by
  rw [entryAt_eq_toOption, entryAt_eq_toOption, h.toOption_stat hu]

theorem check_anyFile_of_no_dir {u : Text} (hdir : t.stat (.ofText u) ≠ .ok .dir) :
    anyFile.check t u =
      if !u.isEmpty && FileTree.hasNull (.ofText u) then .error .null else .ok none := by
  unfold PathRule.check
  rw [entryAt_eq_toOption]
  cases u.isEmpty with
  | true => rfl
  | false =>
    cases FileTree.hasNull (.ofText u) with
    | true => rfl
    | false =>
      cases hstat : t.stat (.ofText u) with
      | error f => rfl
      | ok x =>
        cases x with
        | dir => exact absurd hstat hdir
        | file content executable =>
          cases hslash : endsInSlash u <;> simp [anyFile, Except.toOption, Bind.bind,
            Except.bind, pure, Except.pure, Option.filter]

theorem check_anyFile_eq (h : t.DiffersAt m e e' t') (u : Text) :
    anyFile.check t' u = anyFile.check t u := by
  by_cases hdir : t.stat (.ofText u) = .ok .dir
  · have hdir' : t'.stat (.ofText u) = .ok .dir := h.stat_dir_iff.2 hdir
    unfold PathRule.check
    rw [entryAt_eq_toOption, entryAt_eq_toOption, hdir, hdir']
  · rw [check_anyFile_of_no_dir hdir, check_anyFile_of_no_dir fun hd => hdir (h.stat_dir_iff.1 hd)]

def Parameter.takesFiles (q : Parameter) : Bool :=
  match q.form with
  | .path r => r == anyFile
  | _ => true

theorem takesFiles_of_mem_general : ∀ q ∈ general, q.takesFiles = true := by decide

/-- The commands that make or check a build script. -/
def IsOfScript (c : Command) : Prop := c = .render ∨ c = .verify

theorem IsOfScript.takesFiles (hc : IsOfScript c) : ∀ q ∈ parameters c, q.takesFiles = true := by
  rcases hc with rfl | rfl <;> decide

theorem checkValue_eq (h : t.DiffersAt m e e' t') (hq : q.takesFiles = true) (d : Option Command) :
    checkValue d t' environment l q = checkValue d t environment l q := by
  have hform : ∀ u, q.form.check t' u = q.form.check t u := by
    intro u
    unfold Parameter.takesFiles at hq
    cases hf : q.form with
    | path r =>
      rw [hf] at hq
      obtain rfl : r = anyFile := by simpa using hq
      exact check_anyFile_eq h u
    | _ => rfl
  unfold checkValue
  split
  · rw [hform]
  · rfl

theorem checkArgument_eq (h : t.DiffersAt m e e' t')
    (hargument : ∀ u, l.words.head? = some u → (Path.ofText u).location ≠ m) (d : Option Command) :
    checkArgument d t' l = checkArgument d t l := by
  unfold checkArgument
  split
  · rfl
  · next r _ =>
    cases hwords : l.words with
    | nil => rfl
    | cons u us =>
      have hu : (Path.ofText u).location ≠ m := hargument u (by rw [hwords]; rfl)
      simp only [PathRule.check, entryAt_eq h hu]

/-- A line with parameters that take files is read in the same way, unless it has an argument at the
location. -/
theorem readLine_eq {d : Option Command} {ps : List Parameter} (h : t.DiffersAt m e e' t')
    (hps : ∀ q ∈ ps, q.takesFiles = true)
    (hargument : ∀ l, Line.read ps d.isSome ws = .ok l →
      checkArgument d t' l = checkArgument d t l) :
    readLine d ps t' environment ws = readLine d ps t environment ws := by
  have hvalues : ∀ l (qs : List Parameter), (∀ q ∈ qs, q.takesFiles = true) →
      qs.forM (checkValue d t' environment l) = qs.forM (checkValue d t environment l) :=
    fun l qs hqs => forM_eq_of_mem fun q hq => checkValue_eq h (hqs q hq) d
  unfold readLine
  refine bind_congr_of_ok fun l hl => ?_
  have hread := mapError_eq_ok.1 hl
  have hoccurring : ∀ q ∈ l.occurring, q.takesFiles = true := by
    intro q hq
    obtain ⟨o, ho, rfl⟩ := List.mem_map.1 (List.mem_eraseDups.1 hq)
    exact hps _ ((Line.isFrom_of_read hread).parameters o ho)
  rw [hargument l hread, hvalues l _ hoccurring,
    hvalues l _ fun q hq => hps q (List.mem_filter.1 hq).1]

/-- What makes the manifest of a line unneeded: the group and the package are given, the manifest is
at the location, and what is read or written is elsewhere. The way to the output leads through the
location only where there is a file in both trees. -/
structure ManifestUnneeded (c : Command) (environment : Environment) (m : Location)
    (e e' : Option Entry) (l : Line) : Prop where
  named : (filled (l.value? environment group)).isSome = true ∧
    (filled (l.value? environment package)).isSome = true
  place : (pathOf l manifest).location = m
  script : c = .verify → ∀ u, l.words.head? = some u → (Path.ofText u).location ≠ m
  output : c = .render → ∀ u, l.value? [] output = some u → (Path.ofText u).location ≠ m ∧
    ((Path.ofText u).Passes m → e ≠ none ∧ e' ≠ none)

theorem readLine_general_eq (h : t.DiffersAt m e e' t') :
    readLine none general t' environment ws = readLine none general t environment ws :=
  readLine_eq h takesFiles_of_mem_general fun _ _ => rfl

/-- The words are accepted in both trees or, in the same way, in neither. -/
theorem read_eq (h : t.DiffersAt m e e' t') (hc : IsOfScript c)
    {before : Line} (hbefore : Line.read general false ws = .ok before)
    (hwords : before.words = c.name :: opts)
    (hunneeded : ∀ l, Line.read (parameters c) true opts = .ok l →
      ManifestUnneeded c environment m e e' l) :
    Command.read t' environment ws = Command.read t environment ws := by
  have hline : readLine (some c) (parameters c) t' environment opts =
      readLine (some c) (parameters c) t environment opts := by
    refine readLine_eq h hc.takesFiles fun l hl => ?_
    rcases hc with rfl | rfl
    · rfl
    · exact checkArgument_eq h ((hunneeded l hl).script rfl) _
  unfold Command.read
  rw [readLine_general_eq h]
  refine bind_congr_of_ok fun l hl => ?_
  obtain rfl : l = before := Except.ok.inj ((readLine_eq_ok.1 hl).1.symm.trans hbefore)
  simp only [hwords, commandOf_name]
  refine bind_congr_of_ok fun d hd => ?_
  cases hd
  rw [hline]

/-- What is asked for comes from the words of the command. -/
theorem exists_line_of_read {v : Verbosity} {i : Invocation} {before : Line}
    (hread : Command.read t environment ws = .ok (v, i))
    (hbefore : Line.read general false ws = .ok before) (hwords : before.words = c.name :: opts) :
    ∃ l, readLine (some c) (parameters c) t environment opts = .ok l ∧
      i = invocation c environment l := by
  obtain ⟨l, hl, hread⟩ := bind_eq_ok.1 hread
  obtain rfl : l = before := Except.ok.inj ((readLine_eq_ok.1 hl).1.symm.trans hbefore)
  simp only [hwords, commandOf_name] at hread
  obtain ⟨_, hname, hread⟩ := bind_eq_ok.1 hread
  cases hname
  split at hread
  · cases hread
  · obtain ⟨line, hline, hread⟩ := bind_eq_ok.1 hread
    obtain ⟨⟨⟩, -, hpure⟩ := bind_eq_ok.1 hread
    cases hpure
    exact ⟨line, hline, rfl⟩

theorem exists_stat_of_check {u : Text}
    (hcheck : (⟨true, true, false⟩ : PathRule).check t u = .ok none) :
    ∃ x, t.stat (.ofText u) = .ok x := by
  obtain ⟨o, hentry, hrest⟩ := bind_eq_ok.1 hcheck
  cases o with
  | none => cases hrest
  | some x => exact ⟨x, stat_of_entryAt hentry⟩

/-- The file of an accepted line for a verification is there. -/
theorem exists_script_of_readLine
    (hl : readLine (some .verify) (parameters .verify) t environment opts = .ok l) :
    ∃ u x, l.words.head? = some u ∧ t.stat (.ofText u) = .ok x := by
  obtain ⟨-, -, -, hargument, -⟩ := readLine_eq_ok.1 hl
  unfold checkArgument at hargument
  simp only [Option.bind_some, argument?] at hargument
  cases hwords : l.words with
  | nil =>
    rw [hwords] at hargument
    cases hargument
  | cons u us =>
    rw [hwords] at hargument
    have hcheck : (⟨true, true, false⟩ : PathRule).check t u = .ok none := by
      unfold stopAt at hargument
      simp only at hargument
      split at hargument
      · cases hargument
      · cases hargument
      · next hnone => exact hnone
    obtain ⟨x, hx⟩ := exists_stat_of_check hcheck
    exact ⟨u, x, rfl, hx⟩

section Performance

variable {w w' : World} {h : Host} {p : Text} {script : Path}

theorem endsAlike_say (hw : w.DiffersAt m e e' w') (tone : Console.Tone) (u : Text) :
    EndsAlike m e e' ((Action.say tone u) h w) ((Action.say tone u) h w') := by
  unfold Action.say
  cases Console.message h.literals h.columns tone u with
  | error f => exact hw.endsAlike _
  | ok shown => exact Action.endsAlike_print hw shown

theorem endsAlike_reporting {α : Type} {a : Action α} (handled : Failure → Bool)
    (ha : EndsAlike m e e' (a h w) (a h w')) :
    EndsAlike m e e' (Work.reporting handled a h w) (Work.reporting handled a h w') := by
  rw [Work.reporting_apply, Work.reporting_apply]
  exact ⟨congrArg (·.mapError (Stop.ofFailure handled)) ha.outcome, ha.worlds⟩

theorem endsAlike_resolved (hw : w.DiffersAt m e e' w') (hg : filled s.group = some g)
    (hp : filled s.package = some p) (c : Command) :
    EndsAlike m e e' (resolved c s h w) (resolved c s h w') := by
  rw [resolved_of_filled hg hp, resolved_of_filled hg hp]
  exact hw.endsAlike _

theorem endsAlike_writeOut {out : Path} (hw : w.DiffersAt m e e' w') (text : Text)
    (hout : out.location ≠ m) (hway : out.Passes m → e ≠ none ∧ e' ≠ none) :
    EndsAlike m e e' ((writeOut out text) h w) ((writeOut out text) h w') := by
  have hparent : out.parent.Passes m → e ≠ none ∧ e' ≠ none := by
    rintro ⟨k, hk, hm⟩
    exact hway ⟨k, hk.trans (List.dropLast_prefix _), hm⟩
  refine endsAlike_bind (Action.endsAlike_makeDirs hw hparent) fun _ v v' _ hv => ?_
  refine endsAlike_bind (Action.endsAlike_write hv hway hout) fun _ u u' _ hu => ?_
  exact Action.endsAlike_log hu _ _

theorem endsAlike_performRender (hw : w.DiffersAt s.manifest.location e e' w')
    (hg : filled s.group = some g) (hp : filled s.package = some p) (out : Option Path)
    (hout : ∀ o, out = some o → o.location ≠ s.manifest.location ∧
      (o.Passes s.manifest.location → e ≠ none ∧ e' ≠ none)) :
    EndsAlike s.manifest.location e e' (performRender s out h w) (performRender s out h w') := by
  refine endsAlike_bind (endsAlike_resolved hw hg hp _) fun names v v' _ hv => ?_
  obtain ⟨g', p'⟩ := names
  refine endsAlike_bind (endsAlike_reporting _ (Action.endsAlike_reading hv
    (scriptFor_eq hv.files g' p'))) fun text u u' _ hu => ?_
  cases out with
  | none => exact endsAlike_reporting _ (Action.endsAlike_print hu _)
  | some o => exact endsAlike_reporting _ (endsAlike_writeOut hu text (hout o rfl).1 (hout o rfl).2)

theorem endsAlike_performVerify (hw : w.DiffersAt s.manifest.location e e' w')
    (hg : filled s.group = some g) (hp : filled s.package = some p) {x : Entry}
    (hscript : w.files.stat script = .ok x) (hne : script.location ≠ s.manifest.location) :
    EndsAlike s.manifest.location e e' (performVerify s script h w)
      (performVerify s script h w') := by
  refine endsAlike_bind (endsAlike_resolved hw hg hp _) fun names v v' hrun hv => ?_
  rw [resolved_of_filled hg hp] at hrun
  cases hrun
  refine endsAlike_bind (endsAlike_reporting _ (Action.endsAlike_reading hv rfl))
    fun c u u' hrun hu => ?_
  have hfiles : u.files = w.files := by
    rw [Work.reporting_apply, Action.exec_reading] at hrun
    rw [← (Prod.mk.inj hrun).2]
  rw [← hfiles] at hscript
  refine endsAlike_bind (endsAlike_reporting _ (Action.endsAlike_reading hu
    (problemsOf_eq hu.files c hscript hne))) fun ps u u' _ hu => ?_
  cases ps with
  | nil => exact endsAlike_reporting _ (endsAlike_say hu _ _)
  | cons q qs =>
    refine endsAlike_bind ?_ fun _ v v' _ hv => hv.endsAlike _
    rw [forM_log, forM_log]
    exact (hu.withRecords _).endsAlike _

/-- What an accepted line asks for ends alike. -/
theorem endsAlike_perform (hw : w.DiffersAt m e e' w') (hc : IsOfScript c)
    (hl : readLine (some c) (parameters c) w.files environment opts = .ok l)
    (hunneeded : ManifestUnneeded c environment m e e' l) :
    EndsAlike m e e' (perform (invocation c environment l) h w)
      (perform (invocation c environment l) h w') := by
  obtain ⟨g, hg⟩ := Option.isSome_iff_exists.1 hunneeded.named.1
  obtain ⟨p, hp⟩ := Option.isSome_iff_exists.1 hunneeded.named.2
  obtain rfl : (selection l environment).manifest.location = m := hunneeded.place
  rcases hc with rfl | rfl
  · refine endsAlike_performRender hw hg hp _ fun o ho => ?_
    obtain ⟨u, hu, rfl⟩ := Option.map_eq_some_iff.1 ho
    exact hunneeded.output rfl u hu
  · obtain ⟨u, x, hu, hx⟩ := exists_script_of_readLine hl
    have hscript : Path.ofText (l.words.head?.getD []) = .ofText u := by rw [hu]; rfl
    change EndsAlike _ _ _ (performVerify _ (Path.ofText (l.words.head?.getD [])) h w)
      (performVerify _ (Path.ofText (l.words.head?.getD [])) h w')
    rw [hscript]
    exact endsAlike_performVerify hw hg hp hx (hunneeded.script rfl u hu)

theorem ofRun_eq (hw : w.DiffersAt m e e' w') (threshold : Nat) (stop : Option Stop) :
    Report.ofRun threshold stop w' = .ofRun threshold stop w := by
  unfold Report.ofRun
  rw [hw.printed, hw.records]

end Performance

section Sample

def outputWords (out : Text) : List Text := ["render", "-g", "org", "-p", "lib", "-o", out]

def outputLine (out : Text) : Line :=
  ⟨[⟨group, .value "org"⟩, ⟨package, .value "lib"⟩, ⟨output, .value out⟩], []⟩

def withManifest (t : FileTree) (content : Bytes) : FileTree :=
  t.put ["Cargo.toml"] (.file content false)

theorem differsAt_withManifest (ht : t.at? ["Cargo.toml"] = none) (content : Bytes) :
    t.DiffersAt ["Cargo.toml"] none (some (.file content false)) (withManifest t content) := by
  rw [← ht]
  exact FileTree.differsAt_put (by decide) (by rw [ht]; rintro ⟨⟩) nofun

end Sample

end Command

end CrateScaffold
