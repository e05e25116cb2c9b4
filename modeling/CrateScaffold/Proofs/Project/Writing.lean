import CrateScaffold.Project.Writing
import CrateScaffold.Proofs.FileTree.Making
import CrateScaffold.Proofs.World.Effect

/-!
What writing a plan leaves behind. The written paths are those of the files, in their order; and as
the files have different paths that stay inside the project, none replaces another: after the last
one is written each holds its own content.
-/

namespace CrateScaffold

namespace Action

variable {h : Host} {w w' : World} {f : FileTree → Except FileTree.Fault FileTree} {p : Path}

theorem exec_change_eq_ok {u : Unit} (hrun : (change f).exec h w = (.ok u, w')) :
    ∃ t, f w.files = .ok t ∧ w' = { w with files := t } := by
  unfold exec change at hrun
  cases hf : f w.files with
  | error e =>
    rw [hf] at hrun
    cases hrun
  | ok t =>
    rw [hf] at hrun
    cases hrun
    exact ⟨t, rfl, rfl⟩

theorem exec_change_of_ok {t : FileTree} (hf : f w.files = .ok t) :
    (change f).exec h w = (.ok (), { w with files := t }) := by
  unfold exec change
  rw [hf]

theorem exec_makeDirs : (makeDirs p).exec h w =
    ((w.files.makeDirs p).1.mapError .files, { w with files := (w.files.makeDirs p).2 }) := rfl

theorem exec_makeDirs_of_stat (hp : w.files.stat p = .ok .dir) :
    (makeDirs p).exec h w = (.ok (), w) := by
  rw [exec_makeDirs, FileTree.makeDirs_of_stat hp]
  rfl

end Action

def PlannedFile.entry (f : PlannedFile) (executable : Bool) : Entry :=
  .file f.content.encode (f.executable.isTrue || executable)

namespace Project

variable {output : Path} {f : PlannedFile} {fs : List PlannedFile} {ds ps : List Path} {p : Path}
variable {h : Host} {w w' : World} {l : Location}

theorem exec_makeDirs_eq_ok {v : Unit} (hrun : (Action.makeDirs p).exec h w = (.ok v, w')) :
    w.files.makeDirs p = (.ok (), w'.files) ∧ w' = { w with files := w'.files } := by
  rw [Action.exec_makeDirs] at hrun
  obtain ⟨hok, rfl⟩ := Prod.mk.inj hrun
  exact ⟨Prod.ext (mapError_eq_ok.1 hok) rfl, rfl⟩

/-- Writing one file makes its directory and puts its entry there. -/
theorem writeFile_eq_ok (hrun : (writeFile output f).exec h w = (.ok p, w')) :
    p = output / f.path ∧ w'.files.HoldsFile p f.content.encode ∧
      ∃ t, w.files.makeDirs p.parent = (.ok (), t) ∧ t.at? p.location ≠ some .dir ∧
        w' = { w with
          files := t.put p.location (f.entry (t.isExecutable p.location))
          records := w.records ++ [⟨.debug, "Wrote " ++ p.text⟩] } := by
  unfold writeFile at hrun
  obtain ⟨⟨⟩, u, hmade, hrun⟩ := Action.exec_bind_eq_ok.1 hrun
  obtain ⟨hdirs, hu⟩ := exec_makeDirs_eq_ok hmade
  obtain ⟨⟨⟩, v, hwritten, hrun⟩ := Action.exec_bind_eq_ok.1 hrun
  obtain ⟨t, hwrite, rfl⟩ := Action.exec_change_eq_ok hwritten
  have hholds := FileTree.holdsFile_write hwrite
  obtain ⟨e, -, -, hne, hdir, rfl⟩ := FileTree.write_eq_ok hwrite
  split at hrun
  · next hexec =>
    obtain ⟨⟨⟩, x, hchanged, hrun⟩ := Action.exec_bind_eq_ok.1 hrun
    obtain ⟨t', hexecutable, rfl⟩ := Action.exec_change_eq_ok hchanged
    cases hrun
    refine ⟨rfl, hholds.of_makeExecutable hexecutable, u.files, hdirs, hdir, ?_⟩
    rw [hholds.makeExecutable_eq] at hexecutable
    cases hexecutable
    rw [hu, FileTree.put_put, PlannedFile.entry, hexec]
    rfl
  · next hexec =>
    cases hrun
    refine ⟨rfl, hholds, u.files, hdirs, hdir, ?_⟩
    rw [hu, PlannedFile.entry, Bool.eq_false_iff.2 hexec]
    rfl

/-- Where the directory can be made and the file written, nothing else fails. -/
theorem exists_exec_writeFile {t t' : FileTree}
    (hmade : w.files.makeDirs (output / f.path).parent = (.ok (), t))
    (hwrite : t.write (output / f.path) f.content.encode = .ok t') :
    ∃ w', (writeFile output f).exec h w = (.ok (output / f.path), w') := by
  have hdirs : (Action.makeDirs (output / f.path).parent).exec h w =
      (.ok (), { w with files := t }) := by
    rw [Action.exec_makeDirs, hmade]
    rfl
  have hwritten : (Action.change (·.write (output / f.path) f.content.encode)).exec h
      { w with files := t } = (.ok (), { w with files := t' }) :=
    Action.exec_change_of_ok hwrite
  unfold writeFile
  rw [Action.exec_bind_of_ok hdirs, Action.exec_bind_of_ok hwritten]
  split
  · have hholds := FileTree.holdsFile_write hwrite
    have hchanged : (Action.change (·.makeExecutable (output / f.path))).exec h
        { w with files := t' } = (.ok (), { w with
          files := t'.put (output / f.path).location (.file f.content.encode true) }) :=
      Action.exec_change_of_ok hholds.makeExecutable_eq
    rw [Action.exec_bind_of_ok hchanged]
    exact ⟨_, rfl⟩
  · exact ⟨_, rfl⟩

theorem writes_makeDirectories (output : Path) (ds : List Path) :
    (makeDirectories output ds).Writes := by
  induction ds with
  | nil => exact .pure ()
  | cons d ds ih => exact .bind (.makeDirs _) fun _ => ih

theorem writes_writeFile (output : Path) (f : PlannedFile) : (writeFile output f).Writes := by
  have hlog : (do
      Action.log .debug ("Wrote " ++ (output / f.path).text)
      return output / f.path : Action Path).Writes := .bind (.log _ _) fun _ => .pure _
  unfold writeFile
  refine .bind (.makeDirs _) fun _ => .bind (.change _) fun _ => ?_
  split
  · exact .bind (.change _) fun _ => hlog
  · exact hlog

theorem writes_writeFiles (output : Path) (fs : List PlannedFile) :
    (writeFiles output fs).Writes := by
  induction fs with
  | nil => exact .pure []
  | cons f fs ih => exact .bind (writes_writeFile output f) fun _ => .bind ih fun _ => .pure _

theorem writes_write (output : Path) (fs : List PlannedFile) (ds : List Path) :
    (write output fs ds).Writes :=
  .bind (writes_makeDirectories output ds) fun _ => writes_writeFiles output fs

theorem preserves_writeFile (hrun : (writeFile output f).exec h w = (.ok p, w'))
    (hl : (output / f.path).location ≠ l) : w.files.Preserves l w'.files := by
  obtain ⟨rfl, -, t, hmade, hdir, rfl⟩ := writeFile_eq_ok hrun
  have hdirs := FileTree.preserves_makeDirs (l := l) w.files (output / f.path).parent
  rw [hmade] at hdirs
  exact hdirs.trans (FileTree.preserves_put hdir (.inr hl))

/-- The written paths are those of the files. -/
theorem writeFiles_eq_ok (hrun : (writeFiles output fs).exec h w = (.ok ps, w')) :
    ps = fs.map fun f => output / f.path := by
  induction fs generalizing w ps with
  | nil =>
    cases hrun
    rfl
  | cons f fs ih =>
    obtain ⟨p, u, hfirst, hrun⟩ := Action.exec_bind_eq_ok.1 hrun
    obtain ⟨qs, v, hrest, hrun⟩ := Action.exec_bind_eq_ok.1 hrun
    cases hrun
    rw [(writeFile_eq_ok hfirst).1, ih hrest, List.map_cons]

theorem preserves_writeFiles (hl : ∀ f ∈ fs, (output / f.path).location ≠ l)
    (hrun : (writeFiles output fs).exec h w = (.ok ps, w')) : w.files.Preserves l w'.files := by
  induction fs generalizing w ps with
  | nil =>
    cases hrun
    exact .rfl
  | cons f fs ih =>
    obtain ⟨p, u, hfirst, hrun⟩ := Action.exec_bind_eq_ok.1 hrun
    obtain ⟨qs, v, hrest, hrun⟩ := Action.exec_bind_eq_ok.1 hrun
    cases hrun
    have hu := preserves_writeFile hfirst (hl f List.mem_cons_self)
    exact hu.trans (ih (fun g hg => hl g (List.mem_cons_of_mem f hg)) hrest)

/-- No directory is lost. -/
theorem dirs_writeFiles (hrun : (writeFiles output fs).exec h w = (.ok ps, w')) {m : Location}
    (hm : w.files.at? m = some .dir) : w'.files.at? m = some .dir := by
  induction fs generalizing w ps with
  | nil =>
    cases hrun
    exact hm
  | cons f fs ih =>
    obtain ⟨p, u, hfirst, hrun⟩ := Action.exec_bind_eq_ok.1 hrun
    obtain ⟨qs, v, hrest, hrun⟩ := Action.exec_bind_eq_ok.1 hrun
    cases hrun
    obtain ⟨rfl, ⟨hne, -⟩, -⟩ := writeFile_eq_ok hfirst
    exact ih hrest ((preserves_writeFile hfirst hne).dirs m hm)

/-- With different paths inside the project, each file holds its content when all are written. -/
theorem holdsFile_writeFiles (hin : ∀ f ∈ fs, f.path.leaves = false)
    (hn : (fs.map PlannedFile.path).Nodup) (hf : f ∈ fs)
    (hrun : (writeFiles output fs).exec h w = (.ok ps, w')) :
    w'.files.HoldsFile (output / f.path) f.content.encode := by
  induction fs generalizing w ps with
  | nil => cases hf
  | cons g fs ih =>
    obtain ⟨p, u, hfirst, hrun⟩ := Action.exec_bind_eq_ok.1 hrun
    obtain ⟨qs, v, hrest, hrun⟩ := Action.exec_bind_eq_ok.1 hrun
    cases hrun
    obtain ⟨hnew, hn⟩ := List.nodup_cons.1 hn
    have hin' : ∀ f ∈ fs, f.path.leaves = false := fun f hf => hin f (List.mem_cons_of_mem g hf)
    rcases List.mem_cons.1 hf with rfl | hf
    · -- No later file is written where this one is, so it stays.
      obtain ⟨rfl, hholds, -⟩ := writeFile_eq_ok hfirst
      refine hholds.of_preserves (preserves_writeFiles ?_ hrest)
      intro g hg heq
      have hpath := output.location_join_injective (hin' g hg) (hin f List.mem_cons_self) heq
      exact hnew (hpath ▸ List.mem_map_of_mem hg)
    · exact ih hin' hn hf hrest

theorem write_eq_ok (hrun : (write output fs ds).exec h w = (.ok ps, w')) :
    ps = fs.map fun f => output / f.path := by
  obtain ⟨⟨⟩, v, -, hrest⟩ := Action.exec_bind_eq_ok.1 hrun
  exact writeFiles_eq_ok hrest

theorem holdsFile_of_write (hin : ∀ f ∈ fs, f.path.leaves = false)
    (hn : (fs.map PlannedFile.path).Nodup) (hf : f ∈ fs)
    (hrun : (write output fs ds).exec h w = (.ok ps, w')) :
    w'.files.HoldsFile (output / f.path) f.content.encode := by
  obtain ⟨⟨⟩, v, -, hrest⟩ := Action.exec_bind_eq_ok.1 hrun
  exact holdsFile_writeFiles hin hn hf hrest

end Project

end CrateScaffold
