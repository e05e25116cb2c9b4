import CrateScaffold.Proofs.FileTree.Apart
import CrateScaffold.Proofs.Project.Confinement

/-!
Writing what is there. A project whose directories are there and whose files have their entries is
written again without a change, and writing a project leaves all apart from it as it was.
-/

namespace CrateScaffold.Project

variable {output : Path} {f : PlannedFile} {fs : List PlannedFile} {d p q : Path}
variable {ds ps : List Path} {h : Host} {w w' : World} {executable : Bool}

theorem makeDirectories_of_stat (hds : ∀ d ∈ ds, w.files.stat (output / d) = .ok .dir) :
    (makeDirectories output ds).exec h w = (.ok (), w) := by
  induction ds with
  | nil => rfl
  | cons d ds ih =>
    obtain ⟨hd, hds⟩ := List.forall_mem_cons.1 hds
    rw [makeDirectories, Action.exec_bind_of_ok (Action.exec_makeDirs_of_stat hd), ih hds]

def writtenRecord (output : Path) (f : PlannedFile) : Record :=
  ⟨.debug, "Wrote " ++ (output / f.path).text⟩

/-- A file that has its entry is written again without a change. -/
theorem writeFile_of_stat (hf : w.files.stat (output / f.path) = .ok (f.entry executable)) :
    (writeFile output f).exec h w =
      (.ok (output / f.path), { w with records := w.records ++ [writtenRecord output f] }) := by
  have hmade : (Action.makeDirs (output / f.path).parent).exec h w = (.ok (), w) :=
    Action.exec_makeDirs_of_stat (FileTree.stat_parent hf nofun)
  have hwritten : (Action.change (·.write (output / f.path) f.content.encode)).exec h w =
      (.ok (), w) :=
    Action.exec_change_of_ok (FileTree.write_of_stat hf)
  unfold writeFile
  rw [Action.exec_bind_of_ok hmade, Action.exec_bind_of_ok hwritten]
  split
  · next hexec =>
    rw [PlannedFile.entry, hexec, Bool.true_or] at hf
    have hchanged : (Action.change (·.makeExecutable (output / f.path))).exec h w = (.ok (), w) :=
      Action.exec_change_of_ok (FileTree.makeExecutable_of_stat hf)
    rw [Action.exec_bind_of_ok hchanged]
    rfl
  · rfl

theorem writeFiles_of_stat
    (hfs : ∀ f ∈ fs, ∃ executable, w.files.stat (output / f.path) = .ok (f.entry executable)) :
    (writeFiles output fs).exec h w = (.ok (fs.map fun f => output / f.path),
      { w with records := w.records ++ fs.map (writtenRecord output) }) := by
  induction fs generalizing w with
  | nil => simp [writeFiles]
  | cons f fs ih =>
    obtain ⟨⟨executable, hf⟩, hfs⟩ := List.forall_mem_cons.1 hfs
    have hrest := ih (w := { w with records := w.records ++ [writtenRecord output f] }) hfs
    rw [writeFiles, Action.exec_bind_of_ok (writeFile_of_stat hf), Action.exec_bind_of_ok hrest]
    simp

theorem write_of_stat (hds : ∀ d ∈ ds, w.files.stat (output / d) = .ok .dir)
    (hfs : ∀ f ∈ fs, ∃ executable, w.files.stat (output / f.path) = .ok (f.entry executable)) :
    (write output fs ds).exec h w = (.ok (fs.map fun f => output / f.path),
      { w with records := w.records ++ fs.map (writtenRecord output) }) := by
  rw [write, Action.exec_bind_of_ok (makeDirectories_of_stat hds), writeFiles_of_stat hfs]

theorem under_makeDirectories (hout : ['.', '.'] ∉ output.parts)
    (hds : ∀ d ∈ ds, d.leaves = false) (hp : p.Apart output) {v : Unit}
    (hrun : (makeDirectories output ds).exec h w = (.ok v, w')) :
    w'.files.under p.parts = w.files.under p.parts := by
  induction ds generalizing w with
  | nil =>
    cases hrun
    rfl
  | cons d ds ih =>
    obtain ⟨⟨⟩, u, hfirst, hrest⟩ := Action.exec_bind_eq_ok.1 hrun
    obtain ⟨hd, hds⟩ := List.forall_mem_cons.1 hds
    obtain ⟨hmade, -⟩ := exec_makeDirs_eq_ok hfirst
    have hunder := FileTree.under_makeDirs (t := w.files) (l := p.parts)
      (dots_not_mem_join hout hd) (by
        rw [Path.join_of_relative output (Path.anchor_of_inside hd)]
        exact hp.not_isPrefix)
    rw [hmade] at hunder
    exact (ih hds hrest).trans hunder

theorem under_writeFile (hout : ['.', '.'] ∉ output.parts) (hf : f.path.leaves = false)
    (hp : p.Apart output) (hrun : (writeFile output f).exec h w = (.ok q, w')) :
    w'.files.under p.parts = w.files.under p.parts := by
  obtain ⟨rfl, -, t, hmade, -, rfl⟩ := writeFile_eq_ok hrun
  have hdots := dots_not_mem_join hout hf
  have hpre : ¬ p.parts <+: (output / f.path).parts := by
    rw [Path.join_of_relative output (Path.anchor_of_inside hf)]
    exact hp.not_isPrefix
  have hunder := FileTree.under_makeDirs (t := w.files) (l := p.parts) (dots_not_mem_parent hdots)
    fun habove => hpre (habove.trans (List.dropLast_prefix _))
  rw [hmade] at hunder
  refine (FileTree.under_put ?_).trans hunder
  rwa [Path.location_of_plain hdots]

theorem under_writeFiles (hout : ['.', '.'] ∉ output.parts) (hin : ∀ f ∈ fs, f.path.leaves = false)
    (hp : p.Apart output) (hrun : (writeFiles output fs).exec h w = (.ok ps, w')) :
    w'.files.under p.parts = w.files.under p.parts := by
  induction fs generalizing w ps with
  | nil =>
    cases hrun
    rfl
  | cons f fs ih =>
    obtain ⟨q, u, hfirst, hrun⟩ := Action.exec_bind_eq_ok.1 hrun
    obtain ⟨qs, v, hrest, hrun⟩ := Action.exec_bind_eq_ok.1 hrun
    cases hrun
    obtain ⟨hf, hin⟩ := List.forall_mem_cons.1 hin
    exact (ih hin hrest).trans (under_writeFile hout hf hp hfirst)

/-- In a tree whose entries have their directories, the same is found apart from the project after
it is written. -/
theorem sameApart_of_write (hw : w.files.Sound) (hout : ['.', '.'] ∉ output.parts)
    (hds : ∀ d ∈ ds, d.leaves = false) (hin : ∀ f ∈ fs, f.path.leaves = false)
    (hrun : (write output fs ds).exec h w = (.ok ps, w')) :
    FileTree.SameApart output w.files w'.files := by
  obtain ⟨⟨⟩, u, hmade, hwritten⟩ := Action.exec_bind_eq_ok.1 hrun
  obtain ⟨-, hdirs⟩ := stat_makeDirectories hmade
  refine FileTree.sameApart_of_under hw (fun m hm => dirs_writeFiles hwritten (hdirs m hm)) ?_
  intro p hp
  exact (under_writeFiles hout hin hp hwritten).trans (under_makeDirectories hout hds hp hmade)

end CrateScaffold.Project
