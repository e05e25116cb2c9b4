import CrateScaffold.Proofs.FileTree.PathText
import CrateScaffold.Proofs.Project.Plan
import CrateScaffold.Proofs.Project.Writing

/-!
Writing is exact and confined. Each file gets its own bytes and each directory is there at the end;
at every other location things stay as they were, but that directories are made on the way.
-/

namespace CrateScaffold.Project

open FileTree (Kept)

variable {output : Path} {f : PlannedFile} {fs : List PlannedFile} {d p : Path} {ds ps : List Path}
variable {h : Host} {w w' : World} {m : Location}

/-- The location is that of a directory to be there, or one above a directory or a file. -/
def IsOnWay (output : Path) (ds : List Path) (fs : List PlannedFile) (m : Location) : Prop :=
  (∃ d ∈ ds, m <+: (output / d).parts) ∨ ∃ f ∈ fs, m <+: (output / f.path).parent.parts

/-- What is on the way is inside the output directory or above it. -/
theorem IsOnWay.inside_or_above (hds : ∀ d ∈ ds, d.leaves = false)
    (hfs : ∀ f ∈ fs, f.path.leaves = false) (hm : IsOnWay output ds fs m) :
    output.parts <+: m ∨ m <+: output.parts := by
  have hjoined : ∀ q : Path, q.leaves = false → m <+: (output / q).parts →
      output.parts <+: m ∨ m <+: output.parts := by
    intro q hq hpre
    rw [Path.join_of_relative output (Path.anchor_of_inside hq)] at hpre
    exact List.prefix_or_prefix_of_prefix (List.prefix_append _ _) hpre
  rcases hm with ⟨d, hd, hpre⟩ | ⟨f, hf, hpre⟩
  · exact hjoined d (hds d hd) hpre
  · exact hjoined f.path (hfs f hf) (hpre.trans (List.dropLast_prefix _))

theorem dots_not_mem_join (hout : ['.', '.'] ∉ output.parts) (hd : d.leaves = false) :
    ['.', '.'] ∉ (output / d).parts := by
  rw [Path.join_of_relative output (Path.anchor_of_inside hd), List.mem_append, not_or]
  exact ⟨hout, Path.dots_not_mem_of_inside hd⟩

theorem dots_not_mem_parent (hp : ['.', '.'] ∉ p.parts) : ['.', '.'] ∉ p.parent.parts :=
  fun hm => hp (List.dropLast_subset _ hm)

/-- One file is exactly where it belongs, and the rest is kept. -/
theorem at?_writeFile (hout : ['.', '.'] ∉ output.parts) (hf : f.path.leaves = false)
    (hrun : (writeFile output f).exec h w = (.ok p, w')) :
    w'.files.at? (output / f.path).location =
        some (f.entry (w.files.isExecutable (output / f.path).location)) ∧
      ∀ m, m ≠ (output / f.path).location →
        Kept (m <+: (output / f.path).parent.parts) m w.files w'.files := by
  obtain ⟨rfl, ⟨hne, -⟩, t, hmade, -, rfl⟩ := writeFile_eq_ok hrun
  have hkept := FileTree.kept_makeDirs w.files (dots_not_mem_parent (dots_not_mem_join hout hf))
  rw [hmade] at hkept
  refine ⟨?_, fun m hm => ?_⟩
  · rw [(hkept _).isExecutable_eq]
    exact FileTree.at?_put_self t _ hne
  · exact (hkept m).trans (.inl (FileTree.at?_put_of_ne t _ hm))

/-- Away from the files everything is kept, whatever file comes first. -/
theorem kept_writeFiles (hout : ['.', '.'] ∉ output.parts) (hin : ∀ f ∈ fs, f.path.leaves = false)
    (hm : ∀ f ∈ fs, m ≠ (output / f.path).location)
    (hrun : (writeFiles output fs).exec h w = (.ok ps, w')) :
    Kept (∃ f ∈ fs, m <+: (output / f.path).parent.parts) m w.files w'.files := by
  induction fs generalizing w ps with
  | nil =>
    cases hrun
    exact .rfl
  | cons f fs ih =>
    obtain ⟨p, u, hfirst, hrun⟩ := Action.exec_bind_eq_ok.1 hrun
    obtain ⟨qs, v, hrest, hrun⟩ := Action.exec_bind_eq_ok.1 hrun
    cases hrun
    obtain ⟨-, hkept⟩ := at?_writeFile hout (hin f List.mem_cons_self) hfirst
    have hlater := ih (fun g hg => hin g (List.mem_cons_of_mem f hg))
      (fun g hg => hm g (List.mem_cons_of_mem f hg)) hrest
    refine ((hkept m (hm f List.mem_cons_self)).mono ?_).trans (hlater.mono ?_)
    · exact fun hpre => ⟨f, List.mem_cons_self, hpre⟩
    · rintro ⟨g, hg, hpre⟩
      exact ⟨g, List.mem_cons_of_mem f hg, hpre⟩

/-- Each file has its own entry when all are written: no earlier one made it executable, and no
later one replaces it. -/
theorem at?_writeFiles (hout : ['.', '.'] ∉ output.parts) (hin : ∀ f ∈ fs, f.path.leaves = false)
    (hn : (fs.map PlannedFile.path).Nodup) (hf : f ∈ fs)
    (hrun : (writeFiles output fs).exec h w = (.ok ps, w')) :
    w'.files.at? (output / f.path).location =
      some (f.entry (w.files.isExecutable (output / f.path).location)) := by
  induction fs generalizing w ps with
  | nil => cases hf
  | cons g fs ih =>
    obtain ⟨p, u, hfirst, hrun⟩ := Action.exec_bind_eq_ok.1 hrun
    obtain ⟨qs, v, hrest, hrun⟩ := Action.exec_bind_eq_ok.1 hrun
    cases hrun
    obtain ⟨hnew, hn⟩ := List.nodup_cons.1 hn
    have hin' : ∀ f ∈ fs, f.path.leaves = false := fun f hf => hin f (List.mem_cons_of_mem g hf)
    obtain ⟨hat, hkept⟩ := at?_writeFile hout (hin g List.mem_cons_self) hfirst
    have happart : ∀ f ∈ fs, (output / f.path).location ≠ (output / g.path).location := by
      intro f hf heq
      have hpath := output.location_join_injective (hin' f hf) (hin g List.mem_cons_self) heq
      exact hnew (hpath ▸ List.mem_map_of_mem hf)
    rcases List.mem_cons.1 hf with rfl | hf
    · exact (preserves_writeFiles happart hrest).entry _ hat
    · rw [ih hin' hn hf hrest, (hkept _ (happart f hf)).isExecutable_eq]

/-- When the directories are made each of them is there, and none is lost. -/
theorem stat_makeDirectories {v : Unit}
    (hrun : (makeDirectories output ds).exec h w = (.ok v, w')) :
    (∀ d ∈ ds, w'.files.stat (output / d) = .ok .dir) ∧
      ∀ m, w.files.at? m = some .dir → w'.files.at? m = some .dir := by
  induction ds generalizing w with
  | nil =>
    cases hrun
    exact ⟨by simp, fun _ hm => hm⟩
  | cons d ds ih =>
    obtain ⟨⟨⟩, u, hfirst, hrest⟩ := Action.exec_bind_eq_ok.1 hrun
    obtain ⟨hmade, -⟩ := exec_makeDirs_eq_ok hfirst
    have hdirs := (FileTree.preserves_makeDirs (l := []) w.files (output / d)).dirs
    rw [hmade] at hdirs
    obtain ⟨hstat, hdirs'⟩ := ih hrest
    refine ⟨List.forall_mem_cons.2 ⟨?_, hstat⟩, fun m hm => hdirs' m (hdirs m hm)⟩
    exact FileTree.stat_dir_of_dirs hdirs' (FileTree.stat_makeDirs hmade)

theorem kept_makeDirectories (hout : ['.', '.'] ∉ output.parts)
    (hds : ∀ d ∈ ds, d.leaves = false) {v : Unit}
    (hrun : (makeDirectories output ds).exec h w = (.ok v, w')) (m : Location) :
    Kept (∃ d ∈ ds, m <+: (output / d).parts) m w.files w'.files := by
  induction ds generalizing w with
  | nil =>
    cases hrun
    exact .rfl
  | cons d ds ih =>
    obtain ⟨⟨⟩, u, hfirst, hrest⟩ := Action.exec_bind_eq_ok.1 hrun
    obtain ⟨hd, hds⟩ := List.forall_mem_cons.1 hds
    obtain ⟨hmade, -⟩ := exec_makeDirs_eq_ok hfirst
    have hkept := FileTree.kept_makeDirs w.files (dots_not_mem_join hout hd) m
    rw [hmade] at hkept
    refine (hkept.mono ?_).trans ((ih hds hrest).mono ?_)
    · exact fun hpre => ⟨d, List.mem_cons_self, hpre⟩
    · rintro ⟨e, he, hpre⟩
      exact ⟨e, List.mem_cons_of_mem d he, hpre⟩

theorem stat_dir_of_write (hrun : (write output fs ds).exec h w = (.ok ps, w')) (hd : d ∈ ds) :
    w'.files.stat (output / d) = .ok .dir := by
  obtain ⟨⟨⟩, u, hmade, hwritten⟩ := Action.exec_bind_eq_ok.1 hrun
  obtain ⟨hstat, -⟩ := stat_makeDirectories hmade
  exact FileTree.stat_dir_of_dirs (fun m => dirs_writeFiles hwritten) (hstat d hd)

theorem stat_file_of_write (hout : ['.', '.'] ∉ output.parts) (hds : ∀ d ∈ ds, d.leaves = false)
    (hin : ∀ f ∈ fs, f.path.leaves = false) (hn : (fs.map PlannedFile.path).Nodup)
    (hrun : (write output fs ds).exec h w = (.ok ps, w')) (hf : f ∈ fs) :
    w'.files.stat (output / f.path) =
      .ok (f.entry (w.files.isExecutable (output / f.path).location)) := by
  have hholds := holdsFile_of_write hin hn hf hrun
  obtain ⟨⟨⟩, u, hmade, hwritten⟩ := Action.exec_bind_eq_ok.1 hrun
  refine hholds.stat_eq ?_
  rw [at?_writeFiles hout hin hn hf hwritten,
    (kept_makeDirectories hout hds hmade _).isExecutable_eq]

theorem kept_write (hout : ['.', '.'] ∉ output.parts) (hds : ∀ d ∈ ds, d.leaves = false)
    (hin : ∀ f ∈ fs, f.path.leaves = false)
    (hrun : (write output fs ds).exec h w = (.ok ps, w'))
    (hm : ∀ f ∈ fs, m ≠ (output / f.path).location) :
    Kept (IsOnWay output ds fs m) m w.files w'.files := by
  obtain ⟨⟨⟩, u, hmade, hwritten⟩ := Action.exec_bind_eq_ok.1 hrun
  exact ((kept_makeDirectories hout hds hmade m).mono .inl).trans
    ((kept_writeFiles hout hin hm hwritten).mono .inr)

/-- When everything is written, each file has exactly its bytes and may be executed if it is
marked so or could be before, and each directory is there. At any other location nothing is changed
but that a directory may be made where nothing was, on the way to a file or a directory; it is
inside the output directory or above it. -/
theorem write_exact_and_confined (output : Path) (fs : List PlannedFile) (ds ps : List Path)
    (h : Host) (w w' : World) (hout : ['.', '.'] ∉ output.parts)
    (hds : ∀ d ∈ ds, d.leaves = false) (hin : ∀ f ∈ fs, f.path.leaves = false)
    (hn : (fs.map PlannedFile.path).Nodup)
    (hrun : (write output fs ds).exec h w = (.ok ps, w')) :
    (ps = fs.map fun f => output / f.path) ∧
    (∀ f ∈ fs, w'.files.stat (output / f.path) =
      .ok (f.entry (w.files.isExecutable (output / f.path).location))) ∧
    (∀ d ∈ ds, w'.files.stat (output / d) = .ok .dir) ∧
    ∀ m, (∀ f ∈ fs, m ≠ (output / f.path).location) →
      w'.files.at? m = w.files.at? m ∨
        w.files.at? m = none ∧ w'.files.at? m = some .dir ∧ IsOnWay output ds fs m ∧
          (output.parts <+: m ∨ m <+: output.parts) := by
  refine ⟨write_eq_ok hrun, fun f => stat_file_of_write hout hds hin hn hrun,
    fun d => stat_dir_of_write hrun, fun m hm => ?_⟩
  exact (kept_write hout hds hin hrun hm).imp_right fun ⟨hway, hnone, hdir⟩ =>
    ⟨hnone, hdir, hway, hway.inside_or_above hds hin⟩

def halfMade : FileTree :=
  [(["notes"], .file (Utf8.encode "kept") false), (["out"], .dir), (["out", "kotlin"], .dir),
    (["out", "kotlin", "run.sh"], .file (Utf8.encode "old") true)]

def tool : PlannedFile := ⟨⟨.relative, ["bin", "tool"]⟩, .bytes [0, 255], .bool true⟩

def starter : PlannedFile := ⟨⟨.relative, ["run.sh"]⟩, .text ['ü', '\n'], .bool false⟩

theorem write_exact_and_confined_halfMade :
    ∃ ps w', (write "out/kotlin" [tool, starter] ["bin", "empty/dir"]).exec Host.plain
        (.ofFiles halfMade) = (.ok ps, w') ∧
      w'.files.stat ("out/kotlin" / tool.path) = .ok (.file [0, 255] true) ∧
      w'.files.stat ("out/kotlin" / starter.path) = .ok (.file [195, 188, 10] true) ∧
      w'.files.stat ("out/kotlin" / "empty/dir") = .ok .dir ∧
      w'.files.at? ["notes"] = some (.file (Utf8.encode "kept") false) := by
  have hok : ((write "out/kotlin" [tool, starter] ["bin", "empty/dir"]).exec Host.plain
      (.ofFiles halfMade)).1.isOk = true := by decide +kernel
  have htool : tool.entry (halfMade.isExecutable ("out/kotlin" / tool.path : Path).location) =
      .file [0, 255] true := by decide
  have hstarter : starter.entry
      (halfMade.isExecutable ("out/kotlin" / starter.path : Path).location) =
        .file [195, 188, 10] true := by decide
  have hnotes : halfMade.at? ["notes"] = some (.file (Utf8.encode "kept") false) := by
    decide
  rcases hrun : (write "out/kotlin" [tool, starter] ["bin", "empty/dir"]).exec Host.plain
    (.ofFiles halfMade) with ⟨e | ps, w'⟩
  · rw [hrun] at hok
    cases hok
  · obtain ⟨-, hfiles, hdirs, hrest⟩ := write_exact_and_confined _ _ _ _ _ _ _
      (by decide) (by decide) (by decide) (by decide) hrun
    refine ⟨ps, w', rfl, ?_, ?_, ?_, ?_⟩
    · rw [hfiles tool List.mem_cons_self]
      exact congrArg Except.ok htool
    · rw [hfiles starter (List.mem_cons_of_mem _ List.mem_cons_self)]
      exact congrArg Except.ok hstarter
    · exact hdirs _ (List.mem_cons_of_mem _ List.mem_cons_self)
    · rcases hrest ["notes"] (by decide) with hsame | ⟨hnone, -⟩
      · exact hsame.trans hnotes
      · exact absurd (hnone.symm.trans hnotes) (by simp)

end CrateScaffold.Project
