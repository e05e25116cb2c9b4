import CrateScaffold.Project.Generation
import CrateScaffold.Proofs.FileTree.Apart
import CrateScaffold.Proofs.FileTree.PathText
import CrateScaffold.Proofs.World.Effect

/-!
Where the library of a crate is. The build tool leaves it below the directory of the manifest, under
a name that adds only a few letters to that of the library, and it is bundled under the same name;
the two places are never the same.
-/

namespace CrateScaffold

namespace Native

variable {platform : Text} {libName : Value} {c : Char}

/-- A file name adds only a few letters to the name of a library. -/
theorem mem_fileName (h : c ∈ fileName platform libName) :
    c ∈ libName.display ∨ c ∈ "lib.dylib.dll.so".toList := by
  have happend : ∀ s t : Text, s ⊆ "lib.dylib.dll.so".toList → t ⊆ "lib.dylib.dll.so".toList →
      c ∈ s ++ libName.display ++ t → c ∈ libName.display ∨ c ∈ "lib.dylib.dll.so".toList := by
    intro s t hs ht hc
    rcases List.mem_append.1 hc with hc | hc
    · rcases List.mem_append.1 hc with hc | hc
      · exact .inr (hs hc)
      · exact .inl hc
    · exact .inr (ht hc)
  unfold fileName at h
  split at h
  · exact happend [] ".dll" (by decide) (by decide) h
  · split at h
    · exact happend "lib" ".dylib" (by decide) (by decide) h
    · exact happend "lib" ".so" (by decide) (by decide) h

theorem two_lt_length_fileName (platform : Text) (libName : Value) :
    2 < (fileName platform libName).length := by
  have hdll : (".dll" : Text).length = 4 := by decide
  have hlib : ("lib" : Text).length = 3 := by decide
  unfold fileName
  split
  · rw [List.length_append, hdll]
    omega
  · split
    · rw [List.length_append, List.length_append, hlib]
      omega
    · rw [List.length_append, List.length_append, hlib]
      omega

theorem fileName_ne_dots (platform : Text) (libName : Value) :
    fileName platform libName ≠ ['.', '.'] := by
  intro heq
  have hlength := two_lt_length_fileName platform libName
  rw [heq] at hlength
  simp at hlength

end Native

namespace Manifest

variable {t : FileTree} {p : Path} {c : Crate} {document : Value}

theorem manifest_of_crateOf (h : crateOf p document = .ok c) : c.manifest = p := by
  unfold crateOf at h
  obtain ⟨package, -, h⟩ := bind_eq_ok.1 h
  split at h
  · cases h
  · obtain ⟨name, -, h⟩ := bind_eq_ok.1 h
    split at h
    · cases h
    · obtain ⟨lib, -, h⟩ := bind_eq_ok.1 h
      obtain ⟨libName, -, h⟩ := bind_eq_ok.1 h
      split at h
      · cases h
        rfl
      · obtain ⟨derived, -, h⟩ := bind_eq_ok.1 h
        cases h
        rfl

/-- A crate knows its manifest, which is there. -/
theorem manifest_of_read (h : read t p = .ok c) : c.manifest = p ∧ ∃ x, t.stat p = .ok x := by
  obtain ⟨document, hload, hcrate⟩ := bind_eq_ok.1 h
  refine ⟨manifest_of_crateOf hcrate, ?_⟩
  unfold load at hload
  obtain ⟨present, hpresent, hload⟩ := bind_eq_ok.1 hload
  cases present with
  | false => cases hload
  | true =>
    obtain ⟨text, htext, -⟩ := bind_eq_ok.1 hload
    cases hs : t.stat p with
    | ok x => exact ⟨x, rfl⟩
    | error f =>
      rw [FileTree.readText, FileTree.readExact, FileTree.read, hs] at htext
      cases htext

end Manifest

namespace Crate

def fileName (c : Crate) (platform : Text) : Text := Native.fileName platform c.libName

section Name

variable {c : Crate} {platform : Text}

theorem slash_not_mem_fileName (hslash : '/' ∉ c.libName.display) : '/' ∉ c.fileName platform := by
  intro hm
  rcases Native.mem_fileName hm with hm | hm
  · exact hslash hm
  · revert hm
    decide

theorem ofText_fileName (hslash : '/' ∉ c.libName.display) :
    Path.ofText (c.fileName platform) = ⟨.relative, [c.fileName platform]⟩ := by
  have hlength : 2 < (c.fileName platform).length :=
    Native.two_lt_length_fileName platform c.libName
  exact Path.ofText_of_name (slash_not_mem_fileName hslash) (by omega)

end Name

def artifact (c : Crate) (platform : Text) : Path :=
  Native.artifact (c.dir / ("target" : Path)) (c.fileName platform)

structure HasPlainLibrary (c : Crate) (platform : Text) : Prop where
  slash : '/' ∉ c.libName.display
  null : '\x00' ∉ c.libName.display
  short : ¬ 255 < (Utf8.encode (c.fileName platform)).length

namespace HasPlainLibrary

variable {c : Crate} {platform : Text}

theorem null_not_mem (h : c.HasPlainLibrary platform) : '\x00' ∉ c.fileName platform := by
  intro hm
  rcases Native.mem_fileName hm with hm | hm
  · exact h.null hm
  · revert hm
    decide

theorem leaves_fileName (h : c.HasPlainLibrary platform) :
    (Path.ofText (c.fileName platform)).leaves = false := by
  have hdots : c.fileName platform ≠ ['.', '.'] := Native.fileName_ne_dots platform c.libName
  rw [Crate.ofText_fileName h.slash, Path.leaves_eq_false_iff]
  exact ⟨rfl, by simpa using hdots.symm⟩

theorem parts_artifact (h : c.HasPlainLibrary platform) : (c.artifact platform).parts =
    c.dir.parts ++ [("target" : Text), "release", c.fileName platform] := by
  have htarget : ("target" : Path) = ⟨.relative, ["target"]⟩ := by decide
  have hrelease : ("release" : Path) = ⟨.relative, ["release"]⟩ := by decide
  rw [artifact, Native.artifact, Crate.ofText_fileName h.slash, htarget, hrelease,
    Path.join_of_relative _ rfl, Path.join_of_relative _ rfl, Path.join_of_relative _ rfl]
  simp

theorem hasShortNames_artifact (h : c.HasPlainLibrary platform)
    (hm : FileTree.HasShortNames c.manifest) : FileTree.HasShortNames (c.artifact platform) := by
  intro d hd
  rw [h.parts_artifact, List.mem_append] at hd
  rcases hd with hd | hd
  · exact hm d (List.dropLast_subset _ hd)
  · simp only [List.mem_cons, List.not_mem_nil, or_false] at hd
    rcases hd with rfl | rfl | rfl
    · decide
    · decide
    · exact h.short

end HasPlainLibrary

end Crate

namespace Project

variable {o : Order} {c : Crate} {platform : Text}

def Order.destination (o : Order) (c : Crate) (platform : Text) : Path :=
  o.output / resources / Path.ofText (c.fileName platform)

theorem leaves_resources : resources.leaves = false := by decide

theorem location_destination (hlib : c.HasPlainLibrary platform) :
    (o.destination c platform).location =
      o.output.location ++ (resources / Path.ofText (c.fileName platform)).parts := by
  rw [Order.destination, Path.location_join _ hlib.leaves_fileName,
    Path.location_join _ leaves_resources,
    Path.join_of_relative _ (Path.anchor_of_inside hlib.leaves_fileName), List.append_assoc]

theorem child_resources (hslash : '/' ∉ c.libName.display) :
    (o.output / resources : Path).child (c.fileName platform) = o.destination c platform := by
  rw [Order.destination, Crate.ofText_fileName hslash, Path.join_of_relative (_ / _) rfl]
  rfl

/-- The library is never where it is bundled: the directories that they are in have different
names. -/
theorem location_artifact_ne (hlib : c.HasPlainLibrary platform) :
    (c.artifact platform).location ≠ (o.destination c platform).location := by
  have hparts : (resources / Path.ofText (c.fileName platform)).parts =
      [("src" : Text), "main"] ++ [("resources" : Text)] ++ [c.fileName platform] := by
    rw [Crate.ofText_fileName hlib.slash, Path.join_of_relative _ rfl]
    rfl
  have hname : c.fileName platform ≠ ['.', '.'] := Native.fileName_ne_dots platform c.libName
  have hdots : ['.', '.'] ∉ [("target" : Text), "release", c.fileName platform] := by
    simp [hname.symm]
  rw [location_destination hlib, hparts, Path.location, hlib.parts_artifact, walk_append,
    walk_of_not_mem hdots]
  intro heq
  have hsplit : walk [] c.dir.parts ++ [("target" : Text)] ++ [("release" : Text)] ++
      [c.fileName platform] =
        o.output.location ++ [("src" : Text), "main"] ++ [("resources" : Text)] ++
          [c.fileName platform] := by
    simpa using heq
  have hlast := congrArg List.getLast? (List.append_cancel_right hsplit)
  rw [List.getLast?_concat, List.getLast?_concat] at hlast
  exact absurd (Option.some.inj hlast) (by decide)

end Project

end CrateScaffold
