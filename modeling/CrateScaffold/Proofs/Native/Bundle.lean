import CrateScaffold.Native.Bundle
import CrateScaffold.Proofs.FileTree.Apart
import CrateScaffold.Proofs.FileTree.PathText
import CrateScaffold.Proofs.Project.Writing

/-!
What a native build comes to. However the build tool ends, what it leaves behind replaces nothing at
other places; and the library is bundled just when it is there, with the bytes that it has.
-/

namespace CrateScaffold

def World.calling (w : World) (c : Call) : World := { w with calls := w.calls ++ [c] }

def Cargo.failure? (c : Cargo) (timeout : Int) : Option Failure :=
  if c.timesOut then some (.native (.timedOut timeout))
  else match Native.said c with
    | .error f => some f
    | .ok _ => if c.exitCode ≠ 0 then some (.native (.exited c.exitCode)) else none

namespace Action

variable {h : Host} {w : World} {α : Type} {l : Location}

@[simp] theorem exec_modify (f : World → World) :
    (modify f : Action Unit).exec h w = (.ok (), f w) := rfl

theorem exec_reading_ofTree (f : FileTree → Except Failure α) :
    (reading (.ofTree f)).exec h w = (f w.files, w) := by
  rw [exec_reading]
  simp [Reading.ofTree]

theorem exec_reading_ok (x : α) : (reading (.ofExcept (.ok x))).exec h w = (.ok x, w) := by
  rw [exec_reading]
  simp [Reading.ofExcept]

theorem exec_reading_error (f : Failure) :
    (reading (.ofExcept (.error f)) : Action α).exec h w = (.error f, w) := by
  rw [exec_reading]
  simp [Reading.ofExcept]

def PreservesAt (l : Location) (w w' : World) : Prop := w.files.Preserves l w'.files

theorem PreservesAt.trans {u v w : World} (h : PreservesAt l u v) (h' : PreservesAt l v w) :
    PreservesAt l u w :=
  FileTree.Preserves.trans h h'

theorem preservesAt_makeDirs (p : Path) : (makeDirs p).Keeps (PreservesAt l) :=
  fun _ w => FileTree.preserves_makeDirs w.files p

theorem preservesAt_write {p : Path} {content : Bytes} (hl : p.location ≠ l) :
    (change (·.write p content)).Keeps (PreservesAt l) := by
  intro h w
  unfold exec change
  simp only
  split
  · next t hw => exact FileTree.preserves_write hw hl
  · exact FileTree.Preserves.rfl

end Action

namespace Native

variable {h : Host} {w x : World} {cargo : Cargo} {es : List (Path × Entry)} {l : Location}
variable {platform : Text} {libName : Value} {target resources directory : Path} {timeout : Int}

theorem writes_produce (es : List (Path × Entry)) : (produce es).Writes := by
  fun_induction produce es with
  | case1 => exact .pure ()
  | case2 p es ih => exact .bind (.makeDirs _) fun _ => ih
  | case3 p content executable es ih =>
    exact .bind (.makeDirs _) fun _ => .bind (.change _) fun _ => ih

theorem produce_calling {t : FileTree} (es : List (Path × Entry)) (h : Host) (call : Call)
    (ht : w.files = t) :
    ((produce es).exec h (w.calling call)).1 = ((produce es).exec h (.ofFiles t)).1 ∧
      ((produce es).exec h (w.calling call)).2.files =
        ((produce es).exec h (.ofFiles t)).2.files := by
  subst ht
  exact (writes_produce es).depends h h rfl

/-- What the build tool leaves behind replaces nothing but files at its own places. -/
theorem preservesAt_produce
    (hl : ∀ p content executable, (p, .file content executable) ∈ es → p.location ≠ l) :
    (produce es).Keeps (Action.PreservesAt l) := by
  fun_induction produce es with
  | case1 => exact fun _ _ => .rfl
  | case2 p es ih =>
    refine Action.Keeps.bind Action.PreservesAt.trans (Action.preservesAt_makeDirs _) fun _ => ?_
    exact ih fun q c e hq => hl q c e (List.mem_cons_of_mem _ hq)
  | case3 p content executable es ih =>
    have hp : p.location ≠ l := hl p content executable List.mem_cons_self
    refine Action.Keeps.bind Action.PreservesAt.trans (Action.preservesAt_makeDirs _) fun _ => ?_
    refine Action.Keeps.bind Action.PreservesAt.trans (Action.preservesAt_write hp) fun _ => ?_
    exact ih fun q c e hq => hl q c e (List.mem_cons_of_mem _ hq)

theorem exec_build_of_none (hcargo : h.cargo = none) :
    (build directory timeout).exec h w = (.error (.native .noCargo), w) := by
  unfold build
  rw [Action.exec_bind_of_ok Action.exec_read]
  simp [hcargo]

/-- The build tool is called once, and the build fails just when it does. -/
theorem exec_build (hcargo : h.cargo = some cargo) (hinterrupted : cargo.interrupted = false)
    (hproduced : (produce cargo.produces).exec h (w.calling ⟨directory, timeout⟩) = (.ok (), x)) :
    ∃ records, (build directory timeout).exec h w =
      (match cargo.failure? timeout with
        | some f => .error f
        | none => .ok (), { x with records := records }) := by
  unfold build
  rw [Action.exec_bind_of_ok Action.exec_read]
  simp only [hcargo]
  rw [Action.exec_bind_of_ok (Action.exec_modify _)]
  change ∃ records, Action.exec _ h (w.calling ⟨directory, timeout⟩) = _
  rw [Action.exec_bind_of_ok hproduced, Cargo.failure?]
  split
  · exact ⟨x.records, rfl⟩
  · rw [hinterrupted, if_neg (by simp)]
    cases hsaid : said cargo with
    | error f =>
      rw [Action.exec_bind_of_error (Action.exec_reading_error f)]
      exact ⟨x.records, rfl⟩
    | ok errors =>
      rw [Action.exec_bind_of_ok (Action.exec_reading_ok errors),
        Action.exec_bind_of_ok (Action.exec_log _ _)]
      simp only
      split
      · rw [Action.exec_bind_of_ok (Action.exec_log _ _)]
        exact ⟨_, rfl⟩
      · exact ⟨_, rfl⟩

theorem target_of_stat {t : FileTree} {p q : Path} (hq : t.stat q ≠ .ok .dir) :
    t.target p q = q := by
  unfold FileTree.target
  split
  · next hdir => exact absurd (FileTree.isDir_eq_true_iff.1 hdir) hq
  · rfl

theorem isSame_of_location_ne {t : FileTree} {p q : Path} (hne : p.location ≠ q.location) :
    t.isSame p q = false := by
  unfold FileTree.isSame
  split
  · next l e m e' hp hq =>
    obtain ⟨rfl, -⟩ := FileTree.locate_eq_ok hp
    obtain ⟨rfl, -⟩ := FileTree.locate_eq_ok hq
    simpa using hne
  · rfl

theorem exec_reach_of_short {p : Path} (hp : isTooLong p = false) :
    (reach p).exec h w = (.ok (), w) := by
  unfold reach
  rw [hp, if_neg Bool.false_ne_true, Action.exec_reading_ok]

theorem exec_reach_of_long {p : Path} (hp : isTooLong p = true) :
    (reach p).exec h w = (.error (.files (.system .nameTooLong p)), w) := by
  unfold reach
  rw [hp, if_pos rfl, Action.exec_reading_error]

theorem eq_of_exec_reach {p : Path} {x : Unit} {w' : World}
    (h' : (reach p).exec h w = (.ok x, w')) : w' = w := by
  cases hp : isTooLong p with
  | true =>
    rw [exec_reach_of_long hp] at h'
    cases h'
  | false =>
    rw [exec_reach_of_short hp] at h'
    cases h'
    rfl

/-- The way into a directory is shorter than that to what is in it. -/
theorem isTooLong_of_child {p : Path} {name : Text} (hname : '\x00' ∉ name)
    (hp : isTooLong p = true) : isTooLong (p.child name) = true := by
  have hparts : p.parts ≠ [] := by
    intro hnil
    obtain ⟨a, cs⟩ := p
    cases hnil
    cases a <;> cases hp
  have hnull : FileTree.hasNull (p.child name) = FileTree.hasNull p := by
    simp [FileTree.hasNull, Path.child, hname]
  unfold isTooLong at hp ⊢
  rw [hnull, Path.text_child hparts, Utf8.encode, List.flatMap_append, List.length_append]
  simp only [Bool.and_eq_true, decide_eq_true_eq] at hp ⊢
  exact ⟨hp.1, hp.2.trans (Nat.le_add_right _ _)⟩

variable {content : Bytes} {executable : Bool} {e : Option Entry}

theorem exec_bundle_of_long
    (hlong : isTooLong (artifact target (fileName platform libName)) = true) :
    (bundle platform libName target resources).exec h w = (.error (.files
      (.system .nameTooLong (artifact target (fileName platform libName)))), w) := by
  unfold bundle
  simp only
  rw [Action.exec_bind_of_error (exec_reach_of_long hlong)]

/-- A library that is not there is not bundled. -/
theorem exec_bundle_of_absent
    (hway : isTooLong (artifact target (fileName platform libName)) = false)
    (hshort : FileTree.HasShortNames (artifact target (fileName platform libName)))
    (hnone : ∀ e, w.files.stat (artifact target (fileName platform libName)) ≠ .ok e) :
    (bundle platform libName target resources).exec h w =
      (.error (.native (.noArtifact (artifact target (fileName platform libName)))), w) := by
  have hstat : (w.files.stat (artifact target (fileName platform libName))).toOption = none := by
    cases hs : w.files.stat (artifact target (fileName platform libName)) with
    | error f => rfl
    | ok e => exact absurd hs (hnone e)
  have hholds : (Action.reading (.ofTree fun t => (t.holds (artifact target
      (fileName platform libName))).mapError .files)).exec h w = (.ok false, w) := by
    rw [Action.exec_reading_ofTree, FileTree.holds, hshort.look_eq, hstat]
    rfl
  unfold bundle
  simp only
  rw [Action.exec_bind_of_ok (exec_reach_of_short hway), Action.exec_bind_of_ok hholds]
  rfl

theorem exec_holds_of_file
    (hfile : w.files.stat (artifact target (fileName platform libName)) =
      .ok (.file content executable)) :
    (Action.reading (.ofTree fun t => (t.holds (artifact target
      (fileName platform libName))).mapError .files)).exec h w = (.ok true, w) := by
  rw [Action.exec_reading_ofTree, FileTree.holds, FileTree.look_of_stat hfile]
  rfl

/-- A library that is there stays where it is when the way to its place is too long. -/
theorem exec_bundle_of_far
    (hway : isTooLong (artifact target (fileName platform libName)) = false)
    (hfile : w.files.stat (artifact target (fileName platform libName)) =
      .ok (.file content executable))
    (hresources : w.files.stat resources = .ok .dir)
    (hlong : isTooLong (resources / Path.ofText (fileName platform libName)) = true) :
    ∃ p, (bundle platform libName target resources).exec h w =
      (.error (.files (.system .nameTooLong p)), w) := by
  unfold bundle
  simp only
  rw [Action.exec_bind_of_ok (exec_reach_of_short hway),
    Action.exec_bind_of_ok (exec_holds_of_file hfile), if_neg (by simp)]
  cases hres : isTooLong resources with
  | true => exact ⟨_, by rw [Action.exec_bind_of_error (exec_reach_of_long hres)]⟩
  | false =>
    rw [Action.exec_bind_of_ok (exec_reach_of_short hres),
      Action.exec_bind_of_ok (Action.exec_makeDirs_of_stat hresources)]
    exact ⟨_, by rw [Action.exec_bind_of_error (exec_reach_of_long hlong)]⟩

/-- A library that is there is copied, byte for byte, to its place in the resources. -/
theorem exec_bundle_of_file
    (hway : isTooLong (artifact target (fileName platform libName)) = false)
    (hnear : isTooLong resources = false)
    (hshort : isTooLong (resources / Path.ofText (fileName platform libName)) = false)
    (hfile : w.files.stat (artifact target (fileName platform libName)) =
      .ok (.file content executable))
    (hresources : w.files.stat resources = .ok .dir)
    (hplace : w.files.locate (resources / Path.ofText (fileName platform libName)) =
      .ok ((resources / Path.ofText (fileName platform libName)).location, e))
    (hdir : e ≠ some .dir)
    (hne : (artifact target (fileName platform libName)).location ≠
      (resources / Path.ofText (fileName platform libName)).location) :
    ∃ records, (bundle platform libName target resources).exec h w =
      (.ok (resources / Path.ofText (fileName platform libName)),
        { w with
          files := w.files.put (resources / Path.ofText (fileName platform libName)).location
            (.file content executable)
          records := records }) := by
  have htarget := target_of_stat (t := w.files)
    (p := artifact target (fileName platform libName))
    (q := resources / Path.ofText (fileName platform libName)) (by
      rw [Ne, FileTree.stat_eq_ok_iff, hplace]
      simpa using hdir)
  have hcopied : w.files.copy (artifact target (fileName platform libName))
      (resources / Path.ofText (fileName platform libName)) =
        .ok (w.files.put (resources / Path.ofText (fileName platform libName)).location
          (.file content executable)) := by
    rw [FileTree.copy, hfile]
    change (w.files.locate _ >>= _) = _
    rw [hplace]
    cases e with
    | none => rfl
    | some y =>
      cases y with
      | dir => exact absurd rfl hdir
      | file => rfl
  unfold bundle
  simp only
  rw [Action.exec_bind_of_ok (exec_reach_of_short hway),
    Action.exec_bind_of_ok (exec_holds_of_file hfile), if_neg (by simp),
    Action.exec_bind_of_ok (exec_reach_of_short hnear),
    Action.exec_bind_of_ok (Action.exec_makeDirs_of_stat hresources),
    Action.exec_bind_of_ok (exec_reach_of_short hshort),
    Action.exec_bind_of_ok Action.exec_get]
  simp only [htarget, isSame_of_location_ne hne]
  rw [Action.exec_bind_of_ok (exec_reach_of_short hshort), if_neg Bool.false_ne_true,
    Action.exec_bind_of_ok (Action.exec_change_of_ok hcopied)]
  exact ⟨_, rfl⟩

end Native

end CrateScaffold
