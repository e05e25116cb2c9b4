import CrateScaffold.Proofs.FileTree.Difference
import CrateScaffold.Proofs.World.Effect

/-!
Runs in two worlds whose trees differ at one location. A run that does not look there comes to the
same in both, and leaves worlds that differ there and nowhere else.
-/

namespace CrateScaffold

/-- Worlds whose trees differ at one location, and nothing else. -/
structure World.DiffersAt (m : Location) (e e' : Option Entry) (w w' : World) : Prop where
  files : w.files.DiffersAt m e e' w'.files
  registry : w'.registry = w.registry
  records : w'.records = w.records
  calls : w'.calls = w.calls
  printed : w'.printed = w.printed

structure EndsAlike {ε α : Type} (m : Location) (e e' : Option Entry)
    (r r' : Except ε α × World) : Prop where
  outcome : r'.1 = r.1
  worlds : r.2.DiffersAt m e e' r'.2

variable {ε α β : Type} {m : Location} {e e' : Option Entry} {w w' : World} {h : Host}
variable {p : Path} {content : Bytes}

theorem World.DiffersAt.endsAlike (hw : w.DiffersAt m e e' w') (x : Except ε α) :
    EndsAlike m e e' (x, w) (x, w') :=
  ⟨rfl, hw⟩

theorem World.DiffersAt.withFiles {t t' : FileTree} (hw : w.DiffersAt m e e' w')
    (ht : t.DiffersAt m e e' t') :
    World.DiffersAt m e e' { w with files := t } { w' with files := t' } :=
  ⟨ht, hw.registry, hw.records, hw.calls, hw.printed⟩

theorem World.DiffersAt.withRecords (hw : w.DiffersAt m e e' w') (records : List Record) :
    World.DiffersAt m e e' { w with records := w.records ++ records }
      { w' with records := w'.records ++ records } :=
  ⟨hw.files, hw.registry, congrArg (· ++ records) hw.records, hw.calls, hw.printed⟩

/-- A sequence ends alike when its first part does and what follows does in the worlds after it. -/
theorem endsAlike_bind {a : ReaderT Host (ExceptT ε (StateM World)) α}
    {f : α → ReaderT Host (ExceptT ε (StateM World)) β}
    (ha : EndsAlike m e e' (a h w) (a h w'))
    (hf : ∀ x v v', a h w = (.ok x, v) → v.DiffersAt m e e' v' →
      EndsAlike m e e' (f x h v) (f x h v')) :
    EndsAlike m e e' ((a >>= f) h w) ((a >>= f) h w') := by
  rw [run_bind, run_bind]
  rcases hrun : a h w with ⟨x, v⟩
  rcases hrun' : a h w' with ⟨x', v'⟩
  obtain ⟨rfl, hworlds⟩ : x' = x ∧ v.DiffersAt m e e' v' := by
    rw [hrun, hrun'] at ha
    exact ⟨ha.outcome, ha.worlds⟩
  cases x' with
  | error y => exact hworlds.endsAlike _
  | ok x => exact hf x v v' hrun hworlds

namespace Action

theorem endsAlike_log (hw : w.DiffersAt m e e' w') (level : Level) (message : Text) :
    EndsAlike m e e' ((log level message) h w) ((log level message) h w') :=
  (hw.withRecords [⟨level, message⟩]).endsAlike (.ok ())

theorem endsAlike_print (hw : w.DiffersAt m e e' w') (s : Text) :
    EndsAlike m e e' ((print s) h w) ((print s) h w') :=
  ⟨rfl, hw.files, hw.registry, hw.records, hw.calls, congrArg (· ++ s) hw.printed⟩

theorem endsAlike_reading {r : Reading α} (hw : w.DiffersAt m e e' w')
    (hr : r ⟨w'.files, h.platform, h.engine⟩ = r ⟨w.files, h.platform, h.engine⟩) :
    EndsAlike m e e' ((reading r) h w) ((reading r) h w') := by
  change EndsAlike m e e' ((reading r).exec h w) ((reading r).exec h w')
  rw [exec_reading, exec_reading, hr]
  exact (hw.withRecords _).endsAlike _

theorem endsAlike_makeDirs (hw : w.DiffersAt m e e' w')
    (hway : p.Passes m → e ≠ none ∧ e' ≠ none) :
    EndsAlike m e e' ((makeDirs p) h w) ((makeDirs p) h w') := by
  obtain ⟨hfst, hfiles⟩ := hw.files.makeDirs_eq hway
  exact ⟨congrArg (·.mapError Failure.files) hfst, hw.withFiles hfiles⟩

theorem endsAlike_write (hw : w.DiffersAt m e e' w')
    (hway : p.Passes m → e ≠ none ∧ e' ≠ none) (hp : p.location ≠ m) :
    EndsAlike m e e' ((change (·.write p content)) h w) ((change (·.write p content)) h w') := by
  unfold change
  simp only
  rcases hw.files.write_cases hway hp content with
    ⟨f, hf, hf'⟩ | ⟨t, t', ht, ht', hfiles⟩
  · simp only [hf, hf']
    exact hw.endsAlike _
  · simp only [ht, ht']
    exact (hw.withFiles hfiles).endsAlike _

end Action

end CrateScaffold
