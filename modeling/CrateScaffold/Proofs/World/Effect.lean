import CrateScaffold.World
import Mathlib.Data.List.Forall2

/-!
What sequences of readings and of actions come to, step by step, and what a whole action leaves as
it was. A reading never changes the tree or the calls of the build tool, whether it fails or not.
-/

namespace CrateScaffold

theorem mapError_eq_ok {ε ε' α : Type} {x : Except ε α} {f : ε → ε'} {a : α} :
    x.mapError f = .ok a ↔ x = .ok a := by
  cases x <;> simp [Except.mapError]

theorem mapError_eq_error {ε ε' α : Type} {x : Except ε α} {f : ε → ε'} {e : ε'} :
    x.mapError f = .error e ↔ ∃ e', x = .error e' ∧ f e' = e := by
  cases x <;> simp [Except.mapError]

theorem ok_bind {ε α β : Type} (a : α) (f : α → Except ε β) :
    (Except.ok a : Except ε α) >>= f = f a := rfl

theorem bind_eq_ok {ε α β : Type} {x : Except ε α} {f : α → Except ε β} {b : β} :
    x >>= f = .ok b ↔ ∃ a, x = .ok a ∧ f a = .ok b := by
  cases x with
  | error e => simp [Bind.bind, Except.bind]
  | ok a => simp [Bind.bind, Except.bind]

theorem bind_eq_error {ε α β : Type} {x : Except ε α} {f : α → Except ε β} {e : ε} :
    x >>= f = .error e ↔ x = .error e ∨ ∃ a, x = .ok a ∧ f a = .error e := by
  cases x with
  | error e => simp [Bind.bind, Except.bind]
  | ok a => simp [Bind.bind, Except.bind]

theorem exists_of_map_eq_ok {ε α β : Type} {x : Except ε α} {f : α → β} {b : β}
    (h : x.map f = .ok b) : ∃ a, x = .ok a ∧ f a = b := by
  cases x with
  | error e => cases h
  | ok a => exact ⟨a, rfl, Except.ok.inj h⟩

theorem map_eq_error {ε α β : Type} {x : Except ε α} {f : α → β} {e : ε} :
    x.map f = .error e ↔ x = .error e := by
  cases x <;> simp [Except.map]

theorem bind_congr_of_ok {ε α β : Type} {x : Except ε α} {f g : α → Except ε β}
    (h : ∀ a, x = .ok a → f a = g a) : x >>= f = x >>= g := by
  cases x with
  | error e => rfl
  | ok a => exact h a rfl

theorem isOk_iff {ε α : Type} {x : Except ε α} : x.isOk = true ↔ ∃ a, x = .ok a := by
  cases x <;> simp [Except.isOk, Except.toBool]

@[simp] theorem isOk_map {ε α β : Type} (x : Except ε α) (f : α → β) :
    (x.map f).isOk = x.isOk := by
  cases x <;> rfl

/-- All elements are taken just when each of them is. -/
theorem isOk_mapM {ε α β : Type} {f : α → Except ε β} {xs : List α} :
    (xs.mapM f).isOk = true ↔ ∀ x ∈ xs, (f x).isOk = true := by
  induction xs with
  | nil => simp [pure, Except.pure, Except.isOk, Except.toBool]
  | cons x xs ih =>
    rw [List.mapM_cons, List.forall_mem_cons, ← ih]
    cases f x with
    | error e => simp [Bind.bind, Except.bind, Except.isOk, Except.toBool]
    | ok y =>
      cases xs.mapM f with
      | error e => simp [Bind.bind, Except.bind, Except.isOk, Except.toBool]
      | ok ys => simp [Bind.bind, Except.bind, pure, Except.pure, Except.isOk, Except.toBool]

theorem isOk_bind {ε α β : Type} {x : Except ε α} {f : α → Except ε β} :
    (x >>= f).isOk = true ↔ ∃ a, x = .ok a ∧ (f a).isOk = true := by
  cases x with
  | error e => simp [Bind.bind, Except.bind, Except.isOk, Except.toBool]
  | ok a => simp [Bind.bind, Except.bind]

theorem exists_of_mapM_eq_ok {ε α β : Type} {f : α → Except ε β} {xs : List α} {ys : List β} {y : β}
    (h : xs.mapM f = .ok ys) (hy : y ∈ ys) : ∃ x ∈ xs, f x = .ok y := by
  induction xs generalizing ys with
  | nil =>
    cases h
    cases hy
  | cons x xs ih =>
    rw [List.mapM_cons] at h
    obtain ⟨z, hz, h⟩ := bind_eq_ok.1 h
    obtain ⟨zs, hzs, h⟩ := bind_eq_ok.1 h
    cases h
    rcases List.mem_cons.1 hy with rfl | hy
    · exact ⟨x, List.mem_cons_self, hz⟩
    · obtain ⟨x', hx', hfx⟩ := ih hzs hy
      exact ⟨x', List.mem_cons_of_mem x hx', hfx⟩

/-- Whatever is on the one side has its partner on the other. -/
theorem exists_of_forall₂ {α β : Type} {R : α → β → Prop} {xs : List α} {ys : List β} {x : α}
    (h : List.Forall₂ R xs ys) (hx : x ∈ xs) : ∃ y ∈ ys, R x y := by
  induction h with
  | nil => cases hx
  | @cons z y xs ys hz hrest ih =>
    rcases List.mem_cons.1 hx with rfl | hx
    · exact ⟨y, List.mem_cons_self, hz⟩
    · obtain ⟨y', hy', hxy⟩ := ih hx
      exact ⟨y', List.mem_cons_of_mem y hy', hxy⟩

namespace Reading

variable {α β γ : Type} {s : Site}

theorem bind_pure_right (m : Reading α) : bind m pure = m := by
  funext s
  rcases hm : m s with ⟨records, e | a⟩ <;> simp [bind, hm, pure_apply]

theorem bind_pure_left (a : α) (f : α → Reading β) : bind (pure a) f = f a := by
  funext s
  simp [bind, pure_apply]

theorem bind_assoc (m : Reading α) (f : α → Reading β) (g : β → Reading γ) :
    bind (bind m f) g = bind m fun a => bind (f a) g := by
  funext s
  rcases hm : m s with ⟨records, e | a⟩
  · simp [bind, hm]
  · rcases hf : f a s with ⟨more, e | b⟩ <;> simp [bind, hm, hf]

instance : LawfulMonad Reading :=
  LawfulMonad.mk' Reading bind_pure_right bind_pure_left bind_assoc

@[simp] theorem snd_pure (a : α) : ((pure a : Reading α) s).2 = .ok a := rfl

@[simp] theorem snd_fail (e : Failure) : ((fail e : Reading α) s).2 = .error e := rfl

@[simp] theorem snd_ofExcept (x : Except Failure α) : (ofExcept x s).2 = x := rfl

@[simp] theorem snd_ofTree (f : FileTree → Except Failure α) : (ofTree f s).2 = f s.files := rfl

@[simp] theorem snd_ofSite (f : Site → Except Failure α) : (ofSite f s).2 = f s := rfl

@[simp] theorem snd_platform : (platform s).2 = .ok s.platform := rfl

@[simp] theorem snd_log (level : Level) (message : Text) : (log level message s).2 = .ok () := rfl

theorem snd_bind (m : Reading α) (f : α → Reading β) :
    ((m >>= f) s).2 = (m s).2 >>= fun a => (f a s).2 := by
  rw [bind_apply]
  rcases hm : m s with ⟨records, e | a⟩ <;> simp [bind, hm, Bind.bind, Except.bind]

theorem apply_bind_of_ok {m : Reading α} {f : α → Reading β} {a : α} {records : List Record}
    (h : m s = (records, .ok a)) : (m >>= f) s = (records ++ (f a s).1, (f a s).2) := by
  rw [bind_apply]
  simp [bind, h]

theorem apply_bind_congr {m : Reading α} {f g : α → Reading β}
    (h : ∀ a, (m s).2 = .ok a → f a s = g a s) : (m >>= f) s = (m >>= g) s := by
  rw [bind_apply, bind_apply]
  rcases hm : m s with ⟨records, e | a⟩
  · simp [bind, hm]
  · simp [bind, hm, h a (by rw [hm])]

theorem apply_bind_ofSite_congr {x y : Site → Except Failure α} {f g : α → Reading β}
    (hx : x s = y s) (h : ∀ a, x s = .ok a → f a s = g a s) :
    (ofSite x >>= f) s = (ofSite y >>= g) s := by
  have hxy : ofSite x s = ofSite y s := congrArg (([], ·)) hx
  rw [bind_apply, bind_apply, bind, bind, ← hxy]
  rcases hm : ofSite x s with ⟨records, e | a⟩
  · rfl
  · simp only [h a (congrArg Prod.snd hm)]

theorem ofTree_eq_of_trees {f : FileTree → Except Failure α} {s' : Site}
    (h : f s'.files = f s.files) : ofTree f s' = ofTree f s :=
  congrArg (([], ·)) h

theorem bind_eq_of_sites {m : Reading α} {f : α → Reading β} {s' : Site} (hm : m s' = m s)
    (hf : ∀ a, f a s' = f a s) : (m >>= f) s' = (m >>= f) s := by
  rw [bind_apply, bind_apply, bind, bind, hm]
  simp only [hf]

theorem snd_bind_eq_ok {m : Reading α} {f : α → Reading β} {b : β} :
    ((m >>= f) s).2 = .ok b ↔ ∃ a, (m s).2 = .ok a ∧ (f a s).2 = .ok b := by
  rw [snd_bind, bind_eq_ok]

theorem snd_bind_eq_error {m : Reading α} {f : α → Reading β} {e : Failure} :
    ((m >>= f) s).2 = .error e ↔
      (m s).2 = .error e ∨ ∃ a, (m s).2 = .ok a ∧ (f a s).2 = .error e := by
  rw [snd_bind, bind_eq_error]

/-- Asking one source after the other finds something just when all of them do. -/
theorem snd_mapM_eq_ok {f : α → Reading β} {xs : List α} {ys : List β} :
    ((xs.mapM f) s).2 = .ok ys ↔ List.Forall₂ (fun x y => (f x s).2 = .ok y) xs ys := by
  induction xs generalizing ys with
  | nil =>
    rw [List.mapM_nil, snd_pure]
    constructor
    · intro h
      cases h
      exact .nil
    · intro h
      cases h
      rfl
  | cons x xs ih =>
    rw [List.mapM_cons, snd_bind_eq_ok]
    constructor
    · rintro ⟨y, hy, hrest⟩
      obtain ⟨zs, hzs, hpure⟩ := snd_bind_eq_ok.1 hrest
      cases hpure
      exact .cons hy (ih.1 hzs)
    · intro h
      cases h with
      | cons hy hys => exact ⟨_, hy, snd_bind_eq_ok.2 ⟨_, ih.2 hys, rfl⟩⟩

end Reading

theorem run_bind {ε α β : Type} {h : Host} {w : World}
    (a : ReaderT Host (ExceptT ε (StateM World)) α)
    (f : α → ReaderT Host (ExceptT ε (StateM World)) β) :
    (a >>= f) h w = match a h w with
      | (.ok x, v) => f x h v
      | (.error y, v) => (.error y, v) := by
  simp only [bind, ReaderT.bind, ExceptT.bind, ExceptT.mk, StateT.bind, ExceptT.bindCont]
  rcases a h w with ⟨y | x, v⟩ <;> rfl

/-- The tree is the same, and the build tool was not called in between. -/
structure World.SameTree (w w' : World) : Prop where
  files : w'.files = w.files
  calls : w'.calls = w.calls

theorem World.SameTree.rfl {w : World} : w.SameTree w := ⟨Eq.refl _, Eq.refl _⟩

theorem World.SameTree.trans {u v w : World} (h : u.SameTree v) (h' : v.SameTree w) :
    u.SameTree w :=
  ⟨h'.files.trans h.files, h'.calls.trans h.calls⟩

structure World.SameRest (w w' : World) : Prop where
  registry : w'.registry = w.registry
  calls : w'.calls = w.calls
  printed : w'.printed = w.printed

theorem World.SameRest.rfl {w : World} : w.SameRest w := ⟨Eq.refl _, Eq.refl _, Eq.refl _⟩

theorem World.SameRest.trans {u v w : World} (h : u.SameRest v) (h' : v.SameRest w) :
    u.SameRest w :=
  ⟨h'.registry.trans h.registry, h'.calls.trans h.calls, h'.printed.trans h.printed⟩

namespace Action

variable {α β : Type} {h : Host} {w w' w'' : World} {a : Action α} {f : α → Action β}
variable {x : α} {y : β} {e : Failure}

@[simp] theorem exec_pure (x : α) : (pure x : Action α).exec h w = (.ok x, w) := rfl

@[simp] theorem exec_throw (e : Failure) : (throw e : Action α).exec h w = (.error e, w) := rfl

@[simp] theorem exec_get : (get : Action World).exec h w = (.ok w, w) := rfl

@[simp] theorem exec_read : (read : Action Host).exec h w = (.ok h, w) := rfl

@[simp] theorem exec_log (level : Level) (message : Text) : (log level message).exec h w =
    (.ok (), { w with records := w.records ++ [⟨level, message⟩] }) := rfl

@[simp] theorem exec_attempt : a.attempt.exec h w = (.ok (a.exec h w).1, (a.exec h w).2) := rfl

theorem exec_reading (m : Reading α) : (reading m).exec h w =
    ((m ⟨w.files, h.platform, h.engine⟩).2,
      { w with records := w.records ++ (m ⟨w.files, h.platform, h.engine⟩).1 }) := rfl

theorem exec_bind_of_ok (ha : a.exec h w = (.ok x, w')) :
    (a >>= f).exec h w = (f x).exec h w' := by
  change a h w = _ at ha
  rw [exec, run_bind, ha]
  rfl

theorem exec_bind_of_error (ha : a.exec h w = (.error e, w')) :
    (a >>= f).exec h w = (.error e, w') := by
  change a h w = _ at ha
  rw [exec, run_bind, ha]

/-- A sequence succeeds just when both parts do, one after the other. -/
theorem exec_bind_eq_ok : (a >>= f).exec h w = (.ok y, w'') ↔
    ∃ x w', a.exec h w = (.ok x, w') ∧ (f x).exec h w' = (.ok y, w'') := by
  rcases ha : a.exec h w with ⟨e | x, w'⟩
  · simp [exec_bind_of_error ha]
  · rw [exec_bind_of_ok ha]
    constructor
    · intro hf
      exact ⟨x, w', rfl, hf⟩
    · rintro ⟨x', v, hx, hf⟩
      cases hx
      exact hf

theorem fst_bind_eq_ok : ((a >>= f).exec h w).1 = .ok y ↔
    ∃ x, (a.exec h w).1 = .ok x ∧ ((f x).exec h (a.exec h w).2).1 = .ok y := by
  rcases ha : a.exec h w with ⟨e | x, w'⟩
  · simp [exec_bind_of_error ha]
  · simp [exec_bind_of_ok ha]

theorem fst_bind_of_ok (ha : (a.exec h w).1 = .ok x) :
    ((a >>= f).exec h w).1 = ((f x).exec h (a.exec h w).2).1 := by
  rw [exec_bind_of_ok (Prod.ext ha rfl)]

theorem fst_bind_of_error (ha : (a.exec h w).1 = .error e) :
    ((a >>= f).exec h w).1 = .error e := by
  rw [exec_bind_of_error (Prod.ext ha rfl)]

theorem exec_forM_log (level : Level) (message : β → Text) (xs : List β) :
    (xs.forM fun x => log level (message x)).exec h w =
      (.ok (), { w with records := w.records ++ xs.map fun x => ⟨level, message x⟩ }) := by
  induction xs generalizing w with
  | nil => simp [List.forM]
  | cons x xs ih =>
    change (log level (message x) >>= fun _ => xs.forM fun x => log level (message x)).exec h w = _
    rw [exec_bind_of_ok (exec_log level (message x)), ih]
    simp

/-- Whatever the host and the world, and be there a failure or not, the world before and the one
after are related. -/
def Keeps (R : World → World → Prop) (a : Action α) : Prop := ∀ h w, R w (a.exec h w).2

variable {R : World → World → Prop}

theorem Keeps.of_exec {r : Except Failure α} (ha : a.Keeps R) (hrun : a.exec h w = (r, w')) :
    R w w' := by
  have hw := ha h w
  rwa [hrun] at hw

theorem Keeps.bind (hR : ∀ {u v w}, R u v → R v w → R u w) (ha : a.Keeps R)
    (hf : ∀ x, (f x).Keeps R) : (a >>= f).Keeps R := by
  intro h w
  have hw := ha h w
  rcases hrun : a.exec h w with ⟨e | x, v⟩
  · rw [exec_bind_of_error hrun]
    rwa [hrun] at hw
  · rw [exec_bind_of_ok hrun]
    rw [hrun] at hw
    exact hR hw (hf x h v)

theorem keeps_pure (x : α) : (pure x : Action α).Keeps World.SameTree :=
  fun _ _ => .rfl

theorem keeps_reading (m : Reading α) : (reading m).Keeps World.SameTree := by
  intro h w
  rw [exec_reading]
  exact ⟨rfl, rfl⟩

theorem sameRest_change (f : FileTree → Except FileTree.Fault FileTree) :
    (change f).Keeps World.SameRest := by
  intro h w
  unfold exec change
  cases f w.files with
  | error e => exact .rfl
  | ok t => exact ⟨rfl, rfl, rfl⟩

theorem keeps_loadPlugins : loadPlugins.Keeps World.SameTree :=
  fun _ _ => ⟨rfl, rfl⟩

inductive Writes : {α : Type} → Action α → Prop
  | pure {α : Type} (x : α) : Writes (pure x)
  | bind {α β : Type} {a : Action α} {f : α → Action β} (ha : Writes a)
      (hf : ∀ x, Writes (f x)) : Writes (a >>= f)
  | makeDirs (p : Path) : Writes (makeDirs p)
  | change (f : FileTree → Except FileTree.Fault FileTree) : Writes (change f)
  | log (level : Level) (message : Text) : Writes (log level message)

theorem Writes.sameRest (ha : a.Writes) : a.Keeps World.SameRest := by
  induction ha with
  | pure x => exact fun _ _ => .rfl
  | bind _ _ iha ihf => exact Keeps.bind World.SameRest.trans iha ihf
  | makeDirs p => exact fun _ _ => ⟨rfl, rfl, rfl⟩
  | change f => exact sameRest_change f
  | log level message => exact fun _ _ => ⟨rfl, rfl, rfl⟩

/-- What an action that writes comes to, and the tree that it leaves, depend on nothing but the
tree. -/
theorem Writes.depends (ha : a.Writes) (h h' : Host) (hw : w'.files = w.files) :
    (a.exec h' w').1 = (a.exec h w).1 ∧ (a.exec h' w').2.files = (a.exec h w).2.files := by
  induction ha generalizing w w' with
  | pure x => exact ⟨rfl, hw⟩
  | @bind _ _ a f _ _ iha ihf =>
    obtain ⟨hfst, hfiles⟩ := iha hw
    rcases hrun : a.exec h w with ⟨e | x, v⟩
    · rw [hrun] at hfst hfiles
      have hrun' : a.exec h' w' = (.error e, (a.exec h' w').2) := Prod.ext hfst rfl
      rw [exec_bind_of_error hrun, exec_bind_of_error hrun']
      exact ⟨rfl, hfiles⟩
    · rw [hrun] at hfst hfiles
      have hrun' : a.exec h' w' = (.ok x, (a.exec h' w').2) := Prod.ext hfst rfl
      rw [exec_bind_of_ok hrun, exec_bind_of_ok hrun']
      exact ihf x hfiles
  | makeDirs p =>
    unfold exec Action.makeDirs
    rw [hw]
    exact ⟨rfl, rfl⟩
  | change f =>
    unfold exec Action.change
    rw [hw]
    cases f w.files with
    | error e => exact ⟨rfl, hw⟩
    | ok t => exact ⟨rfl, rfl⟩
  | log level message => exact ⟨rfl, hw⟩

end Action

end CrateScaffold
