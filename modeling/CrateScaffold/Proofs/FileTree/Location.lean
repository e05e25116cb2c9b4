import CrateScaffold.FileTree.Access
import CrateScaffold.Proofs.FileTree.PathOrder

/-!
Where paths lead, and what making and writing leave as it was. A path that can be followed leads
where its text says, so paths with different components below one directory lead to different
places; and whatever is made or written, the directories that are there stay, and so do all entries
at other places.
-/

namespace CrateScaffold

def walk (d : Location) : List Text → Location
  | [] => d
  | c :: cs => if c = ['.', '.'] then walk d.dropLast cs else walk (d ++ [c]) cs

def Path.location (p : Path) : Location := walk [] p.parts

theorem walk_append (d : Location) (cs ds : List Text) :
    walk d (cs ++ ds) = walk (walk d cs) ds := by
  induction cs generalizing d with
  | nil => rfl
  | cons c cs ih =>
    by_cases hc : c = ['.', '.']
    · simp [walk, hc, ih]
    · simp [walk, hc, ih]

theorem walk_of_not_mem {d : Location} {cs : List Text} (h : ['.', '.'] ∉ cs) :
    walk d cs = d ++ cs := by
  induction cs generalizing d with
  | nil => simp [walk]
  | cons c cs ih =>
    have hc : c ≠ ['.', '.'] := fun he => h (he ▸ List.mem_cons_self)
    have hrest : ['.', '.'] ∉ cs := fun hm => h (List.mem_cons_of_mem c hm)
    rw [walk, if_neg hc, ih hrest]
    simp

theorem length_walk_le (d : Location) (cs : List Text) :
    (walk d cs).length ≤ d.length + cs.length := by
  induction cs generalizing d with
  | nil => exact le_rfl
  | cons c cs ih =>
    by_cases hc : c = ['.', '.']
    · have hrest := ih d.dropLast
      rw [List.length_dropLast] at hrest
      rw [walk, if_pos hc, List.length_cons]
      omega
    · have hrest := ih (d ++ [c])
      rw [List.length_append, List.length_singleton] at hrest
      rw [walk, if_neg hc, List.length_cons]
      omega

theorem Path.length_location_le (p : Path) :
    p.location.length ≤ p.parent.location.length + 1 := by
  rw [location, location, parent]
  by_cases hnil : p.parts = []
  · simp [hnil, walk]
  · have hstep := length_walk_le (walk [] p.parts.dropLast) [p.parts.getLast hnil]
    rwa [← walk_append, List.dropLast_append_getLast hnil] at hstep

theorem Path.location_join (p : Path) {q : Path} (hq : q.leaves = false) :
    (p / q).location = p.location ++ q.parts := by
  have hjoin : (p / q).parts = p.parts ++ q.parts := by
    change (if q.isAbsolute = true then q else _).parts = _
    rw [if_neg (by simp [isAbsolute, anchor_of_inside hq])]
  rw [location, hjoin, walk_append, walk_of_not_mem (dots_not_mem_of_inside hq)]
  rfl

theorem Path.location_join_injective (p : Path) {q r : Path} (hq : q.leaves = false)
    (hr : r.leaves = false) (h : (p / q).location = (p / r).location) : q = r := by
  rw [location_join p hq, location_join p hr] at h
  exact eq_of_parts hq hr (List.append_cancel_left h)

namespace FileTree

variable {t t' : FileTree} {d l m : Location} {cs : List Text} {e : Option Entry} {x : Entry}
variable {p : Path} {content : Bytes} {k up : List Text} {a : Anchor}

/-- What is not a directory was looked up at its own location. -/
theorem follow_eq_ok (h : t.follow d cs = .ok (l, e)) :
    l = walk d cs ∧ (e ≠ some .dir → l ≠ [] ∧ t.at? l = e) := by
  fun_induction follow t d cs with
  | case1 d =>
    cases h
    exact ⟨rfl, fun hne => absurd rfl hne⟩
  | case2 d cs ih => simpa [walk] using ih h
  | case3 => cases h
  | case4 d c hc hlen cs hd ih => simpa [walk, hc] using ih h
  | case5 d c hc hlen hd =>
    cases h
    refine ⟨by simp [walk, hc], fun _ => ⟨by simp, rfl⟩⟩
  | case6 => cases h
  | case7 => cases h

/-- What was looked up stays found where directories stay and its own entry is what it is. -/
theorem follow_eq_ok_of_dirs (hd : ∀ m, t.at? m = some .dir → t'.at? m = some .dir)
    (h : t.follow d cs = .ok (l, e)) (he : e ≠ some .dir) (hx : t'.at? l = some x) :
    t'.follow d cs = .ok (l, some x) := by
  fun_induction follow t d cs with
  | case1 d =>
    cases h
    exact absurd rfl he
  | case2 d cs ih =>
    rw [follow.eq_def]
    exact ih h
  | case3 => cases h
  | case4 d c hc hlen cs hdir ih =>
    rw [follow.eq_def]
    simp only [if_neg hc, if_neg hlen, hd _ hdir]
    exact ih h
  | case5 d c hc hlen hdir =>
    cases h
    rw [follow.eq_def]
    simp only [if_neg hc, if_neg hlen, hx]
    cases x with
    | dir => rfl
    | file => rfl
  | case6 => cases h
  | case7 => cases h

theorem locate_eq_ok (h : t.locate p = .ok (l, e)) :
    l = p.location ∧ (e ≠ some .dir → l ≠ [] ∧ t.at? l = e) := by
  unfold locate at h
  split at h
  · cases h
  · cases hf : t.follow [] p.parts with
    | error cause =>
      rw [hf] at h
      cases h
    | ok found =>
      rw [hf] at h
      cases h
      exact follow_eq_ok hf

theorem locate_eq_ok_of_dirs (hd : ∀ m, t.at? m = some .dir → t'.at? m = some .dir)
    (h : t.locate p = .ok (l, e)) (he : e ≠ some .dir) (hx : t'.at? l = some x) :
    t'.locate p = .ok (l, some x) := by
  unfold locate at h ⊢
  split at h
  · cases h
  · next hnull =>
    rw [if_neg hnull]
    cases hf : t.follow [] p.parts with
    | error cause =>
      rw [hf] at h
      cases h
    | ok found =>
      rw [hf] at h
      cases h
      rw [follow_eq_ok_of_dirs hd hf he hx]
      rfl

structure Preserves (l : Location) (t t' : FileTree) : Prop where
  dirs : ∀ m, t.at? m = some .dir → t'.at? m = some .dir
  entry : ∀ x, t.at? l = some x → t'.at? l = some x

theorem Preserves.rfl : Preserves l t t := ⟨fun _ h => h, fun _ h => h⟩

theorem Preserves.trans {t'' : FileTree} (h : Preserves l t t') (h' : Preserves l t' t'') :
    Preserves l t t'' :=
  ⟨fun m hm => h'.dirs m (h.dirs m hm), fun x hx => h'.entry x (h.entry x hx)⟩

/-- Nothing is lost by an entry at a place where there is no directory. -/
theorem preserves_put (hdir : t.at? m ≠ some .dir) (hl : t.at? l = none ∨ m ≠ l) :
    Preserves l t (t.put m x) where
  dirs := by
    intro n hn
    have hne : n ≠ m := by
      rintro rfl
      exact hdir hn
    rw [at?_put_of_ne t x hne, hn]
  entry := by
    intro y hy
    have hne : l ≠ m := by
      rintro rfl
      rcases hl with hnone | hne
      · rw [hnone] at hy
        cases hy
      · exact hne rfl
    rw [at?_put_of_ne t x hne, hy]

theorem preserves_put_of_none (hm : t.at? m = none) : Preserves l t (t.put m x) := by
  refine preserves_put (by simp [hm]) ?_
  by_cases h : m = l
  · exact .inl (h ▸ hm)
  · exact .inr h

/-- A directory is made only where nothing was. -/
theorem makeDir_eq_ok (h : t.makeDir p = .ok t') :
    t.at? p.location = none ∧ t' = t.put p.location .dir := by
  unfold makeDir at h
  cases hloc : t.locate p with
  | error f =>
    rw [hloc] at h
    cases h
  | ok found =>
    obtain ⟨l, e⟩ := found
    rw [hloc] at h
    obtain ⟨rfl, hat⟩ := locate_eq_ok hloc
    cases e with
    | none =>
      cases h
      exact ⟨(hat (by simp)).2, rfl⟩
    | some x => cases h

theorem preserves_makeDir (h : t.makeDir p = .ok t') : Preserves l t t' := by
  obtain ⟨hnone, rfl⟩ := makeDir_eq_ok h
  exact preserves_put_of_none hnone

/-- What holds of each directory that is made and goes from step to step holds of all of them. -/
theorem makeDirsUp_induction {R : FileTree → FileTree → Prop} (hrefl : ∀ t, R t t)
    (htrans : ∀ {t t' t''}, R t t' → R t' t'' → R t t'')
    (hstep : ∀ {k t t'}, k <+: up.reverse → t.makeDir ⟨a, k⟩ = .ok t' → R t t') (t : FileTree) :
    R t (makeDirsUp a up t).2 := by
  induction up generalizing t with
  | nil =>
    unfold makeDirsUp
    split
    · next hmade => exact hstep List.nil_prefix hmade
    · exact hrefl t
  | cons c up ih =>
    have hlast : (c :: up).reverse <+: (c :: up).reverse := List.prefix_refl _
    have habove := ih (t := t) fun hk hmade =>
      hstep (hk.trans (by rw [List.reverse_cons]; exact List.prefix_append _ _)) hmade
    unfold makeDirsUp
    simp only
    split
    · next hmade => exact hstep hlast hmade
    · split
      · next hfail =>
        rw [hfail] at habove
        exact habove
      · next hok =>
        rw [hok] at habove
        split
        · next hmade => exact htrans habove (hstep hlast hmade)
        · exact habove
        · exact habove
    · exact hrefl t
    · exact hrefl t

theorem preserves_makeDirs (t : FileTree) (p : Path) : Preserves l t (t.makeDirs p).2 :=
  makeDirsUp_induction (R := Preserves l) (fun _ => .rfl) Preserves.trans
    (fun _ hmade => preserves_makeDir hmade) t

def isExecutable (t : FileTree) (l : Location) : Bool :=
  match t.at? l with
  | some (.file _ executable) => executable
  | _ => false

/-- A file is written only where a file or nothing was. -/
theorem write_eq_ok (h : t.write p content = .ok t') :
    ∃ e, t.locate p = .ok (p.location, e) ∧ e ≠ some .dir ∧ p.location ≠ [] ∧
      t.at? p.location ≠ some .dir ∧
      t' = t.put p.location (.file content (t.isExecutable p.location)) := by
  unfold write at h
  cases hloc : t.locate p with
  | error f =>
    rw [hloc] at h
    cases h
  | ok found =>
    obtain ⟨l, e⟩ := found
    rw [hloc] at h
    obtain ⟨rfl, hat⟩ := locate_eq_ok hloc
    cases e with
    | none =>
      cases h
      obtain ⟨hne, hnone⟩ := hat (by simp)
      exact ⟨none, rfl, by simp, hne, by simp [hnone], by simp [isExecutable, hnone]⟩
    | some x =>
      cases x with
      | dir => cases h
      | file old executable =>
        cases h
        obtain ⟨hne, hfile⟩ := hat (by simp)
        exact ⟨_, rfl, by simp, hne, by simp [hfile], by simp [isExecutable, hfile]⟩

theorem preserves_write (h : t.write p content = .ok t') (hl : p.location ≠ l) :
    Preserves l t t' := by
  obtain ⟨e, -, -, -, hdir, rfl⟩ := write_eq_ok h
  exact preserves_put hdir (.inr hl)

/-- A permission changes nothing but the entry of its file, and not its content. -/
theorem makeExecutable_eq_ok (h : t.makeExecutable p = .ok t') : t' = t ∨
    ∃ old executable, p.location ≠ [] ∧ t.at? p.location = some (.file old executable) ∧
      t' = t.put p.location (.file old true) := by
  unfold makeExecutable at h
  cases hloc : t.locate p with
  | error f =>
    rw [hloc] at h
    cases h
  | ok found =>
    obtain ⟨l, e⟩ := found
    rw [hloc] at h
    obtain ⟨rfl, hat⟩ := locate_eq_ok hloc
    cases e with
    | none => cases h
    | some x =>
      cases x with
      | dir =>
        cases h
        exact .inl rfl
      | file old executable =>
        cases h
        obtain ⟨hne, hfile⟩ := hat (by simp)
        exact .inr ⟨old, executable, hne, hfile, rfl⟩

def HoldsFile (t : FileTree) (p : Path) (content : Bytes) : Prop :=
  p.location ≠ [] ∧ ∃ executable, t.at? p.location = some (.file content executable) ∧
    t.locate p = .ok (p.location, some (.file content executable))

theorem HoldsFile.read_eq (h : t.HoldsFile p content) : t.read p = .ok content := by
  obtain ⟨-, executable, -, hloc⟩ := h
  unfold read stat
  rw [hloc]
  rfl

theorem HoldsFile.of_preserves (h : t.HoldsFile p content) (ht : Preserves p.location t t') :
    t'.HoldsFile p content := by
  obtain ⟨hne, executable, hat, hloc⟩ := h
  have hat' := ht.entry _ hat
  exact ⟨hne, executable, hat', locate_eq_ok_of_dirs ht.dirs hloc (by simp) hat'⟩

theorem holdsFile_put {executable : Bool} (hloc : t.locate p = .ok (p.location, e))
    (he : e ≠ some .dir) :
    (t.put p.location (.file content executable)).HoldsFile p content := by
  obtain ⟨hne, hentry⟩ := (locate_eq_ok hloc).2 he
  have hat := at?_put_self t (.file content executable) hne
  have hd := (preserves_put (l := []) (x := .file content executable) (hentry ▸ he) (.inr hne)).dirs
  exact ⟨hne, _, hat, locate_eq_ok_of_dirs hd hloc he hat⟩

theorem holdsFile_write (h : t.write p content = .ok t') : t'.HoldsFile p content := by
  obtain ⟨e, hloc, he, -, -, rfl⟩ := write_eq_ok h
  exact holdsFile_put hloc he

theorem HoldsFile.makeExecutable_eq (h : t.HoldsFile p content) :
    t.makeExecutable p = .ok (t.put p.location (.file content true)) := by
  obtain ⟨-, executable, -, hloc⟩ := h
  rw [makeExecutable, hloc]
  rfl

theorem HoldsFile.of_makeExecutable (h : t.HoldsFile p content)
    (ht : t.makeExecutable p = .ok t') : t'.HoldsFile p content := by
  obtain ⟨hne, executable, hat, hloc⟩ := h
  rcases makeExecutable_eq_ok ht with rfl | ⟨old, was, -, hfile, rfl⟩
  · exact ⟨hne, executable, hat, hloc⟩
  · have hold : old = content := by
      rw [hat] at hfile
      cases hfile
      rfl
    subst hold
    have hat' := at?_put_self t (.file old true) hne
    have hdir : t.at? p.location ≠ some .dir := by simp [hat]
    have hd := (preserves_put (l := []) (x := .file old true) hdir (.inr hne)).dirs
    exact ⟨hne, true, hat', locate_eq_ok_of_dirs hd hloc (by simp) hat'⟩

end FileTree

end CrateScaffold
