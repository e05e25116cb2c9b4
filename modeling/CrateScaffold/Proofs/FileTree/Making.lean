import CrateScaffold.Proofs.FileTree.Location

/-!
Making directories. When it succeeds, the directory and all above it are there; whether it does or
not, directories were made only on the way to it, where nothing was, and nothing else has changed.
-/

namespace CrateScaffold.FileTree

variable {t t' t'' : FileTree} {d l m : Location} {cs k up : List Text} {e : Option Entry}
variable {x : Entry} {p : Path} {a : Anchor} {P Q : Prop}

theorem stat_eq_ok_iff : t.stat p = .ok x ↔ t.locate p = .ok (p.location, some x) := by
  unfold stat
  cases hloc : t.locate p with
  | error f => simp [Bind.bind, Except.bind]
  | ok found =>
    obtain ⟨l, e⟩ := found
    obtain ⟨rfl, -⟩ := locate_eq_ok hloc
    cases e with
    | none => simp [Bind.bind, Except.bind]
    | some y => simp [Bind.bind, Except.bind, pure, Except.pure]

theorem HoldsFile.stat_eq {content : Bytes} (h : t.HoldsFile p content)
    (hx : t.at? p.location = some x) : t.stat p = .ok x := by
  obtain ⟨-, executable, hat, hloc⟩ := h
  rw [stat_eq_ok_iff, hloc, ← hat, hx]

theorem isDir_eq_true_iff : t.isDir p = .ok true ↔ t.stat p = .ok .dir := by
  unfold isDir look
  cases hs : t.stat p with
  | ok y => cases y <;> simp [Except.map]
  | error f =>
    cases f with
    | null => simp [Except.map]
    | system c q => cases c <;> simp [Except.map]

theorem follow_dir_of_dirs (hd : ∀ m, t.at? m = some .dir → t'.at? m = some .dir)
    (h : t.follow d cs = .ok (l, some .dir)) : t'.follow d cs = .ok (l, some .dir) := by
  fun_induction follow t d cs with
  | case1 d => exact h
  | case2 d cs ih =>
    rw [follow.eq_def]
    exact ih h
  | case3 => cases h
  | case4 d c hc hlen cs hdir ih =>
    rw [follow.eq_def]
    simp only [if_neg hc, if_neg hlen, hd _ hdir]
    exact ih h
  | case5 d c hc hlen hdir => exact absurd (Prod.mk.inj (Except.ok.inj h)).2 hdir
  | case6 => cases h
  | case7 => cases h

/-- A directory is still found where all directories stay. -/
theorem stat_dir_of_dirs (hd : ∀ m, t.at? m = some .dir → t'.at? m = some .dir)
    (h : t.stat p = .ok .dir) : t'.stat p = .ok .dir := by
  rw [stat_eq_ok_iff, locate] at h ⊢
  split at h
  · cases h
  · next hnull =>
    rw [if_neg hnull]
    cases hf : t.follow [] p.parts with
    | error cause =>
      rw [hf] at h
      cases h
    | ok found =>
      rw [hf] at h
      cases h
      rw [follow_dir_of_dirs hd hf]
      rfl

/-- A directory is reached through directories. -/
theorem at?_of_follow_dir (hdots : ['.', '.'] ∉ cs) (hd : t.at? d = some .dir)
    (h : t.follow d cs = .ok (l, some .dir)) (hk : k <+: cs) : t.at? (d ++ k) = some .dir := by
  fun_induction follow t d cs generalizing k with
  | case1 d =>
    rw [List.prefix_nil.1 hk, List.append_nil]
    exact hd
  | case2 d cs ih => exact absurd List.mem_cons_self hdots
  | case3 => cases h
  | case4 d c hc hlen cs hdir ih =>
    cases k with
    | nil => rwa [List.append_nil]
    | cons b k =>
      obtain ⟨rfl, htail⟩ := List.cons_prefix_cons.1 hk
      have hrest := ih (fun hm => hdots (List.mem_cons_of_mem b hm)) hdir h htail
      rwa [List.append_assoc] at hrest
  | case5 d c hc hlen hdir => exact absurd (Prod.mk.inj (Except.ok.inj h)).2 hdir
  | case6 => cases h
  | case7 => cases h

theorem at?_of_stat_dir (hdots : ['.', '.'] ∉ p.parts) (h : t.stat p = .ok .dir)
    (hm : m <+: p.parts) : t.at? m = some .dir := by
  rw [stat_eq_ok_iff, locate] at h
  split at h
  · cases h
  · cases hf : t.follow [] p.parts with
    | error cause =>
      rw [hf] at h
      cases h
    | ok found =>
      rw [hf] at h
      cases h
      exact at?_of_follow_dir hdots (by simp [at?]) hf hm

theorem follow_dropLast {c : Text} (h : t.follow d (cs ++ [c]) = .ok (l, e)) :
    ∃ m, t.follow d cs = .ok (m, some .dir) := by
  induction cs generalizing d with
  | nil => exact ⟨d, follow.eq_1 t d⟩
  | cons b cs ih =>
    rw [List.cons_append, follow.eq_def] at h
    rw [follow.eq_def]
    simp only at h ⊢
    split at h
    · next hb =>
      rw [if_pos hb]
      exact ih h
    · next hb =>
      rw [if_neg hb]
      split at h
      · cases h
      · next hlen =>
        rw [if_neg hlen]
        split at h
        · next hdir =>
          simp only [hdir]
          exact ih h
        · next heq _ => simp at heq
        · cases h
        · cases h

/-- What is found is found in a directory. -/
theorem stat_parent (h : t.stat p = .ok x) (hx : x ≠ .dir) : t.stat p.parent = .ok .dir := by
  rw [stat_eq_ok_iff] at h
  have hne : p.parts ≠ [] := by
    intro hnil
    obtain ⟨-, hat⟩ := locate_eq_ok h
    exact (hat (by simpa using hx)).1 (by rw [Path.location, hnil, walk])
  rw [locate] at h
  split at h
  · cases h
  · next hnull =>
    cases hf : t.follow [] p.parts with
    | error cause =>
      rw [hf] at h
      cases h
    | ok found =>
      rw [← List.dropLast_append_getLast hne] at hf
      obtain ⟨m, hm⟩ := follow_dropLast hf
      have hnull' : ¬ hasNull p.parent = true := by
        intro hany
        obtain ⟨c, hc, hin⟩ := List.any_eq_true.1 hany
        exact hnull (List.any_eq_true.2 ⟨c, List.dropLast_subset _ hc, hin⟩)
      have hloc : t.locate p.parent = .ok (m, some .dir) := by
        rw [locate, if_neg hnull', Path.parent, hm]
        rfl
      rw [stat_eq_ok_iff, hloc, (locate_eq_ok hloc).1]

theorem follow_append {ds : List Text} (h : t.follow d cs = .ok (l, some .dir)) :
    t.follow d (cs ++ ds) = t.follow l ds := by
  fun_induction follow t d cs with
  | case1 d =>
    cases h
    rfl
  | case2 d cs ih =>
    rw [List.cons_append, follow.eq_def]
    exact ih h
  | case3 => cases h
  | case4 d c hc hlen cs hdir ih =>
    rw [List.cons_append, follow.eq_def]
    simp only [if_neg hc, if_neg hlen, hdir]
    exact ih h
  | case5 d c hc hlen hdir => exact absurd (Prod.mk.inj (Except.ok.inj h)).2 hdir
  | case6 => cases h
  | case7 => cases h

theorem follow_singleton {c : Text} (hdots : c ≠ ['.', '.'])
    (hlen : ¬ 255 < (Utf8.encode c).length) :
    t.follow d [c] = .ok (d ++ [c], t.at? (d ++ [c])) := by
  rw [follow.eq_def]
  simp only [if_neg hdots, if_neg hlen]
  split
  · next hdir => rw [hdir, follow]
  · rfl
  · next heq => cases heq
  · next heq => cases heq

/-- In a directory a name leads to what is there, if it can be a name. -/
theorem locate_child {c : Text} (h : t.stat p = .ok .dir) (hdots : c ≠ ['.', '.'])
    (hlen : ¬ 255 < (Utf8.encode c).length) (hnull : '\x00' ∉ c) :
    t.locate (p.child c) = .ok (p.location ++ [c], t.at? (p.location ++ [c])) := by
  rw [stat_eq_ok_iff, locate] at h
  split at h
  · cases h
  · next hp =>
    have hno : ¬ hasNull (p.child c) = true := by
      simp only [hasNull, Path.child, List.any_append, Bool.or_eq_true, not_or]
      exact ⟨hp, by simpa using hnull⟩
    cases hf : t.follow [] p.parts with
    | error cause =>
      rw [hf] at h
      cases h
    | ok found =>
      rw [hf] at h
      cases h
      rw [locate, if_neg hno, Path.child, follow_append hf, follow_singleton hdots hlen]
      rfl

theorem unlessDir_eq_ok {f : Fault} {v : Unit} (h : t.unlessDir p f = .ok v) :
    t.stat p = .ok .dir := by
  unfold unlessDir at h
  split at h
  · next hdir => exact isDir_eq_true_iff.1 hdir
  · cases h

theorem unlessDir_of_stat (f : Fault) (h : t.stat p = .ok .dir) : t.unlessDir p f = .ok () := by
  rw [unlessDir, isDir_eq_true_iff.2 h]

theorem unlessDir_of_ne {f : Fault} (h : t.stat p ≠ .ok .dir) : t.unlessDir p f = .error f := by
  unfold unlessDir
  split
  · next hdir => exact absurd (isDir_eq_true_iff.1 hdir) h
  · rfl

theorem stat_makeDir (h : t.makeDir p = .ok t') : t'.stat p = .ok .dir := by
  unfold makeDir at h
  cases hloc : t.locate p with
  | error f =>
    rw [hloc] at h
    cases h
  | ok found =>
    obtain ⟨l, e⟩ := found
    rw [hloc] at h
    obtain ⟨rfl, hat⟩ := locate_eq_ok hloc
    cases e with
    | some x => cases h
    | none =>
      cases h
      obtain ⟨hne, hnone⟩ := hat (by simp)
      rw [stat_eq_ok_iff]
      exact locate_eq_ok_of_dirs (preserves_put_of_none (l := []) hnone).dirs hloc (by simp)
        (at?_put_self t _ hne)

theorem makeDir_of_stat (h : t.stat p = .ok .dir) :
    t.makeDir p = .error (.system .present p) := by
  rw [makeDir, stat_eq_ok_iff.1 h]
  rfl

/-- A directory that was made is there. -/
theorem stat_makeDirsUp {v : Unit} (h : makeDirsUp a up t = (.ok v, t')) :
    t'.stat ⟨a, up.reverse⟩ = .ok .dir := by
  cases up with
  | nil =>
    unfold makeDirsUp at h
    split at h
    · next hmade =>
      cases h
      exact stat_makeDir hmade
    · obtain ⟨hdir, rfl⟩ := Prod.mk.inj h
      exact unlessDir_eq_ok hdir
  | cons c up =>
    unfold makeDirsUp at h
    simp only at h
    split at h
    · next hmade =>
      cases h
      exact stat_makeDir hmade
    · split at h
      · cases h
      · split at h
        · next hmade =>
          cases h
          exact stat_makeDir hmade
        · cases h
        · obtain ⟨hdir, rfl⟩ := Prod.mk.inj h
          exact unlessDir_eq_ok hdir
    · cases h
    · obtain ⟨hdir, rfl⟩ := Prod.mk.inj h
      exact unlessDir_eq_ok hdir

theorem stat_makeDirs {v : Unit} (h : t.makeDirs p = (.ok v, t')) : t'.stat p = .ok .dir := by
  have hmade := stat_makeDirsUp h
  rwa [List.reverse_reverse] at hmade

/-- Where a directory is, none is made. -/
theorem makeDirs_of_stat (h : t.stat p = .ok .dir) : t.makeDirs p = (.ok (), t) := by
  obtain ⟨a, cs⟩ := p
  obtain ⟨up, rfl⟩ : ∃ up, cs = List.reverse up := ⟨cs.reverse, by simp⟩
  unfold makeDirs
  simp only [List.reverse_reverse]
  cases up with
  | nil =>
    rw [List.reverse_nil] at h
    rw [makeDirsUp, makeDir_of_stat h]
    exact congrArg (·, t) (unlessDir_of_stat _ h)
  | cons c up =>
    unfold makeDirsUp
    simp only
    rw [makeDir_of_stat h]
    exact congrArg (·, t) (unlessDir_of_stat _ h)

/-- What is at a location stays, but where nothing is a directory may come to be, and that only if
`P` holds. -/
def Kept (P : Prop) (m : Location) (t t' : FileTree) : Prop :=
  t'.at? m = t.at? m ∨ P ∧ t.at? m = none ∧ t'.at? m = some .dir

theorem Kept.rfl : Kept P m t t := .inl (Eq.refl _)

theorem Kept.trans (h : Kept P m t t') (h' : Kept P m t' t'') : Kept P m t t'' := by
  rcases h with hsame | ⟨hm, hnone, hdir⟩
  · rw [Kept, ← hsame]
    exact h'
  · rcases h' with hsame | ⟨-, hnone', -⟩
    · exact .inr ⟨hm, hnone, hsame.trans hdir⟩
    · rw [hdir] at hnone'
      cases hnone'

theorem Kept.mono (h : Kept P m t t') (hPQ : P → Q) : Kept Q m t t' :=
  h.imp_right fun hm => ⟨hPQ hm.1, hm.2⟩

theorem Kept.isExecutable_eq (h : Kept P m t t') : t'.isExecutable m = t.isExecutable m := by
  rcases h with hsame | ⟨-, hnone, hdir⟩
  · rw [isExecutable, hsame, isExecutable]
  · rw [isExecutable, hdir, isExecutable, hnone]

theorem kept_makeDir (h : t.makeDir p = .ok t') (m : Location) :
    Kept (m = p.location) m t t' := by
  obtain ⟨hnone, rfl⟩ := makeDir_eq_ok h
  have hne : p.location ≠ [] := by
    intro he
    rw [he] at hnone
    simp [at?] at hnone
  by_cases hm : m = p.location
  · subst hm
    exact .inr ⟨Eq.refl _, hnone, at?_put_self t _ hne⟩
  · exact .inl (at?_put_of_ne t _ hm)

theorem kept_makeDirs (t : FileTree) (hdots : ['.', '.'] ∉ p.parts) (m : Location) :
    Kept (m <+: p.parts) m t (t.makeDirs p).2 := by
  refine makeDirsUp_induction (R := Kept (m <+: p.parts) m) (fun _ => .rfl) Kept.trans ?_ t
  intro k t t' hk hmade
  rw [List.reverse_reverse] at hk
  refine (kept_makeDir hmade m).mono fun hm => ?_
  have hloc : (Path.mk p.anchor k).location = k := walk_of_not_mem fun h => hdots (hk.subset h)
  rwa [hm, hloc]

theorem isFile_of_read {content : Bytes} (h : t.read p = .ok content) : t.isFile p = true := by
  rw [read] at h
  cases hs : t.stat p with
  | error f =>
    rw [hs] at h
    cases h
  | ok x =>
    rw [hs] at h
    cases x with
    | dir => cases h
    | file => rw [isFile, hs]

theorem write_of_stat {content : Bytes} {executable : Bool}
    (h : t.stat p = .ok (.file content executable)) : t.write p content = .ok t := by
  have hloc := stat_eq_ok_iff.1 h
  obtain ⟨hne, hat⟩ := (locate_eq_ok hloc).2 (by simp)
  rw [write, hloc]
  exact congrArg Except.ok (put_eq_self (by rwa [at?, if_neg hne] at hat))

theorem makeExecutable_of_stat {content : Bytes} (h : t.stat p = .ok (.file content true)) :
    t.makeExecutable p = .ok t := by
  have hloc := stat_eq_ok_iff.1 h
  obtain ⟨hne, hat⟩ := (locate_eq_ok hloc).2 (by simp)
  rw [makeExecutable, hloc]
  exact congrArg Except.ok (put_eq_self (by rwa [at?, if_neg hne] at hat))

end CrateScaffold.FileTree
