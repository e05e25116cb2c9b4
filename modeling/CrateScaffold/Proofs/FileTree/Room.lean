import CrateScaffold.Proofs.FileTree.Apart

/-!
Where there is room for a file. A directory can be made wherever no file is on the way, and a file
can be written wherever no directory is; so a file has room just when neither is so. Two files are
never there at once when one of them is where the other one needs a directory.
-/

namespace CrateScaffold

namespace Path

variable {p q : Path}

/-- The other path leads, by its text, through this one: its components are these and more. -/
structure IsAbove (p q : Path) : Prop where
  anchor : p.anchor = q.anchor
  below : p.parts <+: q.parts
  strict : p.parts ≠ q.parts

theorem IsAbove.head?_eq (h : p.IsAbove q) (hp : p.parts ≠ []) : p.parts.head? = q.parts.head? := by
  obtain ⟨cs, hcs⟩ := h.below
  rw [← hcs, List.head?_append_of_ne_nil _ hp]

theorem child_induction {P : Path → Prop} (root : ∀ a, P ⟨a, []⟩)
    (child : ∀ p c, P p → P (p.child c)) (p : Path) : P p := by
  obtain ⟨a, cs⟩ := p
  induction cs using List.reverseRec with
  | nil => exact root a
  | append_singleton cs c ih => exact child ⟨a, cs⟩ c ih

@[simp] theorem parent_child (p : Path) (c : Text) : (p.child c).parent = p := by
  simp [child, parent]

end Path

namespace FileTree

variable {t t' : FileTree} {d l m : Location} {cs up : List Text} {r : Location × Option Entry}
variable {p q output : Path} {a : Anchor} {content content' : Bytes}

/-- What is reached through components is reached through directories. -/
theorem follow_of_append {ds : List Text} (h : t.follow d (cs ++ ds) = .ok r) (hds : ds ≠ []) :
    ∃ m, t.follow d cs = .ok (m, some .dir) := by
  induction ds using List.reverseRec generalizing r with
  | nil => exact absurd rfl hds
  | append_singleton ds c ih =>
    rw [← List.append_assoc] at h
    obtain ⟨m, hm⟩ := follow_dropLast h
    by_cases hnil : ds = []
    · subst hnil
      rw [List.append_nil] at hm
      exact ⟨m, hm⟩
    · exact ih hm hnil

theorem follow_of_locate (h : t.locate p = .ok r) :
    hasNull p = false ∧ t.follow [] p.parts = .ok r := by
  unfold locate at h
  split at h
  · cases h
  · next hnull =>
    refine ⟨Bool.not_eq_true _ ▸ hnull, ?_⟩
    cases hf : t.follow [] p.parts with
    | error cause =>
      rw [hf] at h
      cases h
    | ok found =>
      rw [hf] at h
      cases h
      rfl

/-- A file is no directory of another one. -/
theorem HoldsFile.not_isAbove (hp : t.HoldsFile p content) (hq : t.HoldsFile q content') :
    ¬ p.IsAbove q := by
  intro habove
  obtain ⟨cs, hcs⟩ := habove.below
  have hne : cs ≠ [] := by
    rintro rfl
    exact habove.strict (by simpa using hcs)
  obtain ⟨-, _, -, hlocp⟩ := hp
  obtain ⟨-, _, -, hlocq⟩ := hq
  obtain ⟨-, hfollowp⟩ := follow_of_locate hlocp
  obtain ⟨-, hfollowq⟩ := follow_of_locate hlocq
  rw [← hcs] at hfollowq
  obtain ⟨m, hm⟩ := follow_of_append hfollowq hne
  rw [hfollowp] at hm
  cases hm

/-- Each component can be the name of a file. -/
structure HasNames (p : Path) : Prop where
  short : HasShortNames p
  null : hasNull p = false

theorem HoldsFile.hasNames (h : t.HoldsFile p content) : HasNames p := by
  obtain ⟨-, _, -, hloc⟩ := h
  obtain ⟨hnull, -⟩ := follow_of_locate hloc
  exact ⟨hasShortNames_of_stat (stat_eq_ok_iff.2 hloc), hnull⟩

theorem HasNames.of_subset (h : HasNames p) (hsub : q.parts ⊆ p.parts) : HasNames q := by
  refine ⟨fun c hc => h.short c (hsub hc), ?_⟩
  rw [hasNull, List.any_eq_false]
  exact fun c hc => List.any_eq_false.1 h.null c (hsub hc)

def IsOpen (t : FileTree) (l : Location) : Prop :=
  ∀ m, m <+: l → t.at? m = none ∨ t.at? m = some .dir

theorem IsOpen.of_isPrefix (h : t.IsOpen l) (hm : m <+: l) : t.IsOpen m :=
  fun k hk => h k (hk.trans hm)

/-- Where no file is on the way, only something that is not there can be in it. -/
theorem follow_of_open (hdots : ['.', '.'] ∉ cs) (hlen : ∀ c ∈ cs, ¬ 255 < (Utf8.encode c).length)
    (hopen : t.IsOpen (d ++ cs)) :
    t.follow d cs = .error .absent ∨ ∃ e, (e = none ∨ e = some .dir) ∧
      t.follow d cs = .ok (d ++ cs, e) := by
  induction cs generalizing d with
  | nil => exact .inr ⟨some .dir, .inr rfl, by simp [follow]⟩
  | cons c cs ih =>
    have hc : c ≠ ['.', '.'] := fun he => hdots (he ▸ List.mem_cons_self)
    have happend : d ++ c :: cs = d ++ [c] ++ cs := by simp
    rw [happend] at hopen ⊢
    rw [follow.eq_def]
    simp only [if_neg hc, if_neg (hlen c List.mem_cons_self)]
    rcases hopen (d ++ [c]) (List.prefix_append _ _) with hnone | hdir
    · rw [hnone]
      cases cs with
      | nil => exact .inr ⟨none, .inl rfl, by simp⟩
      | cons b cs => exact .inl rfl
    · rw [hdir]
      exact ih (fun hm => hdots (List.mem_cons_of_mem c hm))
        (fun b hb => hlen b (List.mem_cons_of_mem c hb)) hopen

/-- Where no file is on the way, a directory is there, can be made, or lacks the one above it. -/
theorem makeDir_of_open (hdots : ['.', '.'] ∉ p.parts) (hn : HasNames p)
    (hopen : t.IsOpen p.parts) : t.stat p = .ok .dir ∨ (∃ t', t.makeDir p = .ok t') ∨
      t.makeDir p = .error (.system .absent p) := by
  have hloc : t.locate p = (t.follow [] p.parts).mapError (.system · p) := by
    rw [locate, hn.null]
    rfl
  rcases follow_of_open (d := []) hdots hn.short hopen with habsent | ⟨e, rfl | rfl, hfollow⟩
  · rw [habsent] at hloc
    exact .inr (.inr (by rw [makeDir, hloc]; rfl))
  · rw [hfollow] at hloc
    exact .inr (.inl ⟨_, by rw [makeDir, hloc]; rfl⟩)
  · rw [hfollow] at hloc
    exact .inl (by rw [stat, hloc]; rfl)

theorem locate_of_stat_parent {c : Text} (hstat : t.stat p = .ok .dir)
    (hdots : ['.', '.'] ∉ (p.child c).parts) (hn : HasNames (p.child c)) :
    t.locate (p.child c) = .ok ((p.child c).parts, t.at? (p.child c).parts) := by
  have hmem : c ∈ (p.child c).parts := List.mem_append_right _ List.mem_cons_self
  have hc : c ≠ ['.', '.'] := fun he => hdots (he ▸ hmem)
  have hp : ['.', '.'] ∉ p.parts := fun hm => hdots (List.mem_append_left _ hm)
  have hnull : '\x00' ∉ c := by simpa using List.any_eq_false.1 hn.null c hmem
  rw [locate_child hstat hc (hn.short c hmem) hnull, Path.location_of_plain hp]
  rfl

theorem makeDirs_child (t : FileTree) (p : Path) (c : Text) : t.makeDirs (p.child c) =
    match t.makeDir (p.child c) with
    | .ok t' => (.ok (), t')
    | .error (.system .absent _) =>
      match t.makeDirs p with
      | (.error f, t') => (.error f, t')
      | (.ok _, t') =>
        match t'.makeDir (p.child c) with
        | .ok t'' => (.ok (), t'')
        | .error (.system .absent q) => (.error (.system .absent q), t')
        | .error f => (t'.unlessDir (p.child c) f, t')
    | .error .null => (.error .null, t)
    | .error f => (t.unlessDir (p.child c) f, t) := by
  have hup : (p.child c).parts.reverse = c :: p.parts.reverse := by simp [Path.child]
  have hpath : (⟨(p.child c).anchor, (c :: p.parts.reverse).reverse⟩ : Path) = p.child c := by
    simp [Path.child]
  rw [makeDirs, hup, makeDirsUp]
  simp only [hpath]
  rfl

/-- Where no file is on the way, all directories can be made. -/
theorem makeDirs_of_open (hdots : ['.', '.'] ∉ p.parts) (hn : HasNames p)
    (hopen : t.IsOpen p.parts) : ∃ t', t.makeDirs p = (.ok (), t') := by
  induction p using Path.child_induction with
  | root a => exact ⟨t, makeDirs_of_stat rfl⟩
  | child p c ih =>
    have hpre : p.parts <+: (p.child c).parts := List.prefix_append _ _
    have hdots' : ['.', '.'] ∉ p.parts := fun hm => hdots (hpre.subset hm)
    have hstep := makeDirs_child t p c
    rcases makeDir_of_open hdots hn hopen with hstat | ⟨t', hmade⟩ | habsent
    · exact ⟨t, makeDirs_of_stat hstat⟩
    · rw [hmade] at hstep
      exact ⟨t', hstep⟩
    · obtain ⟨t', habove⟩ := ih hdots' (hn.of_subset hpre.subset) (hopen.of_isPrefix hpre)
      -- The directory above is there now, and still no file is where this one is to be.
      have hkept := kept_makeDirs t hdots' (p.child c).parts
      rw [habove] at hkept
      have hat : t'.at? (p.child c).parts = none ∨ t'.at? (p.child c).parts = some .dir := by
        rcases hkept with hsame | ⟨-, -, hdir⟩
        · rw [hsame]
          exact hopen _ (List.prefix_refl _)
        · exact .inr hdir
      have hloc := locate_of_stat_parent (stat_makeDirs habove) hdots hn
      rw [habsent, habove] at hstep
      dsimp only at hstep
      rcases hat with hnone | hdir
      · have hmade : t'.makeDir (p.child c) = .ok (t'.put (p.child c).parts .dir) := by
          rw [makeDir, hloc, hnone]
          rfl
        rw [hmade] at hstep
        exact ⟨_, hstep⟩
      · have hstat : t'.stat (p.child c) = .ok .dir := by
          rw [stat, hloc, hdir]
          rfl
        rw [makeDir_of_stat hstat] at hstep
        exact ⟨t', hstep.trans (congrArg (·, t') (unlessDir_of_stat _ hstat))⟩

theorem at?_makeDirs_parent (t : FileTree) (hdots : ['.', '.'] ∉ p.parent.parts)
    (hne : p.parts ≠ []) : (t.makeDirs p.parent).2.at? p.parts = t.at? p.parts := by
  rcases kept_makeDirs t hdots p.parts with hsame | ⟨hpre, -⟩
  · exact hsame
  · have hlength := hpre.length_le
    have hpos := List.length_pos_of_ne_nil hne
    simp only [Path.parent, List.length_dropLast] at hlength
    omega

/-- In its directory a file can be written where no directory is. -/
theorem write_of_stat_parent (hstat : t.stat p.parent = .ok .dir) (hdots : ['.', '.'] ∉ p.parts)
    (hne : p.parts ≠ []) (hn : HasNames p) (hat : t.at? p.parts ≠ some .dir) :
    ∃ t', t.write p content = .ok t' := by
  induction p using Path.child_induction with
  | root a => exact absurd rfl hne
  | child p c ih =>
    rw [Path.parent_child] at hstat
    rw [write, locate_of_stat_parent hstat hdots hn]
    cases hx : t.at? (p.child c).parts with
    | none => exact ⟨_, rfl⟩
    | some x =>
      cases x with
      | dir => exact absurd hx hat
      | file => exact ⟨_, rfl⟩

end FileTree

end CrateScaffold
