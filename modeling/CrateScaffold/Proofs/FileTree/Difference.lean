import CrateScaffold.Proofs.FileTree.Apart

/-!
Trees that differ at one location, where neither has a directory. Elsewhere the same is found in
both; and what is made or written elsewhere comes to the same in both, unless the way to it leads
through the location while only one of them has a file there.
-/

namespace CrateScaffold

def Path.Passes (p : Path) (m : Location) : Prop := ∃ k, k <+: p.parts ∧ walk [] k = m

theorem Path.passes_iff_of_plain {p : Path} {m : Location} (h : ['.', '.'] ∉ p.parts) :
    p.Passes m ↔ m <+: p.parts := by
  have hwalk : ∀ k, k <+: p.parts → walk [] k = k := fun k hk =>
    walk_of_not_mem fun hdots => h (hk.subset hdots)
  constructor
  · rintro ⟨k, hk, rfl⟩
    rwa [hwalk k hk]
  · intro hm
    exact ⟨m, hm, hwalk m hm⟩

namespace FileTree

variable {t t' : FileTree} {m l d : Location} {e e' : Option Entry} {x : Entry} {p : Path}
variable {cs up : List Text} {a : Anchor}

/-- The trees have `e` and `e'`, which are no directories, at the location, and differ nowhere
else. -/
structure DiffersAt (m : Location) (e e' : Option Entry) (t t' : FileTree) : Prop where
  elsewhere : ∀ l, l ≠ m → t'.at? l = t.at? l
  left : t.at? m = e
  right : t'.at? m = e'
  noDir : e ≠ some .dir
  noDir' : e' ≠ some .dir

theorem differsAt_put (hm : m ≠ []) (ht : t.at? m ≠ some .dir) (hx : x ≠ .dir) :
    DiffersAt m (t.at? m) (some x) t (t.put m x) where
  elsewhere _ hl := at?_put_of_ne t x hl
  left := rfl
  right := at?_put_self t x hm
  noDir := ht
  noDir' := by simpa using hx

namespace DiffersAt

theorem symm (h : DiffersAt m e e' t t') : DiffersAt m e' e t' t :=
  ⟨fun l hl => (h.elsewhere l hl).symm, h.right, h.left, h.noDir', h.noDir⟩

theorem ne_of_dir (h : DiffersAt m e e' t t') (hl : t.at? l = some .dir) : l ≠ m := by
  rintro rfl
  exact h.noDir (h.left.symm.trans hl)

theorem dirs (h : DiffersAt m e e' t t') : ∀ l, t.at? l = some .dir → t'.at? l = some .dir :=
  fun l hl => (h.elsewhere l (h.ne_of_dir hl)).trans hl

theorem stat_dir_iff (h : DiffersAt m e e' t t') : t'.stat p = .ok .dir ↔ t.stat p = .ok .dir :=
  ⟨stat_dir_of_dirs h.symm.dirs, stat_dir_of_dirs h.dirs⟩

theorem stat_iff (h : DiffersAt m e e' t t') (hp : p.location ≠ m) :
    t'.stat p = .ok x ↔ t.stat p = .ok x :=
  ⟨stat_of_at? h.symm.dirs (h.elsewhere _ hp).symm, stat_of_at? h.dirs (h.elsewhere _ hp)⟩

theorem toOption_stat (h : DiffersAt m e e' t t') (hp : p.location ≠ m) :
    (t'.stat p).toOption = (t.stat p).toOption :=
  toOption_eq_of_iff fun _ => h.stat_iff hp

theorem unlessDir_eq (h : DiffersAt m e e' t t') (p : Path) (f : Fault) :
    t'.unlessDir p f = t.unlessDir p f := by
  by_cases hdir : t.stat p = .ok .dir
  · rw [unlessDir_of_stat f hdir, unlessDir_of_stat f (h.stat_dir_iff.2 hdir)]
  · rw [unlessDir_of_ne hdir, unlessDir_of_ne fun hd => hdir (h.stat_dir_iff.1 hd)]

theorem put (h : DiffersAt m e e' t t') (hl : l ≠ m) (x : Entry) :
    DiffersAt m e e' (t.put l x) (t'.put l x) := by
  refine ⟨fun n hn => ?_, ?_, ?_, h.noDir, h.noDir'⟩
  · by_cases hnl : n = l
    · subst hnl
      by_cases hnil : n = []
      · simp [at?, hnil]
      · rw [at?_put_self t x hnil, at?_put_self t' x hnil]
    · rw [at?_put_of_ne t x hnl, at?_put_of_ne t' x hnl, h.elsewhere n hn]
  · rw [at?_put_of_ne t x hl.symm, h.left]
  · rw [at?_put_of_ne t' x hl.symm, h.right]

/-- Where the way leads through the location only if both trees have a file there, it ends in the
same manner: in the same place with the same entry, with the same fault, or at the two files. -/
theorem follow_eq_or (h : DiffersAt m e e' t t')
    (hway : ∀ k, k <+: cs → walk d k = m → e ≠ none ∧ e' ≠ none) :
    t'.follow d cs = t.follow d cs ∨
      ∃ x x', t.follow d cs = .ok (m, some x) ∧ t'.follow d cs = .ok (m, some x') := by
  fun_induction follow t d cs with
  | case1 d => exact .inl (by rw [follow])
  | case2 d cs ih =>
    have hrest := ih fun k hk hm => hway (['.', '.'] :: k) (List.cons_prefix_cons.2 ⟨rfl, hk⟩)
      (by simpa [walk] using hm)
    rw [follow.eq_def t']
    exact hrest
  | case3 d c cs hc hlong =>
    refine .inl ?_
    rw [follow.eq_def]
    simp only [if_neg hc, if_pos hlong]
  | case4 d c hc hlen cs hdir ih =>
    have hrest := ih fun k hk hm => hway (c :: k) (List.cons_prefix_cons.2 ⟨rfl, hk⟩)
      (by simpa [walk, hc] using hm)
    rw [follow.eq_def t']
    simp only [if_neg hc, if_neg hlen, h.dirs _ hdir]
    exact hrest
  | case5 d c hc hlen hdir =>
    rw [follow_singleton hc hlen]
    by_cases hm : d ++ [c] = m
    · obtain ⟨he, he'⟩ := hway [c] (List.prefix_refl _) (by simpa [walk, hc] using hm)
      obtain ⟨x, rfl⟩ := Option.ne_none_iff_exists'.1 he
      obtain ⟨x', rfl⟩ := Option.ne_none_iff_exists'.1 he'
      exact .inr ⟨x, x', by rw [hm, h.left], by rw [hm, h.right]⟩
    · exact .inl (by rw [h.elsewhere _ hm])
  | case6 d c hc hlen b cs hnone =>
    have hm : d ++ [c] ≠ m := by
      intro hm
      refine (hway [c] (by simp) (by simpa [walk, hc] using hm)).1 ?_
      rw [← h.left, ← hm, hnone]
    refine .inl ?_
    rw [follow.eq_def]
    simp only [if_neg hc, if_neg hlen, h.elsewhere _ hm, hnone]
  | case7 d c hc hlen b cs content executable hfile =>
    refine .inl ?_
    rw [follow.eq_def]
    simp only [if_neg hc, if_neg hlen]
    by_cases hm : d ++ [c] = m
    · have he' := (hway [c] (by simp) (by simpa [walk, hc] using hm)).2
      rw [hm, h.right]
      cases hx : e' with
      | none => exact absurd hx he'
      | some x =>
        cases x with
        | dir => exact absurd hx h.noDir'
        | file => rfl
    · rw [h.elsewhere _ hm, hfile]

section Way

variable (h : DiffersAt m e e' t t') (hway : p.Passes m → e ≠ none ∧ e' ≠ none)

include h hway

theorem locate_eq_or : t'.locate p = t.locate p ∨
    ∃ x x', t.locate p = .ok (m, some x) ∧ t'.locate p = .ok (m, some x') := by
  unfold locate
  split
  · exact .inl rfl
  · rcases h.follow_eq_or (d := []) fun k hk hm => hway ⟨k, hk, hm⟩ with hsame | ⟨x, x', hx, hx'⟩
    · exact .inl (by rw [hsame])
    · exact .inr ⟨x, x', by rw [hx]; rfl, by rw [hx']; rfl⟩

theorem ne_of_locate_none (hloc : t.locate p = .ok (l, none)) : l ≠ m := by
  obtain ⟨rfl, hat⟩ := locate_eq_ok hloc
  intro hm
  refine (hway ⟨p.parts, List.prefix_refl _, hm⟩).1 ?_
  rw [← h.left, ← hm, (hat (by simp)).2]

/-- A directory is made in both trees or, with the same fault, in neither. -/
theorem makeDir_cases : (∃ f, t.makeDir p = .error f ∧ t'.makeDir p = .error f) ∨
    ∃ s s', t.makeDir p = .ok s ∧ t'.makeDir p = .ok s' ∧ DiffersAt m e e' s s' := by
  rcases h.locate_eq_or hway with hsame | ⟨x, x', hx, hx'⟩
  · unfold makeDir
    rw [hsame]
    cases hloc : t.locate p with
    | error f => exact .inl ⟨f, rfl, rfl⟩
    | ok found =>
      obtain ⟨l, y | y⟩ := found
      · exact .inr ⟨_, _, rfl, rfl, h.put (h.ne_of_locate_none hway hloc) .dir⟩
      · exact .inl ⟨_, rfl, rfl⟩
  · unfold makeDir
    rw [hx, hx']
    exact .inl ⟨_, rfl, rfl⟩

/-- A file elsewhere is written in both trees or, with the same fault, in neither. -/
theorem write_cases (hp : p.location ≠ m) (content : Bytes) :
    (∃ f, t.write p content = .error f ∧ t'.write p content = .error f) ∨
      ∃ s s', t.write p content = .ok s ∧ t'.write p content = .ok s' ∧ DiffersAt m e e' s s' := by
  have hsame : t'.locate p = t.locate p := by
    rcases h.locate_eq_or hway with hsame | ⟨x, x', hx, -⟩
    · exact hsame
    · exact absurd (locate_eq_ok hx).1.symm hp
  unfold write
  rw [hsame]
  cases hloc : t.locate p with
  | error f => exact .inl ⟨f, rfl, rfl⟩
  | ok found =>
    obtain ⟨l, y⟩ := found
    obtain ⟨rfl, -⟩ := locate_eq_ok hloc
    cases y with
    | none => exact .inr ⟨_, _, rfl, rfl, h.put hp _⟩
    | some y =>
      cases y with
      | dir => exact .inl ⟨_, rfl, rfl⟩
      | file old executable => exact .inr ⟨_, _, rfl, rfl, h.put hp _⟩

end Way

/-- Whether or not all directories can be made, the outcome is the same, and the trees differ where
they did. -/
theorem makeDirsUp_eq (h : DiffersAt m e e' t t')
    (hway : ∀ k, k <+: up.reverse → walk [] k = m → e ≠ none ∧ e' ≠ none) :
    (makeDirsUp a up t').1 = (makeDirsUp a up t).1 ∧
      DiffersAt m e e' (makeDirsUp a up t).2 (makeDirsUp a up t').2 := by
  induction up generalizing t t' with
  | nil =>
    have hroot : (Path.mk a []).Passes m → e ≠ none ∧ e' ≠ none := by
      rintro ⟨k, hk, hm⟩
      exact hway k hk hm
    unfold makeDirsUp
    rcases h.makeDir_cases hroot with ⟨f, hf, hf'⟩ | ⟨s, s', hs, hs', hdiffers⟩
    · simp only [hf, hf']
      exact ⟨h.unlessDir_eq _ _, h⟩
    · simp only [hs, hs']
      exact ⟨trivial, hdiffers⟩
  | cons c up ih =>
    have hlast : (Path.mk a (c :: up).reverse).Passes m → e ≠ none ∧ e' ≠ none := by
      rintro ⟨k, hk, hm⟩
      exact hway k hk hm
    have habove := ih h fun k hk hm => hway k
      (hk.trans (by rw [List.reverse_cons]; exact List.prefix_append _ _)) hm
    unfold makeDirsUp
    simp only
    rcases h.makeDir_cases hlast with ⟨f, hf, hf'⟩ | ⟨s, s', hs, hs', hdiffers⟩
    · simp only [hf, hf']
      cases f with
      | null => exact ⟨rfl, h⟩
      | system cause q =>
        cases cause with
        | absent =>
          obtain ⟨hfst, hdiffers⟩ := habove
          rcases hup : makeDirsUp a up t with ⟨x, s⟩
          rcases hup' : makeDirsUp a up t' with ⟨x', s'⟩
          rw [hup, hup'] at hfst hdiffers
          cases hfst
          cases x with
          | error f => exact ⟨rfl, hdiffers⟩
          | ok _ =>
            -- the directories above are there now, so the last one is tried once more
            rcases hdiffers.makeDir_cases hlast with ⟨f, hf, hf'⟩ | ⟨u, u', hu, hu', hlater⟩
            · simp only [hf, hf']
              cases f with
              | null => exact ⟨hdiffers.unlessDir_eq _ _, hdiffers⟩
              | system cause q =>
                cases cause with
                | absent => exact ⟨rfl, hdiffers⟩
                | _ => exact ⟨hdiffers.unlessDir_eq _ _, hdiffers⟩
            · simp only [hu, hu']
              exact ⟨trivial, hlater⟩
        | _ => exact ⟨h.unlessDir_eq _ _, h⟩
    · simp only [hs, hs']
      exact ⟨trivial, hdiffers⟩

theorem makeDirs_eq (h : DiffersAt m e e' t t')
    (hway : p.Passes m → e ≠ none ∧ e' ≠ none) :
    (t'.makeDirs p).1 = (t.makeDirs p).1 ∧
      DiffersAt m e e' (t.makeDirs p).2 (t'.makeDirs p).2 :=
  h.makeDirsUp_eq fun k hk hm => hway ⟨k, by rwa [List.reverse_reverse] at hk, hm⟩

end DiffersAt

end FileTree

end CrateScaffold
