import CrateScaffold.Proofs.FileTree.Making
import CrateScaffold.FileTree.Reading
import Mathlib.Data.List.Induction

/-!
What is apart from a directory is neither in it nor above it. Whatever is made or written in the
directory or on the way to it leaves all entries apart from it as they were; so in a tree whose
entries all have their directories, the same things are found there afterwards.
-/

namespace CrateScaffold

structure Path.Apart (p output : Path) : Prop where
  plain : ['.', '.'] ∉ p.parts
  notInside : ¬ output.parts <+: p.parts
  notAbove : ¬ p.parts <+: output.parts

namespace Path

variable {output p q : Path} {cs : List Text}

theorem Apart.below (h : p.Apart output) (hpre : p.parts <+: q.parts)
    (hq : ['.', '.'] ∉ q.parts) : q.Apart output := by
  refine ⟨hq, fun hin => ?_, fun habove => h.notAbove (hpre.trans habove)⟩
  rcases List.prefix_or_prefix_of_prefix hin hpre with hin | habove
  · exact h.notInside hin
  · exact h.notAbove habove

theorem Apart.not_isPrefix (h : p.Apart output) : ¬ p.parts <+: output.parts ++ cs := by
  intro hpre
  rcases List.prefix_or_prefix_of_prefix hpre (List.prefix_append _ _) with habove | hin
  · exact h.notAbove habove
  · exact h.notInside hin

theorem Apart.ne_nil (h : p.Apart output) : p.parts ≠ [] := by
  intro hnil
  exact h.notAbove (hnil ▸ List.nil_prefix)

theorem location_of_plain (h : ['.', '.'] ∉ p.parts) : p.location = p.parts :=
  walk_of_not_mem h

end Path

namespace FileTree

variable {t t' : FileTree} {d l m : Location} {cs ds k : List Text} {e : Option Entry} {x y : Entry}
variable {p q output : Path}

/-- A tree in which every entry is in a directory, and no location leads upwards. -/
structure Sound (t : FileTree) : Prop where
  closed : ∀ l x, t.at? l = some x → l ≠ [] → t.at? l.dropLast = some .dir
  plain : ∀ e ∈ t, ['.', '.'] ∉ e.1

theorem sound_of_forall (h : ∀ e ∈ t, t.at? e.1.dropLast = some .dir ∧ ['.', '.'] ∉ e.1) :
    t.Sound := by
  refine ⟨fun l x hx hl => ?_, fun e he => (h e he).2⟩
  rw [at?, if_neg hl, List.lookup_eq_some_iff] at hx
  obtain ⟨before, after, ht, -⟩ := hx
  exact (h (l, x) (by simp [ht])).1

theorem Sound.at?_of_isPrefix (ht : t.Sound) (h : t.at? (l ++ cs) = some x) (hcs : cs ≠ []) :
    t.at? l = some .dir := by
  induction cs using List.reverseRec generalizing x with
  | nil => exact absurd rfl hcs
  | append_singleton cs c ih =>
    have habove := ht.closed _ _ h (by simp)
    rw [← List.append_assoc, List.dropLast_concat] at habove
    by_cases hnil : cs = []
    · rwa [hnil, List.append_nil] at habove
    · exact ih habove hnil

/-- A path that could be followed has no component that is too long. -/
theorem length_le_of_follow (h : t.follow d cs = .ok (l, e)) :
    ∀ c ∈ cs, ¬ 255 < (Utf8.encode c).length := by
  fun_induction follow t d cs with
  | case1 d => simp
  | case2 d cs ih => exact List.forall_mem_cons.2 ⟨by decide, ih h⟩
  | case3 => cases h
  | case4 d c hc hlen cs hdir ih => exact List.forall_mem_cons.2 ⟨hlen, ih h⟩
  | case5 d c hc hlen hdir => simpa using hlen
  | case6 => cases h
  | case7 => cases h

/-- Where all entries have their directories, what is there is found. -/
theorem Sound.follow_eq (ht : t.Sound) (hdots : ['.', '.'] ∉ cs)
    (hlen : ∀ c ∈ cs, ¬ 255 < (Utf8.encode c).length) (hd : cs = [] → x = .dir)
    (h : t.at? (d ++ cs) = some x) : t.follow d cs = .ok (d ++ cs, some x) := by
  induction cs generalizing d with
  | nil =>
    rw [hd rfl, List.append_nil, follow]
  | cons c cs ih =>
    have hc : c ≠ ['.', '.'] := fun he => hdots (he ▸ List.mem_cons_self)
    have hlong := hlen c List.mem_cons_self
    have happend : d ++ c :: cs = d ++ [c] ++ cs := by simp
    rw [happend] at h ⊢
    rw [follow.eq_def]
    simp only [if_neg hc, if_neg hlong]
    by_cases hnil : cs = []
    · subst hnil
      rw [List.append_nil] at h ⊢
      rw [h]
      cases x with
      | dir => rfl
      | file => rfl
    · rw [ht.at?_of_isPrefix h hnil]
      exact ih (fun hm => hdots (List.mem_cons_of_mem c hm))
        (fun b hb => hlen b (List.mem_cons_of_mem c hb)) (fun he => absurd he hnil) h

def under (t : FileTree) (l : Location) : FileTree := t.filter fun e => l.isPrefixOf e.1

theorem under_put (h : ¬ l <+: m) : (t.put m x).under l = t.under l := by
  have hm : l.isPrefixOf m = false := by
    rw [Bool.eq_false_iff, Ne, List.isPrefixOf_iff_prefix]
    exact h
  induction t with
  | nil => simp [put, under, hm]
  | cons e t ih =>
    obtain ⟨n, y⟩ := e
    by_cases hn : n = m
    · subst hn
      simp [put, under, hm]
    · rw [put, if_neg hn, under, List.filter_cons, under, List.filter_cons, ← under, ← under, ih]

theorem lookup_under (h : l <+: m) : (t.under l).lookup m = t.lookup m := by
  induction t with
  | nil => rfl
  | cons e t ih =>
    obtain ⟨n, y⟩ := e
    rw [under, List.filter_cons, ← under]
    by_cases hn : l.isPrefixOf n = true
    · rw [if_pos hn, List.lookup_cons, List.lookup_cons, ih]
    · have hne : (m == n) = false := by
        rw [beq_eq_false_iff_ne]
        rintro rfl
        exact hn (List.isPrefixOf_iff_prefix.2 h)
      rw [if_neg hn, List.lookup_cons, hne, ih]

theorem at?_of_under (h : t'.under l = t.under l) (hm : l <+: m) (hl : l ≠ []) :
    t'.at? m = t.at? m := by
  have hne : m ≠ [] := by
    rintro rfl
    exact hl (List.prefix_nil.1 hm)
  rw [at?, if_neg hne, at?, if_neg hne, ← lookup_under hm, h, lookup_under hm]

theorem under_makeDirs (hdots : ['.', '.'] ∉ p.parts) (h : ¬ l <+: p.parts) :
    (t.makeDirs p).2.under l = t.under l := by
  refine makeDirsUp_induction (R := fun t t' => t'.under l = t.under l) (fun _ => rfl)
    (fun h h' => h'.trans h) ?_ t
  intro k t t' hk hmade
  rw [List.reverse_reverse] at hk
  obtain ⟨-, rfl⟩ := makeDir_eq_ok hmade
  have hloc : (Path.mk p.anchor k).location = k := walk_of_not_mem fun hm => hdots (hk.subset hm)
  rw [hloc]
  exact under_put fun hl => h (hl.trans hk)

theorem at?_of_stat (hdots : ['.', '.'] ∉ p.parts) (h : t.stat p = .ok x) :
    t.at? p.parts = some x := by
  cases x with
  | dir => exact at?_of_stat_dir hdots h (List.prefix_refl _)
  | file content executable =>
    obtain ⟨-, hat⟩ := locate_eq_ok (stat_eq_ok_iff.1 h)
    rw [← Path.location_of_plain hdots]
    exact (hat (by simp)).2

/-- What is there is found by a path by which something can be found in another tree. -/
theorem Sound.stat_eq (ht : t.Sound) (hdots : ['.', '.'] ∉ p.parts) (hne : p.parts ≠ [])
    (h : t'.stat p = .ok y) (hx : t.at? p.parts = some x) : t.stat p = .ok x := by
  rw [stat_eq_ok_iff, locate] at h ⊢
  split at h
  · cases h
  · next hnull =>
    rw [if_neg hnull]
    cases hf : t'.follow [] p.parts with
    | error cause =>
      rw [hf] at h
      cases h
    | ok found =>
      rw [hf] at h
      cases h
      rw [ht.follow_eq (d := []) hdots (length_le_of_follow hf) (fun he => absurd he hne) hx,
        Path.location_of_plain hdots]
      rfl

theorem stat_of_dirs (hd : ∀ m, t.at? m = some .dir → t'.at? m = some .dir)
    (h : t.stat p = .ok x) (hx : t'.at? p.location = some x) : t'.stat p = .ok x := by
  cases x with
  | dir => exact stat_dir_of_dirs hd h
  | file content executable =>
    rw [stat_eq_ok_iff] at h ⊢
    exact locate_eq_ok_of_dirs hd h (by simp) hx

theorem stat_of_at? (hd : ∀ m, t.at? m = some .dir → t'.at? m = some .dir)
    (hat : t'.at? p.location = t.at? p.location) (h : t.stat p = .ok x) : t'.stat p = .ok x := by
  cases x with
  | dir => exact stat_dir_of_dirs hd h
  | file content executable =>
    obtain ⟨-, hfile⟩ := locate_eq_ok (stat_eq_ok_iff.1 h)
    exact stat_of_dirs hd h (hat.trans (hfile (by simp)).2)

theorem look_of_stat (h : t.stat p = .ok x) : t.look p = .ok (some x) := by
  rw [look, h]

theorem exists_below_of_stat (s : Text) (h : t.stat p = .ok .dir) :
    ∃ ps, t.below p s = .ok ps := by
  rw [below, look_of_stat h]
  simp only [bind, Except.bind, stat_eq_ok_iff.1 h]
  exact ⟨_, rfl⟩

theorem below_eq_of_stat {s : Text} (hdots : ['.', '.'] ∉ p.parts) (h : t.stat p = .ok .dir) :
    t.below p s = .ok (((t.under p.parts).filterMap fun e =>
      if (e.1.drop p.parts.length).getLast?.any (Text.endsWith · s) then
        some (Path.mk p.anchor (p.parts ++ e.1.drop p.parts.length))
      else none).mergeSort Path.le) := by
  rw [below, look_of_stat h, under, List.filterMap_filter]
  simp only [bind, Except.bind, stat_eq_ok_iff.1 h, Path.location_of_plain hdots]
  congr 3
  funext e
  by_cases hl : p.parts.isPrefixOf e.1 <;> simp [hl]

theorem below_eq (hdots : ['.', '.'] ∉ p.parts) (h : t.stat p = .ok .dir)
    (h' : t'.stat p = .ok .dir) (hunder : t'.under p.parts = t.under p.parts) (s : Text) :
    t'.below p s = t.below p s := by
  rw [below_eq_of_stat hdots h, below_eq_of_stat hdots h', hunder]

structure SameApart (output : Path) (t t' : FileTree) : Prop where
  stat : ∀ p x, p.Apart output → (t'.stat p = .ok x ↔ t.stat p = .ok x)
  below : ∀ p s, p.Apart output → t.stat p = .ok .dir → t'.below p s = t.below p s

theorem sameApart_of_under (ht : t.Sound)
    (hd : ∀ m, t.at? m = some .dir → t'.at? m = some .dir)
    (hunder : ∀ p : Path, p.Apart output → t'.under p.parts = t.under p.parts) :
    SameApart output t t' := by
  have hat : ∀ p : Path, p.Apart output → t'.at? p.parts = t.at? p.parts := fun p hp =>
    at?_of_under (hunder p hp) (List.prefix_refl _) hp.ne_nil
  have hstat : ∀ p x, p.Apart output → (t'.stat p = .ok x ↔ t.stat p = .ok x) := by
    intro p x hp
    constructor
    · intro h
      refine ht.stat_eq hp.plain hp.ne_nil h ?_
      rw [← hat p hp]
      exact at?_of_stat hp.plain h
    · intro h
      refine stat_of_dirs hd h ?_
      rw [Path.location_of_plain hp.plain, hat p hp]
      exact at?_of_stat hp.plain h
  refine ⟨hstat, fun p s hp h => ?_⟩
  exact below_eq hp.plain h ((hstat p .dir hp).2 h) (hunder p hp) s

/-- What is listed below a path that is apart is apart too. -/
theorem Sound.apart_of_below {s : Text} {ps : List Path} (ht : t.Sound) (hp : p.Apart output)
    (h : t.stat p = .ok .dir) (hps : t.below p s = .ok ps) : ∀ q ∈ ps, q.Apart output := by
  rw [below_eq_of_stat hp.plain h] at hps
  cases hps
  intro q hq
  rw [(List.mergeSort_perm _ _).mem_iff, List.mem_filterMap] at hq
  obtain ⟨e, he, hq⟩ := hq
  obtain ⟨hmem, hpre⟩ := List.mem_filter.1 he
  have hpre := List.isPrefixOf_iff_prefix.1 hpre
  split at hq
  · cases hq
    have hparts : p.parts ++ e.1.drop p.parts.length = e.1 := by
      obtain ⟨rest, hrest⟩ := hpre
      rw [← hrest, List.drop_left]
    refine hp.below ?_ ?_
    · exact List.prefix_append _ _
    · change ['.', '.'] ∉ p.parts ++ e.1.drop p.parts.length
      rw [hparts]
      exact ht.plain e hmem
  · cases hq

def HasShortNames (p : Path) : Prop := ∀ c ∈ p.parts, ¬ 255 < (Utf8.encode c).length

instance (p : Path) : Decidable (HasShortNames p) :=
  inferInstanceAs (Decidable (∀ c ∈ p.parts, ¬ 255 < (Utf8.encode c).length))

theorem follow_ne_nameTooLong (h : ∀ c ∈ cs, ¬ 255 < (Utf8.encode c).length) :
    t.follow d cs ≠ .error .nameTooLong := by
  fun_induction follow t d cs with
  | case1 d => simp
  | case2 d cs ih => exact ih fun c hc => h c (List.mem_cons_of_mem _ hc)
  | case3 d c cs hc hlen => exact absurd hlen (h c List.mem_cons_self)
  | case4 d c hc hlen cs hdir ih => exact ih fun b hb => h b (List.mem_cons_of_mem c hb)
  | case5 => simp
  | case6 => simp
  | case7 => simp

theorem hasShortNames_of_stat (h : t.stat p = .ok x) : HasShortNames p := by
  rw [stat_eq_ok_iff, locate] at h
  split at h
  · cases h
  · cases hf : t.follow [] p.parts with
    | error cause =>
      rw [hf] at h
      cases h
    | ok found =>
      obtain ⟨l, e⟩ := found
      exact length_le_of_follow hf

/-- With short names nothing that can be looked for is a fault. -/
theorem HasShortNames.look_eq (h : HasShortNames p) : t.look p = .ok (t.stat p).toOption := by
  have hstat : ∀ q, t.stat p ≠ .error (.system .nameTooLong q) := by
    intro q hq
    rw [stat, locate] at hq
    split at hq
    · cases hq
    · cases hf : t.follow [] p.parts with
      | error cause =>
        rw [hf] at hq
        cases hq
        exact follow_ne_nameTooLong h hf
      | ok found =>
        obtain ⟨l, e⟩ := found
        rw [hf] at hq
        cases e with
        | none => cases hq
        | some y => cases hq
  unfold look
  split
  · next hs =>
    rw [hs]
    rfl
  · next q hs => exact absurd hs (hstat q)
  · next hs =>
    rw [hs]
    rfl

theorem toOption_eq_of_iff {ε α : Type} {y z : Except ε α} (h : ∀ a, z = .ok a ↔ y = .ok a) :
    z.toOption = y.toOption := by
  cases hy : y with
  | ok a => rw [(h a).2 hy]
  | error f =>
    cases hz : z with
    | ok a => simp [hy, hz] at h
    | error f' => rfl

namespace SameApart

variable {content : Bytes} {s : Text}

theorem toOption_stat_eq (h : SameApart output t t') (hp : p.Apart output) :
    (t'.stat p).toOption = (t.stat p).toOption :=
  toOption_eq_of_iff fun x => h.stat p x hp

theorem look_eq (h : SameApart output t t') (hp : p.Apart output) (hshort : HasShortNames p) :
    t'.look p = t.look p := by
  rw [hshort.look_eq, hshort.look_eq, h.toOption_stat_eq hp]

theorem read_eq (h : SameApart output t t') (hp : p.Apart output) (hread : t.read p = .ok content) :
    t'.read p = .ok content := by
  rw [read] at hread ⊢
  cases hs : t.stat p with
  | error f =>
    rw [hs] at hread
    cases hread
  | ok x =>
    rw [hs] at hread
    rw [(h.stat p x hp).2 hs]
    exact hread

theorem readText_eq (h : SameApart output t t') (hp : p.Apart output)
    (hread : t.readText p = .ok s) : t'.readText p = .ok s := by
  rw [readText, readExact] at hread ⊢
  cases hr : t.read p with
  | error f =>
    rw [hr] at hread
    cases hread
  | ok content =>
    rw [hr] at hread
    rw [h.read_eq hp hr]
    exact hread

end SameApart

end FileTree

end CrateScaffold
