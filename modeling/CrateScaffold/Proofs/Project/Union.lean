import CrateScaffold.Plugin.Contribution
import CrateScaffold.Proofs.FileTree.PathOrder
import CrateScaffold.Proofs.World.Effect
import Mathlib.Data.List.Nodup
import Mathlib.Data.List.Perm.Basic
import Mathlib.Data.Option.Basic

/-!
The files that contributions make up: all of them or none. They do just when no contribution lacks
a member or leads out of the project and no two have the same path; then each of them is there
once, in the order of the paths, whatever the order in which they came.
-/

namespace CrateScaffold

variable {c : Contribution} {cs ds : List Contribution}
variable {f g : PlannedFile} {fs gs : List PlannedFile}

def Contribution.place? (c : Contribution) : Option Path :=
  match c.path with
  | some (.text s) => some (.ofText s)
  | _ => none

structure Contribution.Gives (c : Contribution) (f : PlannedFile) : Prop where
  place : c.place? = some f.path
  content : c.content = some f.content
  executable : f.executable = c.executable

namespace PlannedFile

theorem gives_iff : c.Gives f ↔ c.file = .ok f := by
  obtain ⟨path, content, executable⟩ := c
  obtain ⟨place, data, permission⟩ := f
  constructor
  · rintro ⟨hplace, hcontent, hexec⟩
    cases path with
    | none => cases hplace
    | some v =>
      cases v with
      | text s =>
        cases hplace
        cases hcontent
        cases hexec
        rfl
      | _ => cases hplace
  · intro h
    cases path with
    | none => cases h
    | some v =>
      cases v with
      | text s =>
        cases content with
        | none => cases h
        | some data =>
          cases h
          exact ⟨rfl, rfl, rfl⟩
      | _ => cases h

/-- One more contribution is taken just when it is a file inside the project at a new path. -/
theorem add_eq_ok : add fs c = .ok gs ↔
    ∃ f, c.Gives f ∧ f.path.leaves = false ∧ f.path ∉ fs.map PlannedFile.path ∧ gs = fs ++ [f] := by
  simp only [add, gives_iff]
  cases hc : c.file with
  | error e => simp [Bind.bind, Except.bind]
  | ok f =>
    simp only [Bind.bind, Except.bind, Except.ok.injEq, exists_eq_left']
    have hany : (fs.any (·.path == f.path)) = true ↔ f.path ∈ fs.map PlannedFile.path := by
      simp [List.any_eq_true]
    split
    · next hl => simp [hl]
    · next hl =>
      split
      · next hr => simp [hany.1 hr]
      · next hr =>
        have hnew : f.path ∉ fs.map PlannedFile.path := fun hm => hr (hany.2 hm)
        rw [Bool.not_eq_true] at hl
        simp only [hl, hnew, not_false_eq_true, true_and, pure, Except.pure, Except.ok.injEq]
        exact eq_comm

theorem nodup_path_concat : ((fs ++ [f]).map PlannedFile.path).Nodup ↔
    f.path ∉ fs.map PlannedFile.path ∧ (fs.map PlannedFile.path).Nodup := by
  rw [List.map_append, List.map_singleton, ← List.concat_eq_append, List.nodup_concat]

/-- The contributions one after the other, behind files that were contributed before. -/
theorem foldlM_add_eq_ok (hn : (fs.map PlannedFile.path).Nodup) :
    cs.foldlM add fs = .ok gs ↔ ∃ new, List.Forall₂ Contribution.Gives cs new ∧
      (∀ f ∈ new, f.path.leaves = false) ∧ ((fs ++ new).map PlannedFile.path).Nodup ∧
      gs = fs ++ new := by
  induction cs generalizing fs with
  | nil =>
    constructor
    · intro h
      cases h
      exact ⟨[], .nil, by simp, by simpa using hn, by simp⟩
    · rintro ⟨new, hnew, -, -, rfl⟩
      cases hnew
      simp [pure, Except.pure]
  | cons c cs ih =>
    rw [List.foldlM_cons, bind_eq_ok]
    constructor
    · rintro ⟨mid, hadd, hrest⟩
      obtain ⟨f, hf, hin, hfresh, rfl⟩ := add_eq_ok.1 hadd
      obtain ⟨new, hnew, hins, hnodup, rfl⟩ := (ih (nodup_path_concat.2 ⟨hfresh, hn⟩)).1 hrest
      exact ⟨f :: new, .cons hf hnew, List.forall_mem_cons.2 ⟨hin, hins⟩, by simpa using hnodup,
        by simp⟩
    · rintro ⟨new, hnew, hins, hnodup, rfl⟩
      cases hnew with
      | @cons _ f _ rest hf hrest =>
        obtain ⟨hin, hins⟩ := List.forall_mem_cons.1 hins
        have hsplit : ((fs ++ [f] ++ rest).map PlannedFile.path).Nodup := by simpa using hnodup
        have hmid : ((fs ++ [f]).map PlannedFile.path).Nodup := by
          rw [List.map_append] at hsplit
          exact hsplit.of_append_left
        have hfresh := (nodup_path_concat.1 hmid).1
        exact ⟨fs ++ [f], add_eq_ok.2 ⟨f, hf, hin, hfresh, rfl⟩,
          (ih hmid).2 ⟨rest, hrest, hins, hsplit, by simp⟩⟩

end PlannedFile

/-- Contributions that can stand side by side in a project. -/
structure Compatible (cs : List Contribution) : Prop where
  complete : ∀ c ∈ cs, c.place?.isSome ∧ c.content.isSome
  inside : ∀ c ∈ cs, ∀ p, c.place? = some p → p.leaves = false
  distinct : (cs.map Contribution.place?).Nodup

/-- Each contribution once, in strictly increasing order of the components of the paths. -/
structure IsUnion (fs : List PlannedFile) (cs : List Contribution) : Prop where
  exact : ∃ gs, List.Forall₂ Contribution.Gives cs gs ∧ fs.Perm gs
  increasing : fs.Pairwise fun f g => f.path.parts < g.path.parts

namespace PlannedFile

theorem map_place?_of_gives (h : List.Forall₂ Contribution.Gives cs fs) :
    cs.map Contribution.place? = (fs.map PlannedFile.path).map some := by
  induction h with
  | nil => rfl
  | cons hf hrest ih => rw [List.map_cons, List.map_cons, List.map_cons, hf.place, ih]

theorem nodup_place?_iff (h : List.Forall₂ Contribution.Gives cs fs) :
    (cs.map Contribution.place?).Nodup ↔ (fs.map PlannedFile.path).Nodup := by
  rw [map_place?_of_gives h]
  exact List.nodup_map_iff (Option.some_injective Path)

theorem exists_gives (h : ∀ c ∈ cs, c.place?.isSome ∧ c.content.isSome) :
    ∃ fs, List.Forall₂ Contribution.Gives cs fs := by
  induction cs with
  | nil => exact ⟨[], .nil⟩
  | cons c cs ih =>
    obtain ⟨⟨hplace, hcontent⟩, hrest⟩ := List.forall_mem_cons.1 h
    obtain ⟨fs, hfs⟩ := ih hrest
    obtain ⟨p, hp⟩ := Option.isSome_iff_exists.1 hplace
    obtain ⟨data, hdata⟩ := Option.isSome_iff_exists.1 hcontent
    exact ⟨⟨p, data, c.executable⟩ :: fs, .cons ⟨hp, hdata, rfl⟩ hfs⟩

theorem inside_iff (h : List.Forall₂ Contribution.Gives cs fs) :
    (∀ c ∈ cs, ∀ p, c.place? = some p → p.leaves = false) ↔ ∀ f ∈ fs, f.path.leaves = false := by
  induction h with
  | nil => simp
  | cons hf hrest ih =>
    rw [List.forall_mem_cons, List.forall_mem_cons, ih, hf.place]
    simp

theorem complete_of_gives (h : List.Forall₂ Contribution.Gives cs fs) :
    ∀ c ∈ cs, c.place?.isSome ∧ c.content.isSome := by
  induction h with
  | nil => simp
  | cons hf hrest ih =>
    refine List.forall_mem_cons.2 ⟨?_, ih⟩
    simp [hf.place, hf.content]

/-- Compatible contributions are those that are taken one after the other. -/
theorem foldlM_add_nil_eq_ok : cs.foldlM add [] = .ok gs ↔
    Compatible cs ∧ List.Forall₂ Contribution.Gives cs gs := by
  rw [foldlM_add_eq_ok (by simp)]
  constructor
  · rintro ⟨new, hnew, hins, hnodup, rfl⟩
    have hdistinct := (nodup_place?_iff hnew).2 hnodup
    exact ⟨⟨complete_of_gives hnew, (inside_iff hnew).2 hins, hdistinct⟩, hnew⟩
  · rintro ⟨hc, hgs⟩
    exact ⟨gs, hgs, (inside_iff hgs).1 hc.inside, (nodup_place?_iff hgs).1 hc.distinct, rfl⟩

theorem eq_of_path_eq (hn : (fs.map PlannedFile.path).Nodup) (hf : f ∈ fs) (hg : g ∈ fs)
    (h : f.path = g.path) : f = g :=
  List.inj_on_of_nodup_map hn hf hg h

theorem pairwise_mergeSort_path (fs : List PlannedFile) :
    (fs.mergeSort fun f g => f.path.le g.path).Pairwise fun f g => f.path.le g.path = true := by
  apply List.pairwise_mergeSort
  · intro f g k hfg hgk
    exact Path.le_transitive hfg hgk
  · intro f g
    exact Path.le_connected f.path g.path

/-- Sorting files inside a project, all at different paths, puts them into strictly increasing
order. -/
theorem pairwise_lt_mergeSort (hins : ∀ f ∈ fs, f.path.leaves = false)
    (hn : (fs.map PlannedFile.path).Nodup) :
    (fs.mergeSort fun f g => f.path.le g.path).Pairwise fun f g => f.path.parts < g.path.parts := by
  have hperm := List.mergeSort_perm fs fun f g => f.path.le g.path
  have hne : (fs.mergeSort fun f g => f.path.le g.path).Pairwise fun f g => f.path ≠ g.path :=
    List.pairwise_map.1 ((hperm.map PlannedFile.path).nodup_iff.2 hn)
  refine ((pairwise_mergeSort_path fs).and hne).imp_of_mem ?_
  rintro f g hf hg ⟨hle, hfg⟩
  exact Path.lt_parts_of_le (hins f (hperm.mem_iff.1 hf)) (hins g (hperm.mem_iff.1 hg)) hfg hle

/-- There is only one strictly increasing order. -/
theorem eq_mergeSort (hperm : fs.Perm gs) (hins : ∀ f ∈ gs, f.path.leaves = false)
    (hn : (gs.map PlannedFile.path).Nodup)
    (hfs : fs.Pairwise fun f g => f.path.parts < g.path.parts) :
    fs = gs.mergeSort fun f g => f.path.le g.path := by
  have hle : fs.Pairwise fun f g => f.path.le g.path = true := by
    refine hfs.imp_of_mem ?_
    intro f g hf hg hlt
    exact Path.le_of_lt_parts (hins f (hperm.mem_iff.1 hf)) (hins g (hperm.mem_iff.1 hg)) hlt
  refine List.Perm.eq_of_pairwise ?_ hle (pairwise_mergeSort_path gs)
    (hperm.trans (List.mergeSort_perm gs _).symm)
  intro f g hf hg hfg hgf
  have hf' := hperm.mem_iff.1 hf
  have hg' := (List.mergeSort_perm gs _).mem_iff.1 hg
  by_contra hne
  have hpath : f.path ≠ g.path := fun he => hne (eq_of_path_eq hn hf' hg' he)
  exact lt_asymm (Path.lt_parts_of_le (hins f hf') (hins g hg') hpath hfg)
    (Path.lt_parts_of_le (hins g hg') (hins f hf') hpath.symm hgf)

/-- The files of contributions are their union, and there are files just when the contributions are
compatible. -/
theorem ofContributions_eq_ok : ofContributions cs = .ok fs ↔ Compatible cs ∧ IsUnion fs cs := by
  have hsort : ofContributions cs = .ok fs ↔
      ∃ gs, cs.foldlM add [] = .ok gs ∧ fs = gs.mergeSort fun f g => f.path.le g.path := by
    rw [ofContributions, bind_eq_ok]
    refine exists_congr fun gs => and_congr_right fun _ => ?_
    simp only [pure, Except.pure, Except.ok.injEq]
    exact eq_comm
  rw [hsort]
  constructor
  · rintro ⟨gs, hgs, rfl⟩
    obtain ⟨hc, hgives⟩ := foldlM_add_nil_eq_ok.1 hgs
    have hins := (inside_iff hgives).1 hc.inside
    have hn := (nodup_place?_iff hgives).1 hc.distinct
    exact ⟨hc, ⟨gs, hgives, List.mergeSort_perm gs _⟩, pairwise_lt_mergeSort hins hn⟩
  · rintro ⟨hc, ⟨gs, hgives, hperm⟩, hlt⟩
    have hins := (inside_iff hgives).1 hc.inside
    have hn := (nodup_place?_iff hgives).1 hc.distinct
    exact ⟨gs, foldlM_add_nil_eq_ok.2 ⟨hc, hgives⟩, eq_mergeSort hperm hins hn hlt⟩

theorem exists_ofContributions_iff : (∃ fs, ofContributions cs = .ok fs) ↔ Compatible cs := by
  constructor
  · rintro ⟨fs, hfs⟩
    exact (ofContributions_eq_ok.1 hfs).1
  · intro hc
    obtain ⟨gs, hgs⟩ := exists_gives hc.complete
    have hin := (inside_iff hgs).1 hc.inside
    have hn := (nodup_place?_iff hgs).1 hc.distinct
    exact ⟨gs.mergeSort fun f g => f.path.le g.path, ofContributions_eq_ok.2
      ⟨hc, ⟨gs, hgs, List.mergeSort_perm gs _⟩, pairwise_lt_mergeSort hin hn⟩⟩

end PlannedFile

theorem Compatible.perm (h : Compatible cs) (hp : cs.Perm ds) : Compatible ds where
  complete := fun c hc => h.complete c (hp.mem_iff.2 hc)
  inside := fun c hc => h.inside c (hp.mem_iff.2 hc)
  distinct := (hp.map Contribution.place?).nodup_iff.1 h.distinct

theorem IsUnion.perm (h : IsUnion fs cs) (hp : cs.Perm ds) : IsUnion fs ds := by
  obtain ⟨⟨gs, hgives, hperm⟩, hlt⟩ := h
  obtain ⟨gs', hgives', hperm'⟩ := List.perm_comp_forall₂ hp.symm hgives
  exact ⟨⟨gs', hgives', hperm.trans hperm'.symm⟩, hlt⟩

theorem IsUnion.exists_gives (h : IsUnion fs cs) (hc : c ∈ cs) : ∃ f ∈ fs, c.Gives f := by
  obtain ⟨⟨gs, hgives, hperm⟩, -⟩ := h
  obtain ⟨f, hf, hcf⟩ := exists_of_forall₂ hgives hc
  exact ⟨f, hperm.mem_iff.2 hf, hcf⟩

theorem IsUnion.exists_contribution (h : IsUnion fs cs) (hf : f ∈ fs) : ∃ c ∈ cs, c.Gives f := by
  obtain ⟨⟨gs, hgives, hperm⟩, -⟩ := h
  have hflip : List.Forall₂ (flip Contribution.Gives) gs cs := List.Forall₂.flip hgives
  exact exists_of_forall₂ hflip (hperm.mem_iff.1 hf)

theorem IsUnion.inside (h : IsUnion fs cs) (hc : Compatible cs) (hf : f ∈ fs) :
    f.path.leaves = false := by
  obtain ⟨⟨gs, hgives, hperm⟩, -⟩ := h
  exact (PlannedFile.inside_iff hgives).1 hc.inside f (hperm.mem_iff.1 hf)

theorem IsUnion.nodup (h : IsUnion fs cs) (hc : Compatible cs) :
    (fs.map PlannedFile.path).Nodup := by
  obtain ⟨⟨gs, hgives, hperm⟩, -⟩ := h
  have hn := (PlannedFile.nodup_place?_iff hgives).1 hc.distinct
  exact (hperm.map PlannedFile.path).nodup_iff.2 hn

theorem PlannedFile.ofContributions_perm (hp : cs.Perm ds) :
    ofContributions cs = .ok fs ↔ ofContributions ds = .ok fs := by
  rw [ofContributions_eq_ok, ofContributions_eq_ok]
  constructor
  · rintro ⟨hc, hu⟩
    exact ⟨hc.perm hp, hu.perm hp⟩
  · rintro ⟨hc, hu⟩
    exact ⟨hc.perm hp.symm, hu.perm hp.symm⟩

end CrateScaffold
