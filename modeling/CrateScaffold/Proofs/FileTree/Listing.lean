import CrateScaffold.Proofs.FileTree.Apart
import CrateScaffold.Proofs.World.Effect
import Mathlib.Data.List.Nodup
import Mathlib.Data.List.Sort

/-!
What is listed below a directory: each entry with such a name once, in the order of the components
of the paths, whatever the order of the entries in the tree.
-/

namespace CrateScaffold.FileTree

variable {t t' : FileTree} {p q : Path} {suffix : Text} {k : Location} {x : Entry}

/-- The path leads, below the directory, to an entry whose name ends so. -/
def IsBelow (t : FileTree) (p : Path) (suffix : Text) (q : Path) : Prop :=
  ∃ cs, p.location ++ cs ∈ t.map Prod.fst ∧ cs.getLast?.any (Text.endsWith · suffix) = true ∧
    q = ⟨p.anchor, p.parts ++ cs⟩

def below? (p : Path) (suffix : Text) (k : Location) : Option Path :=
  let rest := k.drop p.location.length
  if p.location.isPrefixOf k && rest.getLast?.any (Text.endsWith · suffix) then
    some ⟨p.anchor, p.parts ++ rest⟩
  else none

theorem below?_eq_some : below? p suffix k = some q ↔ ∃ cs, k = p.location ++ cs ∧
    cs.getLast?.any (Text.endsWith · suffix) = true ∧ q = ⟨p.anchor, p.parts ++ cs⟩ := by
  simp only [below?, Option.ite_none_right_eq_some, Bool.and_eq_true, List.isPrefixOf_iff_prefix]
  constructor
  · rintro ⟨⟨⟨cs, rfl⟩, hname⟩, hq⟩
    rw [List.drop_left] at hname hq
    exact ⟨cs, rfl, hname, (Option.some.inj hq).symm⟩
  · rintro ⟨cs, rfl, hname, rfl⟩
    rw [List.drop_left]
    exact ⟨⟨List.prefix_append _ _, hname⟩, rfl⟩

theorem below_eq_mergeSort (suffix : Text) (h : t.stat p = .ok .dir) :
    t.below p suffix = .ok (((t.map Prod.fst).filterMap (below? p suffix)).mergeSort Path.le) := by
  rw [below, look_of_stat h, List.filterMap_map]
  simp only [bind, Except.bind, stat_eq_ok_iff.1 h]
  rfl

theorem pairwise_mergeSort_le (ps : List Path) :
    (ps.mergeSort Path.le).Pairwise fun p q => p.le q = true := by
  apply List.pairwise_mergeSort
  · exact fun _ _ _ => Path.le_transitive
  · exact Path.le_connected

/-- Below a directory all entries with such a name are listed, each once and in order. -/
theorem exists_below (suffix : Text) (hn : (t.map Prod.fst).Nodup) (h : t.stat p = .ok .dir) :
    ∃ ps, t.below p suffix = .ok ps ∧ (∀ q, q ∈ ps ↔ t.IsBelow p suffix q) ∧
      ps.Pairwise fun q r => q.parts < r.parts := by
  have hmem : ∀ q, q ∈ ((t.map Prod.fst).filterMap (below? p suffix)).mergeSort Path.le ↔
      t.IsBelow p suffix q := by
    intro q
    rw [List.mem_mergeSort, List.mem_filterMap]
    simp only [below?_eq_some]
    constructor
    · rintro ⟨k, hk, cs, rfl, hname, rfl⟩
      exact ⟨cs, hk, hname, rfl⟩
    · rintro ⟨cs, hk, hname, rfl⟩
      exact ⟨_, hk, cs, rfl, hname, rfl⟩
  refine ⟨_, below_eq_mergeSort suffix h, hmem, ?_⟩
  have hnodup : ((t.map Prod.fst).filterMap (below? p suffix)).Nodup := by
    refine hn.filterMap fun k k' q hk hk' => ?_
    obtain ⟨cs, rfl, -, rfl⟩ := below?_eq_some.1 hk
    obtain ⟨cs', rfl, -, hq⟩ := below?_eq_some.1 hk'
    rw [List.append_cancel_left (Path.mk.inj hq).2]
  have hle := pairwise_mergeSort_le ((t.map Prod.fst).filterMap (below? p suffix))
  have hne := (List.mergeSort_perm _ Path.le).nodup_iff.2 hnodup
  refine (hle.and hne).imp_of_mem ?_
  rintro q r hq hr ⟨hqr, hdistinct⟩
  obtain ⟨_, -, -, rfl⟩ := (hmem q).1 hq
  obtain ⟨_, -, -, rfl⟩ := (hmem r).1 hr
  exact Path.lt_parts_of_le_of_anchor rfl hdistinct hqr

/-- Where no location has two entries, the entries are those that are listed. -/
theorem lookup_eq_some_iff_mem (hn : (t.map Prod.fst).Nodup) :
    t.lookup k = some x ↔ (k, x) ∈ t := by
  rw [List.lookup_eq_some_iff]
  constructor
  · rintro ⟨before, after, rfl, -⟩
    simp
  · intro hmem
    obtain ⟨before, after, rfl⟩ := List.append_of_mem hmem
    refine ⟨before, after, rfl, fun e he => ?_⟩
    rw [List.map_append, List.map_cons, List.nodup_append] at hn
    have hne := hn.2.2 e.1 (List.mem_map_of_mem he) k List.mem_cons_self
    simpa using hne.symm

section Perm

variable (h : t'.Perm t) (hn : (t.map Prod.fst).Nodup)

include h hn

theorem nodup_of_perm : (t'.map Prod.fst).Nodup := (h.map Prod.fst).nodup_iff.2 hn

theorem at?_of_perm (k : Location) : t'.at? k = t.at? k := by
  have hlookup : t'.lookup k = t.lookup k := by
    ext x
    rw [lookup_eq_some_iff_mem (nodup_of_perm h hn), lookup_eq_some_iff_mem hn, h.mem_iff]
  rw [at?, at?, hlookup]

theorem stat_of_perm (hx : t.stat p = .ok x) : t'.stat p = .ok x :=
  stat_of_at? (fun m hm => (at?_of_perm h hn m).trans hm) (at?_of_perm h hn _) hx

theorem readExact_of_perm {s : Text} (hs : t.readExact p = .ok s) : t'.readExact p = .ok s := by
  have hread : t'.read p = t.read p := by
    rw [readExact] at hs
    obtain ⟨content, hcontent, -⟩ := bind_eq_ok.1 hs
    obtain ⟨x, hx, -⟩ := bind_eq_ok.1 (mapError_eq_ok.1 hcontent)
    rw [read, read, hx, stat_of_perm h hn hx]
  rw [readExact, hread, ← readExact, hs]

end Perm

theorem isBelow_iff_of_perm (h : t'.Perm t) : t'.IsBelow p suffix q ↔ t.IsBelow p suffix q := by
  simp only [IsBelow, (h.map Prod.fst).mem_iff]

theorem eq_of_pairwise_lt {ps qs : List Path} (hps : ps.Pairwise fun p q => p.parts < q.parts)
    (hqs : qs.Pairwise fun p q => p.parts < q.parts) (h : ∀ p, p ∈ ps ↔ p ∈ qs) : ps = qs := by
  have : Std.Irrefl fun p q : Path => p.parts < q.parts := ⟨fun p => lt_irrefl p.parts⟩
  have : Std.Antisymm fun p q : Path => p.parts < q.parts :=
    ⟨fun p q hpq hqp => absurd hqp (lt_asymm hpq)⟩
  exact hps.eq_of_mem_iff hqs h

end CrateScaffold.FileTree
