import CrateScaffold.Proofs.Binding.Discovery
import CrateScaffold.Proofs.FileTree.Listing

/-!
What a discovery finds: the bindings of all sources, in the order of their paths, if no type is
bound twice in them, and otherwise the first type that is bound again. The sources are the entries
with such a name, whatever their order in the tree.
-/

namespace CrateScaffold.Discovery

variable {found bs : List Binding} {ps : List Path} {s : Site}

def types (bs : List Binding) : List Text := bs.map Binding.type

theorem any_type_iff {type : Text} :
    found.any (·.type == type) = true ↔ type ∈ types found := by
  simp [types]

theorem nodup_types_concat {b : Binding} :
    (types (bs ++ [b])).Nodup ↔ b.type ∉ types bs ∧ (types bs).Nodup := by
  have hconcat : types (bs ++ [b]) = (types bs).concat b.type := by simp [types]
  rw [hconcat, List.nodup_concat]

/-- Further bindings are adopted one after the other. -/
theorem adopt_append (found bs cs : List Binding) :
    adopt found (bs ++ cs) = adopt found bs >>= fun fs => adopt fs cs := by
  induction bs generalizing found with
  | nil => rfl
  | cons b bs ih =>
    rw [List.cons_append, adopt, adopt]
    split
    · rfl
    · exact ih (found ++ [b])

/-- Bindings of which none has a type that is bound are adopted. -/
theorem adopt_of_nodup (h : (types (found ++ bs)).Nodup) : adopt found bs = .ok (found ++ bs) := by
  induction bs generalizing found with
  | nil => rw [adopt, List.append_nil]
  | cons b bs ih =>
    rw [← List.singleton_append, ← List.append_assoc] at h ⊢
    have hfirst : (types (found ++ [b])).Nodup := by
      rw [types, List.map_append] at h
      exact (List.nodup_append.1 h).1
    have hnew := (nodup_types_concat.1 hfirst).1
    rw [List.singleton_append, adopt, if_neg fun hany => hnew (any_type_iff.1 hany), ih h]

def IsFirstRepeated (bs : List Binding) (b : Binding) : Prop :=
  ∃ before after, bs = before ++ b :: after ∧ (types before).Nodup ∧ b.type ∈ types before

theorem adopt_of_isFirstRepeated {b : Binding} (h : IsFirstRepeated bs b) :
    adopt [] bs = .error (.repeatedType b.type) := by
  obtain ⟨before, after, rfl, hnodup, hmem⟩ := h
  have hbefore : adopt [] before = .ok before := adopt_of_nodup hnodup
  rw [adopt_append, hbefore]
  change adopt before (b :: after) = _
  rw [adopt, if_pos (any_type_iff.2 hmem)]

theorem exists_isFirstRepeated (h : ¬ (types bs).Nodup) : ∃ b, IsFirstRepeated bs b := by
  induction bs using List.reverseRec with
  | nil => exact absurd List.nodup_nil h
  | append_singleton bs b ih =>
    by_cases hbs : (types bs).Nodup
    · refine ⟨b, bs, [], rfl, hbs, ?_⟩
      by_contra hnew
      exact h (nodup_types_concat.2 ⟨hnew, hbs⟩)
    · obtain ⟨c, before, after, rfl, hnodup, hmem⟩ := ih hbs
      exact ⟨c, before, after ++ [b], by simp, hnodup, hmem⟩

/-- Where all sources can be read, their bindings are adopted in order. -/
theorem collect_eq_adopt {texts : Path → Text}
    (h : ∀ p ∈ ps, s.files.readText p = .ok (texts p)) :
    (collect found ps s).2 = adopt found (ps.flatMap fun p => Source.bindings (texts p)) := by
  induction ps generalizing found with
  | nil => rfl
  | cons p ps ih =>
    obtain ⟨hp, hps⟩ := List.forall_mem_cons.1 h
    have hown : (bindingsOf p s).2 = .ok (Source.bindings (texts p)) := by
      rw [snd_bindingsOf, hp]
      rfl
    rw [snd_collect_cons, hown, List.flatMap_cons, adopt_append]
    change (adopt found (Source.bindings (texts p)) >>= fun fs => (collect fs ps s).2) = _
    simp only [ih hps]

def union (texts : Path → Text) (ps : List Path) : List Binding :=
  ps.flatMap fun p => Source.bindings (Text.foldBreaks (texts p))

/-- What is looked up for a type is the name of the one class that is bound to it. -/
theorem lookup_entries {b : Binding} (h : (types bs).Nodup) (hb : b ∈ bs) :
    (bs.map fun b => (b.type, b.qualifiedName)).lookup b.type = some b.qualifiedName := by
  induction bs with
  | nil => cases hb
  | cons c bs ih =>
    obtain ⟨hc, hbs⟩ := List.nodup_cons.1 h
    rcases List.mem_cons.1 hb with rfl | hb
    · rw [List.map_cons, List.lookup_cons, beq_self_eq_true]
    · have hne : (b.type == c.type) = false := by
        rw [beq_eq_false_iff_ne]
        intro he
        exact hc (he ▸ List.mem_map_of_mem hb)
      rw [List.map_cons, List.lookup_cons, hne]
      exact ih hbs hb

/-- The discovery is one of these bindings: it finds them unless a type is bound twice in them, and
then refuses the first one that is bound again. Each type that is found has one entry in the lookup,
with the name of its class. -/
structure IsCheckedUnion (source : Path) (s : Site) (all : List Binding) : Prop where
  found : (types all).Nodup → (bindings source s).2 = .ok all
  refused : ¬ (types all).Nodup →
    ∃ b, IsFirstRepeated all b ∧ (bindings source s).2 = .error (.repeatedType b.type)
  distinct : ∀ bs, (bindings source s).2 = .ok bs → (types bs).Nodup
  entries : ∀ bs, (bindings source s).2 = .ok bs → ∃ entries, (lookup source s).2 = .ok entries ∧
    entries.map Prod.fst = types bs ∧
    ∀ b ∈ bs, entries.lookup b.type = some (b.package ++ '.' :: b.type)

theorem isCheckedUnion_of_adopt {source : Path} {all : List Binding}
    (h : (bindings source s).2 = adopt [] all) : IsCheckedUnion source s all := by
  have hfound : (types all).Nodup → (bindings source s).2 = .ok all :=
    fun hnodup => h.trans (adopt_of_nodup hnodup)
  have hrefused : ¬ (types all).Nodup →
      ∃ b, IsFirstRepeated all b ∧ (bindings source s).2 = .error (.repeatedType b.type) := by
    intro hnodup
    obtain ⟨b, hb⟩ := exists_isFirstRepeated hnodup
    exact ⟨b, hb, h.trans (adopt_of_isFirstRepeated hb)⟩
  have hdistinct : ∀ bs, (bindings source s).2 = .ok bs → (types bs).Nodup := by
    intro bs hbs
    by_cases hnodup : (types all).Nodup
    · cases (hfound hnodup).symm.trans hbs
      exact hnodup
    · obtain ⟨b, -, hb⟩ := hrefused hnodup
      cases hb.symm.trans hbs
  refine ⟨hfound, hrefused, hdistinct, fun bs hbs => ?_⟩
  have hlookup : (lookup source s).2 = .ok (bs.map fun b => (b.type, b.qualifiedName)) := by
    rw [lookup, Reading.snd_bind, hbs]
    rfl
  refine ⟨_, hlookup, ?_, fun b hb => lookup_entries (hdistinct bs hbs) hb⟩
  rw [List.map_map]
  rfl

theorem bindings_eq_adopt {source : Path} {texts : Path → Text}
    (hps : s.files.below source ".rs" = .ok ps)
    (htexts : ∀ p ∈ ps, s.files.readExact p = .ok (texts p)) :
    (bindings source s).2 = adopt [] (union texts ps) := by
  have hread : ∀ p ∈ ps, s.files.readText p = .ok (Text.foldBreaks (texts p)) := by
    intro p hp
    rw [FileTree.readText, htexts p hp]
    rfl
  rw [bindings, Reading.snd_bind, Reading.snd_ofTree, hps]
  exact collect_eq_adopt hread

/-- Whatever the order of the entries, a discovery in a directory whose sources are all texts is one
of the bindings of all of them, in the order of the components of their paths. -/
theorem bindings_checked_union (source : Path) (t : FileTree) (texts : Path → Text)
    (hn : (t.map Prod.fst).Nodup) (hdir : t.stat source = .ok .dir)
    (htexts : ∀ p, t.IsBelow source ".rs" p → t.readExact p = .ok (texts p)) :
    ∃ ps, (∀ p, p ∈ ps ↔ t.IsBelow source ".rs" p) ∧
      (ps.Pairwise fun p q => p.parts < q.parts) ∧
      ∀ s : Site, s.files.Perm t → IsCheckedUnion source s (union texts ps) := by
  obtain ⟨ps, -, hmem, hsorted⟩ := FileTree.exists_below ".rs" hn hdir
  refine ⟨ps, hmem, hsorted, fun s hperm => isCheckedUnion_of_adopt ?_⟩
  obtain ⟨qs, hqs, hmem', hsorted'⟩ := FileTree.exists_below ".rs"
    (FileTree.nodup_of_perm hperm hn) (FileTree.stat_of_perm hperm hn hdir)
  obtain rfl : ps = qs := by
    refine FileTree.eq_of_pairwise_lt hsorted hsorted' fun p => ?_
    rw [hmem, hmem', FileTree.isBelow_iff_of_perm hperm]
  exact bindings_eq_adopt hqs fun p hp =>
    FileTree.readExact_of_perm hperm hn (htexts p ((hmem p).1 hp))

/-- Two sources; the text of the path of the first is less than that of the second, the components
of its path are not. -/
def twoSources : FileTree :=
  [(["src"], .dir),
   (["src", "a-b.rs"], .file (Utf8.encode "#[java_class(\"org\")]impl B {}") false),
   (["src", "a"], .dir),
   (["src", "a", "c.rs"], .file (Utf8.encode "#[java_class(\"com\")]impl C {}") false)]

def textOfSource (p : Path) : Text :=
  if p.parts = ["src", "a-b.rs"] then "#[java_class(\"org\")]impl B {}"
  else "#[java_class(\"com\")]impl C {}"

theorem isBelow_twoSources {p : Path} : twoSources.IsBelow "src" ".rs" p ↔
    p = ("src/a/c.rs" : Path) ∨ p = ("src/a-b.rs" : Path) := by
  have hloc : Path.location "src" = ["src".toList] := by decide
  constructor
  · rintro ⟨cs, hmem, hname, rfl⟩
    rw [hloc] at hmem
    simp only [twoSources, List.map_cons, List.map_nil, List.singleton_append, List.mem_cons,
      List.not_mem_nil, or_false, List.cons.injEq, true_and] at hmem
    rcases hmem with rfl | rfl | rfl | rfl
    · cases hname
    · exact .inr (by decide)
    · exact absurd hname (by decide)
    · exact .inl (by decide)
  · rintro (rfl | rfl)
    · exact ⟨["a", "c.rs"], by decide, by decide, by decide⟩
    · exact ⟨["a-b.rs"], by decide, by decide, by decide⟩

theorem bindings_checked_union_twoSources :
    (twoSources.map Prod.fst).Nodup ∧ twoSources.stat "src" = .ok .dir ∧
      (∀ p, twoSources.IsBelow "src" ".rs" p → twoSources.readExact p = .ok (textOfSource p)) ∧
      (bindings "src" ⟨twoSources, "linux", .refusing⟩).2 = .ok [⟨"C", "com"⟩, ⟨"B", "org"⟩] := by
  have hn : (twoSources.map Prod.fst).Nodup := by decide
  have hdir : twoSources.stat "src" = .ok .dir := rfl
  have htexts : ∀ p, twoSources.IsBelow "src" ".rs" p →
      twoSources.readExact p = .ok (textOfSource p) := by
    intro p hp
    rcases isBelow_twoSources.1 hp with rfl | rfl
    · decide +kernel
    · decide +kernel
  refine ⟨hn, hdir, htexts, ?_⟩
  obtain ⟨ps, hmem, hsorted, hunion⟩ := bindings_checked_union "src" twoSources textOfSource hn hdir
    htexts
  obtain rfl : ps = [("src/a/c.rs" : Path), ("src/a-b.rs" : Path)] := by
    refine FileTree.eq_of_pairwise_lt hsorted (by decide) fun p => ?_
    rw [hmem, isBelow_twoSources]
    simp
  have hall : union textOfSource [("src/a/c.rs" : Path), ("src/a-b.rs" : Path)] =
      [⟨"C", "com"⟩, ⟨"B", "org"⟩] := by decide +kernel
  have hfound := (hunion ⟨twoSources, "linux", .refusing⟩ (.refl _)).found
  rw [hall] at hfound
  exact hfound (by decide)

end CrateScaffold.Discovery
