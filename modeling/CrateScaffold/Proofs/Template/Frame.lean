import CrateScaffold.Template.Scope

/-!
Frames of templates that assign nothing. Every name that is used in such a frame is one of its own
or of an outer one, and its own are bound on entry or looked up in the context.
-/

namespace CrateScaffold.Template

variable {outer ns ms : List Text} {f g h : Frame} {t : Target} {n : Text}

mutual

def Node.sets : Node → Bool
  | .text _ => false
  | .print _ => false
  | .choose bs other => branchesSet bs || anySets other
  | .each _ _ _ body other => anySets body || anySets other
  | .assign .. => true
  | .capture .. => true

def anySets : List Node → Bool
  | [] => false
  | x :: xs => x.sets || anySets xs

def branchesSet : List Branch → Bool
  | [] => false
  | .of _ body :: bs => anySets body || branchesSet bs

end

mutual

def Node.uses : Node → List Text
  | .text _ => []
  | .print e => e.uses
  | .choose bs other => usesOfBranches bs ++ usesOfNodes other
  | .each _ source _ _ _ => source.uses
  | .assign _ e => e.uses
  | .capture .. => []

def usesOfNodes : List Node → List Text
  | [] => []
  | x :: xs => x.uses ++ usesOfNodes xs

def usesOfBranches : List Branch → List Text
  | [] => []
  | .of e body :: bs => e.uses ++ usesOfNodes body ++ usesOfBranches bs

end

namespace Frame

@[simp] theorem mem_names_put {k : Text} {o : Origin} :
    k ∈ (f.put n o).names ↔ k = n ∨ k ∈ f.names := by
  unfold put
  split
  · next hn =>
    have hkeys : (f.origins.map fun p => if p.1 = n then (n, o) else p).map (·.1) = f.names := by
      rw [List.map_map]
      refine List.map_congr_left fun p _ => ?_
      simp only [Function.comp]
      split
      · next hp => exact hp.symm
      · rfl
    rw [names, hkeys]
    constructor
    · exact .inr
    · rintro (rfl | hk)
      · simpa using hn
      · exact hk
  · simp [names, or_comm]

theorem mem_origins_put {o : Origin} {p : Text × Origin} (hp : p ∈ (f.put n o).origins) :
    p = (n, o) ∨ p ∈ f.origins := by
  unfold put at hp
  split at hp
  · obtain ⟨q, hq, heq⟩ := List.mem_map.1 hp
    split at heq
    · exact .inl heq.symm
    · exact .inr (heq ▸ hq)
  · rcases List.mem_append.1 hp with hp | hp
    · exact .inr hp
    · exact .inl (List.mem_singleton.1 hp)

@[simp] theorem assigned_put {o : Origin} : (f.put n o).assigned = f.assigned := by
  unfold put
  split <;> rfl

/-- From `f` to `g` names were only used, these among them: what is new was looked up in the
context. -/
structure Takes (outer ns : List Text) (f g : Frame) : Prop where
  names : f.names ⊆ g.names
  uses : ∀ n ∈ ns, n ∈ g.names ∨ n ∈ outer
  assigned : g.assigned ⊆ f.assigned
  origins : ∀ p ∈ g.origins, p ∈ f.origins ∨ p.2 = .context

namespace Takes

theorem rfl : Takes outer [] f f :=
  ⟨List.Subset.refl _, nofun, List.Subset.refl _, fun _ => .inl⟩

theorem trans (hfg : Takes outer ns f g) (hgh : Takes outer ms g h) :
    Takes outer (ns ++ ms) f h where
  names := List.Subset.trans hfg.names hgh.names
  uses := List.forall_mem_append.2
    ⟨fun n hn => (hfg.uses n hn).imp_left fun hn => hgh.names hn, hgh.uses⟩
  assigned := List.Subset.trans hgh.assigned hfg.assigned
  origins p hp := (hgh.origins p hp).elim (hfg.origins p) .inr

theorem mono (hfg : Takes outer ms f g) (hn : ns ⊆ ms) : Takes outer ns f g :=
  { hfg with uses := fun n hn' => hfg.uses n (hn hn') }

theorem load (outer : List Text) (f : Frame) (n : Text) :
    Takes outer [n] f (f.load outer n) := by
  unfold Frame.load
  split
  · next hn =>
    refine ⟨List.Subset.refl _, ?_, List.Subset.refl _, fun _ => .inl⟩
    simpa using hn
  · refine ⟨fun k hk => mem_names_put.2 (.inr hk), by simp, by simp, fun p hp => ?_⟩
    rcases mem_origins_put hp with rfl | hp
    · exact .inr (Eq.refl _)
    · exact .inl hp

theorem loads (outer : List Text) (f : Frame) (e : Expr) :
    Takes outer e.uses f (f.loads outer e) := by
  unfold Frame.loads
  generalize e.uses = ns
  induction ns generalizing f with
  | nil => exact rfl
  | cons n ns ih => exact (load outer f n).trans (ih (f.load outer n))

end Takes

theorem mem_names_foldl_put {k : Text} {ps : List (Text × Origin)} :
    k ∈ (ps.foldl (fun g p => g.put p.1 p.2) g).names ↔ k ∈ ps.map (·.1) ∨ k ∈ g.names := by
  induction ps generalizing g with
  | nil => simp
  | cons p ps ih => simp [ih, or_left_comm, or_assoc]

theorem mem_origins_foldl_put {p : Text × Origin} {ps : List (Text × Origin)}
    (hp : p ∈ (ps.foldl (fun g p => g.put p.1 p.2) g).origins) : p ∈ ps ∨ p ∈ g.origins := by
  induction ps generalizing g with
  | nil => exact .inr hp
  | cons q ps ih =>
    rcases ih hp with hp | hp
    · exact .inl (List.mem_cons_of_mem _ hp)
    · rcases mem_origins_put hp with rfl | hp
      · exact .inl List.mem_cons_self
      · exact .inr hp

def merge (g b : Frame) : Frame :=
  { b.origins.foldl (fun g p => g.put p.1 p.2) g with assigned := b.assigned ++ g.assigned }

@[simp] theorem mem_names_merge {b : Frame} : n ∈ (g.merge b).names ↔ n ∈ b.names ∨ n ∈ g.names :=
  mem_names_foldl_put

namespace Takes

variable {b : Frame} {branches : List Frame}

theorem merge (hg : Takes outer [] f g) (hb : Takes outer [] f b) :
    Takes outer [] f (g.merge b) where
  names _ hk := mem_names_merge.2 (.inl (hb.names hk))
  uses := nofun
  assigned := List.append_subset.2 ⟨hb.assigned, hg.assigned⟩
  origins _ hp := (mem_origins_foldl_put hp).elim (hb.origins _) (hg.origins _)

theorem foldl_merge (hg : Takes outer [] f g) (hb : ∀ b ∈ branches, Takes outer [] f b) :
    Takes outer [] f (branches.foldl Frame.merge g) := by
  induction branches generalizing g with
  | nil => exact hg
  | cons b branches ih =>
    obtain ⟨hb, hbranches⟩ := List.forall_mem_cons.1 hb
    exact ih (hg.merge hb) hbranches

end Takes

theorem mem_names_foldl_merge {branches : List Frame} :
    n ∈ (branches.foldl merge g).names ↔ (∃ b ∈ branches, n ∈ b.names) ∨ n ∈ g.names := by
  induction branches generalizing g with
  | nil => simp
  | cons b branches ih => simp [ih, or_left_comm, or_assoc]

/-- Branches that assign nothing leave nothing but the names that they use. -/
theorem Takes.join {branches : List Frame} (hb : ∀ b ∈ branches, Takes outer [] f b)
    (hns : ∀ n ∈ ns, (∃ b ∈ branches, n ∈ b.names) ∨ n ∈ outer) :
    Takes outer ns f (f.join outer branches) := by
  have hfresh : (branches.flatMap (·.assigned)).filter (!f.assigned.contains ·) = [] := by
    rw [List.filter_eq_nil_iff]
    intro n hn
    obtain ⟨b, hmem, hn⟩ := List.mem_flatMap.1 hn
    simpa using (hb b hmem).assigned hn
  have hjoin : f.join outer branches = branches.foldl Frame.merge f := by
    unfold Frame.join
    rw [hfresh]
    rfl
  rw [hjoin]
  refine { Takes.foldl_merge .rfl hb with uses := fun n hn => (hns n hn).imp_left fun h => ?_ }
  exact mem_names_foldl_merge.2 (.inl h)

mutual

theorem takes_visit : (x : Node) → {f : Frame} → x.sets = false →
    Takes outer x.uses f (visit outer f x)
  | .text _, _, _ => .rfl
  | .print e, f, _ => .loads outer f e
  | .choose bs other, f, hx => by
    obtain ⟨hbs, hother⟩ := Bool.or_eq_false_iff.1 hx
    obtain ⟨hfirst, hbranches, huses⟩ := takes_visitFirst bs (f := f) hbs
    have hlast := takes_visitAll other (f := (visitFirst outer f bs).1) hother
    refine hfirst.trans (.join ?_ ?_)
    · rw [List.forall_mem_append, List.forall_mem_singleton]
      exact ⟨hbranches, hlast.mono (List.nil_subset _)⟩
    · refine List.forall_mem_append.2 ⟨fun n hn => ?_, fun n hn => ?_⟩
      · rcases huses n hn with h | ⟨b, hb, h⟩ | h
        · exact .inl ⟨_, List.mem_append_right _ (List.mem_singleton_self _), hlast.names h⟩
        · exact .inl ⟨b, List.mem_append_left _ hb, h⟩
        · exact .inr h
      · exact (hlast.uses n hn).imp_left fun h =>
          ⟨_, List.mem_append_right _ (List.mem_singleton_self _), h⟩
  | .each t source test body other, f, _ => .loads outer f source

theorem takes_visitAll : (xs : List Node) → {f : Frame} → anySets xs = false →
    Takes outer (usesOfNodes xs) f (visitAll outer f xs)
  | [], _, _ => .rfl
  | x :: xs, f, hxs => by
    obtain ⟨hx, hxs⟩ := Bool.or_eq_false_iff.1 hxs
    exact (takes_visit x hx).trans (takes_visitAll xs hxs)

theorem takes_visitFirst : (bs : List Branch) → {f : Frame} → branchesSet bs = false →
    Takes outer [] f (visitFirst outer f bs).1 ∧
      (∀ b ∈ (visitFirst outer f bs).2, Takes outer [] (visitFirst outer f bs).1 b) ∧
      ∀ n ∈ usesOfBranches bs, n ∈ (visitFirst outer f bs).1.names ∨
        (∃ b ∈ (visitFirst outer f bs).2, n ∈ b.names) ∨ n ∈ outer
  | [], f, _ => ⟨.rfl, nofun, nofun⟩
  | .of e body :: bs, f, h => by
    obtain ⟨hbody, hbs⟩ := Bool.or_eq_false_iff.1 h
    have he : Takes outer e.uses f (f.loads outer e) := .loads outer f e
    have hfirst := takes_visitAll body (f := f.loads outer e) hbody
    have hrest := takes_visitRest bs (f := f.loads outer e) hbs
    refine ⟨he.mono (List.nil_subset _), ?_, ?_⟩
    · refine List.forall_mem_cons.2 ⟨hfirst.mono (List.nil_subset _), ?_⟩
      exact List.forall_mem_singleton.2 (hrest.mono (List.nil_subset _))
    · simp only [usesOfBranches, List.forall_mem_append]
      refine ⟨⟨fun n hn => ?_, fun n hn => ?_⟩, fun n hn => ?_⟩
      · exact (he.uses n hn).imp_right .inr
      · exact .inr ((hfirst.uses n hn).imp_left fun h => ⟨_, List.mem_cons_self, h⟩)
      · exact .inr ((hrest.uses n hn).imp_left fun h => ⟨_, .tail _ (.head _), h⟩)

theorem takes_visitRest : (bs : List Branch) → {f : Frame} → branchesSet bs = false →
    Takes outer (usesOfBranches bs) f (visitRest outer f bs)
  | [], _, _ => .rfl
  | .of e body :: bs, f, h => by
    obtain ⟨hbody, hbs⟩ := Bool.or_eq_false_iff.1 h
    have hfirst := takes_visitAll body (f := f.loads outer e) hbody
    refine ((Takes.loads outer f e).trans (.join ?_ fun n hn => ?_)).trans (takes_visitRest bs hbs)
    · simp only [List.forall_mem_cons]
      exact ⟨hfirst.mono (List.nil_subset _), .rfl, .rfl, List.forall_mem_nil _⟩
    · exact (hfirst.uses n hn).imp_left fun h => ⟨_, List.mem_cons_self, h⟩

end

theorem origins_binds (f : Frame) (t : Target) :
    ∀ p ∈ (f.binds t).origins, p ∈ f.origins ∨ p.2 = .bound ∧ p.1 ∈ t.names.map (·.1) := by
  unfold binds
  generalize t.names.map (·.1) = ns
  induction ns generalizing f with
  | nil => exact fun _ => .inl
  | cons n ns ih =>
    intro p hp
    rcases ih (f.bind n) p hp with hp | ⟨ho, hn⟩
    · rcases mem_origins_put hp with rfl | hp
      · exact .inr ⟨rfl, List.mem_cons_self⟩
      · exact .inl hp
    · exact .inr ⟨ho, List.mem_cons_of_mem _ hn⟩

def BindsOnly (ns : List Text) (f : Frame) : Prop :=
  ∀ p ∈ f.origins, p.2 = .context ∨ p.2 = .bound ∧ p.1 ∈ ns

theorem BindsOnly.of_takes (hf : f.BindsOnly ns) (h : Takes outer ms f g) : g.BindsOnly ns :=
  fun p hp => (h.origins p hp).elim (hf p) .inl

theorem bindsOnly_empty : empty.BindsOnly ns := nofun

theorem bindsOnly_binds (hf : f.BindsOnly ns) (ht : t.names.map (·.1) ⊆ ns) :
    (f.binds t).BindsOnly ns :=
  fun p hp => (origins_binds f t p hp).elim (hf p) fun h => .inr ⟨h.1, ht h.2⟩

/-! The frames of a template: what they hold covers what is used in them. -/

variable {xs body : List Node}

theorem bindsOnly_ofSection (hxs : anySets xs = false) : (ofSection outer xs).BindsOnly [] :=
  bindsOnly_empty.of_takes (takes_visitAll xs hxs)

theorem bindsOnly_ofTest (outer : List Text) (t : Target) (e : Expr) :
    (ofTest outer t e).BindsOnly (t.names.map (·.1)) :=
  (bindsOnly_binds bindsOnly_empty (List.Subset.refl _)).of_takes (.loads outer _ e)

theorem bindsOnly_ofBody (hbody : anySets body = false) :
    (ofBody outer t body).BindsOnly (loopName :: t.names.map (·.1)) := by
  have hloop : (if mentionsAny loopName body then empty.bind loopName else empty).BindsOnly
      (loopName :: t.names.map (·.1)) := by
    split
    · intro p hp
      rcases mem_origins_put hp with rfl | hp
      · exact .inr ⟨rfl, List.mem_cons_self⟩
      · cases hp
    · exact bindsOnly_empty
  exact (bindsOnly_binds hloop (List.subset_cons_self _ _)).of_takes (takes_visitAll body hbody)

theorem uses_ofSection (hxs : anySets xs = false) :
    ∀ n ∈ usesOfNodes xs, n ∈ (ofSection outer xs).names ++ outer :=
  fun n hn => List.mem_append.2 ((takes_visitAll xs hxs).uses n hn)

theorem uses_ofTest (outer : List Text) (t : Target) (e : Expr) :
    ∀ n ∈ e.uses, n ∈ (ofTest outer t e).names ++ outer :=
  fun n hn => List.mem_append.2 ((Takes.loads outer _ e).uses n hn)

theorem uses_ofBody (hbody : anySets body = false) :
    ∀ n ∈ usesOfNodes body, n ∈ (ofBody outer t body).names ++ outer :=
  fun n hn => List.mem_append.2 ((takes_visitAll body hbody).uses n hn)

end Frame

end CrateScaffold.Template
