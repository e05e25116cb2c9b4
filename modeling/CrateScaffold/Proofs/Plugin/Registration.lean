import CrateScaffold.Proofs.World.Effect

/-!
What registries come to hold. Registering only adds, so once a registry counts as initialized the
bundled plugins are in it; and plugins with names of their own are all registered, in their order.
-/

namespace CrateScaffold.Registry

variable {r s : Registry} {p : Plugin} {ps : List Plugin} {trouble : Option Text}

theorem register_eq_ok (h : r.register p = .ok s) : s = { r with plugins := r.plugins ++ [p] } := by
  unfold register at h
  split at h
  · cases h
  · exact (Except.ok.inj h).symm

theorem register_of_not_mem (h : p.name ∉ r.names) :
    r.register p = .ok { r with plugins := r.plugins ++ [p] } := by
  unfold register
  rw [if_neg]
  simpa using h

theorem initialized_registerAll (r : Registry) (ps : List Plugin) :
    (r.registerAll ps).1.initialized = r.initialized := by
  fun_induction registerAll r ps with
  | case1 r => rfl
  | case2 r p ps f hp => rfl
  | case3 r p ps s hp ih => rw [ih, register_eq_ok hp]

theorem subset_registerAll (r : Registry) (ps : List Plugin) :
    r.plugins ⊆ (r.registerAll ps).1.plugins := by
  fun_induction registerAll r ps with
  | case1 r => exact List.Subset.refl _
  | case2 r p ps f hp => exact List.Subset.refl _
  | case3 r p ps s hp ih =>
    rw [register_eq_ok hp] at ih ⊢
    exact List.Subset.trans (List.subset_append_left _ _) ih

theorem registerAll_subset (r : Registry) (ps : List Plugin) :
    (r.registerAll ps).1.plugins ⊆ r.plugins ++ ps := by
  fun_induction registerAll r ps with
  | case1 r => simp
  | case2 r p ps f hp => exact List.subset_append_left _ _
  | case3 r p ps s hp ih =>
    rw [register_eq_ok hp] at ih ⊢
    simpa using ih

theorem registerAll_eq_none (h : r.registerAll ps = (s, none)) : s.plugins = r.plugins ++ ps := by
  induction ps generalizing r with
  | nil =>
    cases h
    simp
  | cons p ps ih =>
    rw [registerAll] at h
    split at h
    · cases h
    · next t ht =>
      have hs := ih h
      rw [register_eq_ok ht] at hs
      simpa using hs

theorem registerAll_of_nodup (h : (r.names ++ ps.map Plugin.name).Nodup) :
    r.registerAll ps = ({ r with plugins := r.plugins ++ ps }, none) := by
  induction ps generalizing r with
  | nil => simp [registerAll]
  | cons p ps ih =>
    have hp : p.name ∉ r.names := fun hm =>
      (List.nodup_append.1 h).2.2 p.name hm p.name (by simp) rfl
    rw [registerAll, register_of_not_mem hp]
    have hnext := ih (r := { r with plugins := r.plugins ++ [p] })
      (by simpa [names] using h)
    simpa using hnext

/-- Registered are those before the first whose name is taken; no name is registered twice. -/
theorem registerAll_eq_prefix (ps : List Plugin) (hn : r.names.Nodup) :
    ∃ taken left, ps = taken ++ left ∧
      (r.registerAll ps).1 = { r with plugins := r.plugins ++ taken } ∧
      (r.registerAll ps).1.names.Nodup ∧
      ∀ p ∈ left.head?, p.name ∈ (r.registerAll ps).1.names := by
  induction ps generalizing r with
  | nil => exact ⟨[], [], rfl, by simp [registerAll], hn, by simp⟩
  | cons p ps ih =>
    by_cases hp : p.name ∈ r.names
    · have hstop : (r.registerAll (p :: ps)).1 = r := by
        rw [registerAll, register, if_pos (by simpa using hp)]
      refine ⟨[], p :: ps, rfl, by simp [hstop], by rwa [hstop], fun q hq => ?_⟩
      rwa [hstop, ← Option.some.inj hq]
    · have hstep : r.registerAll (p :: ps) =
          { r with plugins := r.plugins ++ [p] }.registerAll ps := by
        rw [registerAll, register_of_not_mem hp]
      have hnext : ({ r with plugins := r.plugins ++ [p] } : Registry).names.Nodup := by
        rw [names, List.map_append, List.nodup_append]
        refine ⟨hn, by simp, ?_⟩
        rintro n hm _ hn' rfl
        exact hp (List.mem_singleton.1 hn' ▸ hm)
      obtain ⟨taken, left, rfl, hall, hnodup, hleft⟩ := ih hnext
      rw [hstep]
      exact ⟨p :: taken, left, rfl, by rw [hall]; simp, hnodup, hleft⟩

theorem registerAll_bundled :
    Registry.empty.registerAll Plugin.bundled = (⟨Plugin.bundled, false⟩, none) :=
  registerAll_of_nodup (by decide)

inductive Reachable : Registry → Prop
  | empty : Reachable .empty
  | register {r s : Registry} {p : Plugin} :
      Reachable r → r.register p = .ok s → Reachable s
  | load {r : Registry} (external : List Plugin) (trouble : Option Text) :
      Reachable r → Reachable (r.load external trouble).1

theorem bundled_of_load (hr : r.initialized = true → Plugin.bundled ⊆ r.plugins)
    (hs : (r.load ps trouble).1.initialized = true ∨ (r.load ps trouble).2.2 = .ok ()) :
    Plugin.bundled ⊆ (r.load ps trouble).1.plugins := by
  unfold load at hs ⊢
  split
  · next hi => exact hr hi
  · next hi =>
    rw [if_neg hi] at hs
    split
    · next t f ht =>
      -- a taken name: the registry does not count as initialized, and there is a failure
      have hinit := initialized_registerAll r Plugin.bundled
      simp_all
    · next t ht =>
      have hall := registerAll_eq_none ht
      have hsub := subset_registerAll t ps
      intro q hq
      exact hsub (by rw [hall]; exact List.mem_append_right _ hq)

/-- Every initialized registry holds the bundled plugins, whatever happened to it before. -/
theorem Reachable.bundled_subset (h : r.Reachable) :
    r.initialized = true → Plugin.bundled ⊆ r.plugins := by
  induction h with
  | empty =>
    intro hi
    cases hi
  | register hr hp ih =>
    rw [register_eq_ok hp]
    intro hi
    exact List.Subset.trans (ih hi) (List.subset_append_left _ _)
  | load external trouble hr ih =>
    intro hi
    exact bundled_of_load ih (.inl hi)

/-- Plugins come from what was registered, the bundled and the external ones. -/
theorem load_subset (r : Registry) (ps : List Plugin) (trouble : Option Text) :
    (r.load ps trouble).1.plugins ⊆ r.plugins ++ (Plugin.bundled ++ ps) := by
  have hbundled := registerAll_subset r Plugin.bundled
  unfold load
  split
  · exact List.subset_append_left _ _
  · split
    · next s f hs =>
      rw [hs] at hbundled
      rw [← List.append_assoc]
      exact List.Subset.trans hbundled (List.subset_append_left _ _)
    · next s hs =>
      rw [hs] at hbundled
      have hexternal := registerAll_subset s ps
      rw [← List.append_assoc]
      refine List.Subset.trans hexternal (List.append_subset.2 ⟨?_, List.subset_append_right _ _⟩)
      exact List.Subset.trans hbundled (List.subset_append_left _ _)

/-- What was loaded is not loaded again. -/
theorem load_load {qs : List Plugin} {more : Option Text}
    (h : (r.load ps trouble).2.2 = .ok ()) :
    (r.load ps trouble).1.load qs more = ((r.load ps trouble).1, [], .ok ()) := by
  have hinitialized : (r.load ps trouble).1.initialized = true := by
    unfold load at h ⊢
    split
    · next hi => exact hi
    · next hi =>
      rw [if_neg hi] at h
      split
      · next s f hs =>
        rw [hs] at h
        cases h
      · rfl
  rw [load, if_pos hinitialized]

/-- Nothing is registered yet, or just the bundled plugins and these have been loaded. -/
def ReadyFor (r : Registry) (external : List Plugin) : Prop :=
  r = .empty ∨ r = ⟨Plugin.bundled ++ external, true⟩

theorem load_of_readyFor (trouble : Option Text) (hr : r.ReadyFor ps)
    (hn : (ps.map Plugin.name).Nodup)
    (hb : ∀ p ∈ ps, p.name ∉ Plugin.bundled.map Plugin.name) :
    (r.load ps trouble).1 = ⟨Plugin.bundled ++ ps, true⟩ ∧ (r.load ps trouble).2.2 = .ok () := by
  rcases hr with rfl | rfl
  · have hnames : ((⟨Plugin.bundled, false⟩ : Registry).names ++ ps.map Plugin.name).Nodup := by
      refine List.nodup_append.2 ⟨by decide, hn, ?_⟩
      rintro n hm _ hq rfl
      obtain ⟨p, hp, rfl⟩ := List.mem_map.1 hq
      exact hb p hp hm
    unfold load
    rw [if_neg (by decide), registerAll_bundled]
    refine ⟨?_, rfl⟩
    simp only [registerAll_of_nodup hnames]
  · exact ⟨rfl, rfl⟩

end CrateScaffold.Registry
