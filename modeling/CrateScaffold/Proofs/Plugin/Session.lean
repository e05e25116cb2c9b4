import CrateScaffold.Proofs.Project.Plan

/-!
The registry over a whole session. Whatever is asked, and whether or not plans fail, either nothing
is registered and the system is not initialized, or it is and all plugins are registered that can
be: the bundled ones, and the external ones before the first whose name is taken.
-/

namespace CrateScaffold

namespace Registry

variable {r s : Registry} {external : List Plugin} {trouble : Option Text} {names : List Text}

theorem plugins_foldl_unregister :
    (names.foldl unregister r).plugins = r.plugins.filter fun p => p.name ∉ names := by
  induction names generalizing r with
  | nil => simp
  | cons name names ih =>
    have heq : (fun p : Plugin => decide (p.name ∉ names) && p.name != name) =
        fun p => decide (p.name ∉ name :: names) := by
      funext p
      rw [Bool.eq_iff_iff]
      simp [and_comm]
    rw [List.foldl_cons, ih, unregister, List.filter_filter, heq]

theorem reset_eq_empty (r : Registry) : r.reset = .empty := by
  have hnone : (r.names.foldl unregister r).plugins = [] := by
    rw [plugins_foldl_unregister, List.filter_eq_nil_iff]
    intro p hp
    have hmem : p.name ∈ r.names := List.mem_map_of_mem hp
    simpa using hmem
  rw [reset, hnone, empty]

/-- Registered are the bundled plugins and then the external ones, up to the first whose name is
taken already. -/
structure IsLoaded (external : List Plugin) (r : Registry) : Prop where
  distinct : r.names.Nodup
  plugins : ∃ taken left, external = taken ++ left ∧ r.plugins = Plugin.bundled ++ taken ∧
    ∀ p ∈ left.head?, p.name ∈ r.names

/-- The external plugins that are registered are the most that can be. -/
theorem IsLoaded.longest (h : IsLoaded external r) {ps : List Plugin} (hps : ps <+: external)
    (hn : ((Plugin.bundled ++ ps).map Plugin.name).Nodup) :
    Plugin.bundled ++ ps <+: r.plugins := by
  obtain ⟨taken, left, rfl, hplugins, hleft⟩ := h.plugins
  rw [hplugins, List.prefix_append_right_inj]
  rcases List.prefix_or_prefix_of_prefix hps (List.prefix_append taken left) with hshort | hlong
  · exact hshort
  · obtain ⟨more, rfl⟩ := hlong
    cases more with
    | nil => simp
    | cons p more =>
      -- The plugin behind the registered ones has a name that is taken.
      have hhead : left.head? = some p := by
        obtain ⟨rest, hrest⟩ := hps
        rw [List.append_assoc, List.append_cancel_left_eq] at hrest
        rw [← hrest]
        rfl
      have htaken := hleft p hhead
      rw [names, hplugins] at htaken
      rw [← List.append_assoc, List.map_append, List.nodup_append] at hn
      exact absurd rfl (hn.2.2 _ htaken _ (by simp))

/-- There is only one registry in which all is registered that can be. -/
theorem IsLoaded.unique (hr : IsLoaded external r) (hs : IsLoaded external s) :
    r.plugins = s.plugins := by
  obtain ⟨taken, left, hexternal, hplugins, -⟩ := hr.plugins
  obtain ⟨taken', left', hexternal', hplugins', -⟩ := hs.plugins
  have hrs : Plugin.bundled ++ taken <+: s.plugins :=
    hs.longest ⟨left, hexternal.symm⟩ (hplugins ▸ hr.distinct)
  have hsr : Plugin.bundled ++ taken' <+: r.plugins :=
    hr.longest ⟨left', hexternal'.symm⟩ (hplugins' ▸ hs.distinct)
  rw [← hplugins] at hrs
  rw [← hplugins'] at hsr
  exact hrs.eq_of_length_le hsr.length_le

theorem load_empty (external : List Plugin) (trouble : Option Text) :
    (empty.load external trouble).2.2 = .ok () ∧
      (empty.load external trouble).1.initialized = true ∧
      IsLoaded external (empty.load external trouble).1 := by
  obtain ⟨taken, left, hexternal, hall, hn, hleft⟩ :=
    registerAll_eq_prefix (r := ⟨Plugin.bundled, false⟩) external (by decide)
  rw [load, if_neg (by decide), registerAll_bundled]
  exact ⟨rfl, rfl, hn, taken, left, hexternal, congrArg Registry.plugins hall, hleft⟩

theorem load_of_initialized (h : r.initialized = true) :
    r.load external trouble = (r, [], .ok ()) := by
  rw [load, if_pos h]

def Settled (external : List Plugin) (r : Registry) : Prop :=
  r = .empty ∨ r.initialized = true ∧ IsLoaded external r

theorem Settled.load (h : Settled external r) (trouble : Option Text) :
    (r.load external trouble).2.2 = .ok () ∧ (r.load external trouble).1.initialized = true ∧
      IsLoaded external (r.load external trouble).1 := by
  rcases h with rfl | ⟨hi, hl⟩
  · exact load_empty external trouble
  · rw [load_of_initialized hi]
    exact ⟨rfl, hi, hl⟩

theorem IsLoaded.load_empty_eq (h : IsLoaded external r) (hi : r.initialized = true)
    (trouble : Option Text) : (empty.load external trouble).1 = r := by
  obtain ⟨-, hi', hl'⟩ := load_empty external trouble
  have hplugins := hl'.unique h
  generalize (empty.load external trouble).1 = s at hi' hplugins
  cases r
  cases s
  simp_all

end Registry

inductive Request where
  | load
  | list
  | reset
  | plan (b : Brief)

def Request.perform : Request → Action Unit
  | .load => Action.loadPlugins
  | .list => do
    let _ ← Action.listPlugins
  | .reset => Action.resetPlugins
  | .plan b => do
    let _ ← Project.plan b

def session (h : Host) (w : World) (rs : List Request) : World :=
  rs.foldl (fun w r => (r.perform.exec h w).2) w

section

open Registry (IsLoaded Settled)

variable {h : Host} {w : World} {r : Request} {rs : List Request}

theorem registry_loadPlugins_bind {α : Type} {f : Unit → Action α}
    (hf : ∀ v, ((f ()).exec h v).2.registry = v.registry) :
    ((Action.loadPlugins >>= f).exec h w).2.registry =
      (w.registry.load h.plugins h.trouble).1 := by
  rcases hload : Action.loadPlugins.exec h w with ⟨e | ⟨⟩, v⟩
  · rw [Action.exec_bind_of_error hload]
    exact congrArg (fun x => x.2.registry) hload.symm
  · rw [Action.exec_bind_of_ok hload, hf]
    exact congrArg (fun x => x.2.registry) hload.symm

theorem exec_discard {α : Type} (a : Action α) :
    ((a >>= fun _ => pure ()).exec h w).2 = (a.exec h w).2 := by
  rcases hrun : a.exec h w with ⟨e | x, v⟩
  · rw [Action.exec_bind_of_error hrun]
  · rw [Action.exec_bind_of_ok hrun, Action.exec_pure]

/-- Every request but a reset loads the plugins and does no more with the registry. -/
theorem registry_perform (hr : r ≠ .reset) :
    (r.perform.exec h w).2.registry = (w.registry.load h.plugins h.trouble).1 := by
  cases r with
  | load => rfl
  | list =>
    rw [Request.perform, exec_discard]
    exact registry_loadPlugins_bind fun v => rfl
  | reset => exact absurd rfl hr
  | plan b =>
    rw [Request.perform, exec_discard]
    exact registry_loadPlugins_bind fun v => rfl

theorem registry_perform_reset : (Request.reset.perform.exec h w).2.registry = .empty :=
  w.registry.reset_eq_empty

theorem loaded_perform (hw : Settled h.plugins w.registry) (hr : r ≠ .reset) :
    (r.perform.exec h w).2.registry.initialized = true ∧
      IsLoaded h.plugins (r.perform.exec h w).2.registry := by
  rw [registry_perform hr]
  exact (hw.load h.trouble).2

theorem settled_perform (hw : Settled h.plugins w.registry) (r : Request) :
    Settled h.plugins (r.perform.exec h w).2.registry := by
  by_cases hr : r = .reset
  · subst hr
    exact .inl registry_perform_reset
  · exact .inr (loaded_perform hw hr)

theorem settled_session (hw : Settled h.plugins w.registry) (rs : List Request) :
    Settled h.plugins (session h w rs).registry := by
  induction rs generalizing w with
  | nil => exact hw
  | cons r rs ih => exact ih (settled_perform hw r)

theorem session_append (h : Host) (w : World) (rs more : List Request) :
    session h w (rs ++ more) = session h (session h w rs) more :=
  List.foldl_append

theorem exec_loadPlugins : Action.loadPlugins.exec h w =
    ((w.registry.load h.plugins h.trouble).2.2,
      { w with
        registry := (w.registry.load h.plugins h.trouble).1
        records := w.records ++ (w.registry.load h.plugins h.trouble).2.1 }) :=
  rfl

theorem exec_loadPlugins_of_initialized (hw : w.registry.initialized = true) :
    Action.loadPlugins.exec h w = (.ok (), w) := by
  rw [exec_loadPlugins, Registry.load_of_initialized hw, List.append_nil]

/-- The registry over every session, whatever the external plugins are called and whatever goes
wrong with them. Loading never fails. As long as the system is not initialized nothing is
registered; when it is, the bundled plugins are, and behind them the external ones up to the first
name that is taken; and then loading changes and logs nothing, and loading anew after a reset leads
to the same registry. A request leaves the system initialized just when it is no reset. -/
theorem session_registry (h : Host) (w : World) (rs : List Request)
    (hw : w.registry = .empty) :
    (Action.loadPlugins.exec h (session h w rs)).1 = .ok () ∧
    ((session h w rs).registry.initialized = false → (session h w rs).registry.plugins = []) ∧
    ((session h w rs).registry.initialized = true →
      IsLoaded h.plugins (session h w rs).registry ∧
      Action.loadPlugins.exec h (session h w rs) = (.ok (), session h w rs) ∧
      (session h w (rs ++ [.reset, .load])).registry = (session h w rs).registry) ∧
    ∀ r, (session h w (rs ++ [r])).registry.initialized = true ↔ r ≠ .reset := by
  have hnow : Settled h.plugins (session h w rs).registry := settled_session (.inl hw) rs
  refine ⟨(hnow.load h.trouble).1, fun hi => ?_, fun hi => ?_, fun r => ?_⟩
  · rcases hnow with hempty | ⟨hi', -⟩
    · rw [hempty, Registry.empty]
    · rw [hi'] at hi
      cases hi
  · have hl : IsLoaded h.plugins (session h w rs).registry := by
      rcases hnow with hempty | ⟨-, hl⟩
      · rw [hempty] at hi
        cases hi
      · exact hl
    refine ⟨hl, exec_loadPlugins_of_initialized hi, ?_⟩
    rw [session_append]
    change ((Request.load.perform.exec h (Request.reset.perform.exec h _).2).2).registry = _
    rw [registry_perform (r := .load) nofun, registry_perform_reset]
    exact hl.load_empty_eq hi h.trouble
  · rw [session_append]
    change (r.perform.exec h _).2.registry.initialized = true ↔ _
    constructor
    · rintro hi rfl
      rw [registry_perform_reset] at hi
      cases hi
    · exact fun hr => (loaded_perform hnow hr).1

end

def repeating : Host :=
  { Host.plain with
    plugins := [Project.single "notes" "notes.md" "",
      ⟨"broken", "broken", fun _ => .fail (.plugin "broken")⟩,
      Project.single "notes" "more.md" "", Project.single "late" "late.md" ""]
    trouble := some "unreachable" }

theorem session_registry_repeating :
    ((Project.plan Project.sampleBrief).exec repeating (.ofFiles [])).1.isOk = false ∧
    (session repeating (.ofFiles []) [.plan Project.sampleBrief, .reset, .list]).registry.names =
      Plugin.bundled.map Plugin.name ++ ["notes".toList, "broken".toList] ∧
    (session repeating (.ofFiles [])
        [.plan Project.sampleBrief, .reset, .list, .reset, .load]).registry =
      (session repeating (.ofFiles []) [.plan Project.sampleBrief, .reset, .list]).registry ∧
    (session repeating (.ofFiles [])
      [.plan Project.sampleBrief, .reset]).registry.plugins = [] := by
  obtain ⟨-, -, hloaded, -⟩ := session_registry repeating (.ofFiles [])
    [.plan Project.sampleBrief, .reset, .list] rfl
  obtain ⟨-, hnone, -, -⟩ := session_registry repeating (.ofFiles [])
    [.plan Project.sampleBrief, .reset] rfl
  have hinitialized : (session repeating (.ofFiles [])
      [.plan Project.sampleBrief, .reset, .list]).registry.initialized = true := by
    decide +kernel
  obtain ⟨-, -, hagain⟩ := hloaded hinitialized
  exact ⟨by decide +kernel, by decide +kernel, hagain, hnone (by decide +kernel)⟩

end CrateScaffold
