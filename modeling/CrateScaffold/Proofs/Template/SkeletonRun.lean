import CrateScaffold.Proofs.Template.Environment
import CrateScaffold.Proofs.Template.SkeletonParse
import CrateScaffold.Template.Named

/-!
Evaluation of a skeleton. Its frame takes nothing but fields from the context, so every name is
supplied and each placeholder prints the value of its field, which is not read again.
-/

namespace CrateScaffold.Template

def Frame.TakesFields (f : Frame) : Prop :=
  ∀ p ∈ f.origins, ∃ x : Field, p = (x.name, .context)

def Env.HoldsFields (c : Coordinates) (env : Env) : Prop :=
  ∀ p ∈ env, ∃ x : Field, p = (x.name, some (.text (x.value c)))

variable {c : Coordinates} {s : Text} {ns : List Node} {f : Frame} {env : Env}

theorem Field.name_injective {x y : Field} (h : x.name = y.name) : x = y := by
  revert h
  cases x <;> cases y <;> decide

theorem Frame.TakesFields.load (h : f.TakesFields) (x : Field) :
    (f.load [] x.name).TakesFields ∧ x.name ∈ (f.load [] x.name).names ∧
      f.names ⊆ (f.load [] x.name).names := by
  by_cases hx : x.name ∈ f.names
  · have he : f.load [] x.name = f := by simp [Frame.load, hx]
    rw [he]
    exact ⟨h, hx, List.Subset.refl _⟩
  · have he : f.load [] x.name = { f with origins := f.origins ++ [(x.name, .context)] } := by
      simp [Frame.load, Frame.put, hx]
    rw [he]
    refine ⟨?_, by simp [Frame.names], by simp [Frame.names]⟩
    intro p hp
    rcases List.mem_append.1 hp with hp | hp
    · exact h p hp
    · exact ⟨x, List.mem_singleton.1 hp⟩

theorem Yields.takesFields (h : Yields c ns s) (hf : f.TakesFields) :
    (f.visitAll [] ns).TakesFields ∧ f.names ⊆ (f.visitAll [] ns).names ∧
      ∀ x line, Node.print (.name (Field.name x) line) ∈ ns →
        x.name ∈ (f.visitAll [] ns).names := by
  induction h generalizing f with
  | nil => exact ⟨hf, List.Subset.refl _, by simp⟩
  | @text ns s u _ ih =>
    obtain ⟨hv, hsub, hmem⟩ := ih hf
    exact ⟨hv, hsub, fun x line hx => hmem x line (by simpa using hx)⟩
  | @value ns s y i _ ih =>
    obtain ⟨hl, hy, hsub⟩ := hf.load y
    obtain ⟨hv, hsub', hmem⟩ := ih hl
    have he :
        f.visitAll [] (.print (.name y.name i) :: ns) = (f.load [] y.name).visitAll [] ns := rfl
    rw [he]
    refine ⟨hv, List.Subset.trans hsub hsub', fun x line hx => ?_⟩
    rcases List.mem_cons.1 hx with hx | hx
    · cases Field.name_injective (Expr.name.inj (Node.print.inj hx)).1
      exact hsub' hy
    · exact hmem x line hx

theorem Yields.freeInside_eq_nil (h : Yields c ns s) (scope : List Text) :
    freeInside scope ns = [] := by
  induction h with
  | nil => rfl
  | text u _ ih => simpa [freeInside, Node.free] using ih
  | value x line _ ih => simpa [freeInside, Node.free] using ih

theorem value?_contextOf (c : Coordinates) (x : Field) :
    Context.value? (Library.contextOf c) x.name = some (.text (x.value c)) := by
  cases x <;> rfl

theorem supplies_contextOf (c : Coordinates) (x : Field) :
    Context.supplies (Library.contextOf c) x.name = true := by
  cases x <;> rfl

theorem Frame.TakesFields.holdsFields (h : f.TakesFields) (c : Coordinates) :
    Env.HoldsFields c (Env.enter [] (Library.contextOf c) [] f) := by
  intro p hp
  simp only [Env.enter, List.append_nil, List.mem_map] at hp
  obtain ⟨q, hq, rfl⟩ := hp
  obtain ⟨x, rfl⟩ := h q hq
  exact ⟨x, by simp only [value?_contextOf]⟩

theorem Env.HoldsFields.read_eq (h : env.HoldsFields c) {x : Field} (hx : x.name ∈ env.names) :
    env.read x.name = .text (x.value c) := by
  have hl : env.lookup x.name = some (some (.text (x.value c))) := by
    induction env with
    | nil => cases hx
    | cons p env ih =>
      obtain ⟨y, rfl⟩ := h p (List.mem_cons_self ..)
      by_cases hxy : x.name = y.name
      · cases Field.name_injective hxy
        simp
      · have hx' : x.name ∈ Env.names env := by simpa [Env.names, hxy] using hx
        have hne : (x.name == y.name) = false := by simpa using hxy
        rw [List.lookup_cons, hne]
        exact ih (fun q hq => h q (List.mem_cons_of_mem _ hq)) hx'
  simp [Env.read, Env.value?, hl]

theorem Yields.runAll_eq (h : Yields c ns s) (k : Context) (henv : env.HoldsFields c)
    (hns : ∀ x line, Node.print (.name (Field.name x) line) ∈ ns → x.name ∈ env.names) :
    runAll k env ns = .ok (env, s) := by
  induction h with
  | nil => rfl
  | @text ns s u _ ih =>
    have hr := ih fun x line hx => hns x line (List.mem_cons_of_mem _ hx)
    rw [runAll, Node.run]
    change ((runAll k env ns) >>= _) = _
    rw [hr]
    rfl
  | @value ns s y i _ ih =>
    have hr := ih fun x line hx => hns x line (List.mem_cons_of_mem _ hx)
    have hy := henv.read_eq (hns y i (List.mem_cons_self ..))
    have hn : Node.run k env (.print (.name y.name i)) = .ok (env, y.value c) := by
      rw [Node.run, Expr.eval, hy]
      rfl
    rw [runAll, hn]
    change ((runAll k env ns) >>= _) = _
    rw [hr]
    rfl

theorem Frame.takesFields_empty : Frame.empty.TakesFields := by
  intro p hp
  cases hp

theorem Yields.run_eq (h : Yields c ns s) : run (Library.contextOf c) ns = .ok s := by
  obtain ⟨hf, -, hns⟩ := h.takesFields Frame.takesFields_empty
  have hr := h.runAll_eq (Library.contextOf c) (hf.holdsFields c)
    (by rw [Env.names_enter]; exact fun x line hx => List.mem_append_left _ (hns x line hx))
  unfold run
  change (runAll _ (Env.enter [] _ [] (Frame.visitAll [] Frame.empty ns)) ns >>= _) = _
  rw [hr]
  rfl

theorem Yields.filter_lookups_eq_nil (h : Yields c ns s) :
    (distinct (freeNames ns)).filter (!Context.supplies (Library.contextOf c) ·) = [] := by
  obtain ⟨hf, -, -⟩ := h.takesFields Frame.takesFields_empty
  rw [List.filter_eq_nil_iff]
  intro n hn
  have hmem := mem_distinct.1 hn
  rw [freeNames, h.freeInside_eq_nil, List.append_nil] at hmem
  obtain ⟨p, hp, rfl⟩ := List.mem_map.1 (List.mem_filter.1 hmem).1
  obtain ⟨x, rfl⟩ := hf p (List.mem_filter.1 hp).1
  simp [supplies_contextOf]

/-- The template finds all its names in the context of the coordinates and is evaluated to `s`. -/
def RendersTo (template : Text) (c : Coordinates) (s : Text) : Prop :=
  missing template (Library.contextOf c) = .ok [] ∧
    evaluate template (Library.contextOf c) = .ok s

theorem rendersTo_of_fills {t : Text} (ht : Fills c t s) (hb : Text.UniformBreaks t) :
    RendersTo t c s := by
  obtain ⟨ns, hr, hy⟩ := read_fills ht hb
  constructor
  · unfold missing lookups
    rw [hr]
    exact congrArg Except.ok hy.filter_lookups_eq_nil
  · unfold evaluate
    rw [hr]
    exact hy.run_eq

namespace Library

theorem renderBuildScript_of_rendersTo {l : Library} {site : Site} {t : Text}
    (hl : l.load site.files buildScriptName = .ok t) (h : RendersTo t c s) :
    l.renderBuildScript c site =
      ([⟨.debug, "Rendering template " ++ buildScriptName⟩], .ok s) := by
  have hs : l.source buildScriptName site = ([], .ok t) := by
    change ([], (l.load site.files buildScriptName).mapError Failure.load) = _
    rw [hl]
    rfl
  have hc : checkTokens site.engine buildScriptName t (contextOf c) = .ok () := by
    unfold checkTokens
    rw [Engine.missing_of_ok h.1]
  unfold renderBuildScript render
  simp only [Reading.bind_apply, Reading.bind, hs, Reading.ofSite, hc, Reading.log, Engine.text,
    h.2]
  rfl

end Library

end CrateScaffold.Template
