import CrateScaffold.Proofs.Template.Environment
import CrateScaffold.Proofs.Template.Frame
import CrateScaffold.Template.Named

/-!
Templates that print nothing but texts and the values of names. Such a template assigns nothing and
binds nothing, so every name has its value from the context. Where the context has a text for each
of them, rendering comes to what the pieces stand for, one after the other.
-/

namespace CrateScaffold.Template

inductive Piece where
  | text (s : Text)
  | name (n : Text)
  deriving DecidableEq

def Node.piece? : Node → Option Piece
  | .text s => some (.text s)
  | .print (.name n _) => some (.name n)
  | _ => none

def Piece.shown (value : Text → Text) : Piece → Text
  | .text s => s
  | .name n => value n

def AreMadeOf (ns : List Node) (ps : List Piece) : Prop :=
  List.Forall₂ (fun x p => Node.piece? x = some p) ns ps

variable {c : Context} {env : Env} {f : Frame} {n name source : Text} {x : Node} {ns : List Node}
  {p : Piece} {ps : List Piece} {value : Text → Text} {l : Library} {site : Site}

theorem areMadeOf_of_mapM (h : ns.mapM Node.piece? = some ps) : AreMadeOf ns ps := by
  induction ns generalizing ps with
  | nil =>
    cases h
    exact .nil
  | cons x ns ih =>
    rw [List.mapM_cons] at h
    obtain ⟨p, hp, h⟩ := Option.bind_eq_some_iff.1 h
    obtain ⟨qs, hqs, hpure⟩ := Option.bind_eq_some_iff.1 h
    cases hpure
    exact .cons hp (ih hqs)

theorem eq_of_piece? (h : x.piece? = some p) :
    (∃ s, x = .text s ∧ p = .text s) ∨ ∃ n line, x = .print (.name n line) ∧ p = .name n := by
  cases x with
  | text s =>
    cases h
    exact .inl ⟨s, rfl, rfl⟩
  | print e =>
    cases e with
    | name n line =>
      cases h
      exact .inr ⟨n, line, rfl, rfl⟩
    | _ => cases h
  | _ => cases h

namespace AreMadeOf

theorem anySets_eq_false (h : AreMadeOf ns ps) : anySets ns = false := by
  induction h with
  | nil => rfl
  | cons hp _ ih =>
    rcases eq_of_piece? hp with ⟨s, rfl, -⟩ | ⟨n, line, rfl, -⟩
    · exact ih
    · exact ih

theorem mem_uses (h : AreMadeOf ns ps) (hn : .name n ∈ ps) : n ∈ usesOfNodes ns := by
  induction h with
  | nil => cases hn
  | cons hp _ ih =>
    rcases eq_of_piece? hp with ⟨s, rfl, rfl⟩ | ⟨m, line, rfl, rfl⟩
    · exact ih (by simpa using hn)
    · rcases List.mem_cons.1 hn with hn | hn
      · cases hn
        exact List.mem_cons_self
      · exact List.mem_cons_of_mem _ (ih hn)

/-- Nothing but the names of the pieces is looked up. -/
theorem mem_of_mem_names (h : AreMadeOf ns ps) (hn : n ∈ (f.visitAll [] ns).names) :
    n ∈ f.names ∨ .name n ∈ ps := by
  induction h generalizing f with
  | nil => exact .inl hn
  | cons hp _ ih =>
    rcases eq_of_piece? hp with ⟨s, rfl, rfl⟩ | ⟨m, line, rfl, rfl⟩
    · exact (ih hn).imp_right (List.mem_cons_of_mem _)
    · rcases ih (f := f.load [] m) hn with hn | hn
      · unfold Frame.load at hn
        split at hn
        · exact .inl hn
        · rcases Frame.mem_names_put.1 hn with rfl | hn
          · exact .inr List.mem_cons_self
          · exact .inl hn
      · exact .inr (List.mem_cons_of_mem _ hn)

theorem freeInside_eq_nil (h : AreMadeOf ns ps) (scope : List Text) : freeInside scope ns = [] := by
  induction h with
  | nil => rfl
  | cons hp _ ih =>
    rcases eq_of_piece? hp with ⟨s, rfl, -⟩ | ⟨m, line, rfl, -⟩
    · exact ih
    · exact ih

/-- Pieces print what they stand for, and leave the environment as it is. -/
theorem runAll_eq (h : AreMadeOf ns ps)
    (hvalue : ∀ n, .name n ∈ ps → env.read n = .text (value n)) :
    runAll c env ns = .ok (env, ps.flatMap (Piece.shown value)) := by
  induction h with
  | nil => rfl
  | @cons x p ns ps hp _ ih =>
    have hx : x.run c env = .ok (env, p.shown value) := by
      rcases eq_of_piece? hp with ⟨s, rfl, rfl⟩ | ⟨n, line, rfl, rfl⟩
      · rfl
      · rw [Node.run, Expr.eval, hvalue n List.mem_cons_self]
        rfl
    rw [runAll, hx]
    change (runAll c env ns >>= _) = _
    rw [ih fun n hn => hvalue n (List.mem_cons_of_mem _ hn)]
    rfl

end AreMadeOf

/-- In a frame that looks everything up, a name has its value from the context. -/
theorem Env.value?_enter (hf : ∀ p ∈ f.origins, p.2 = .context) (hn : n ∈ f.names) :
    (Env.enter [] c [] f).value? n = c.value? n := by
  have hentry : ∀ p ∈ Env.enter [] c [] f, p.2 = c.value? p.1 := by
    unfold Env.enter
    rw [List.append_nil, List.forall_mem_map]
    rintro ⟨m, o⟩ hp
    obtain rfl : o = .context := hf _ hp
    rfl
  have hnames : n ∈ (Env.enter [] c [] f).map (·.1) := by
    have heq := Env.names_enter [] c [] f
    unfold Env.names at heq
    rw [heq]
    exact List.mem_append_left _ hn
  obtain ⟨o, hlookup⟩ := exists_lookup_of_mem hnames
  obtain rfl : o = c.value? n := hentry _ (mem_of_lookup hlookup)
  simp [Env.value?, hlookup]

/-- A template of pieces prints them with the values that the context has. -/
theorem run_of_areMadeOf (h : AreMadeOf ns ps)
    (hc : ∀ n, .name n ∈ ps → c.lookup n = some (.text (value n))) :
    run c ns = .ok (ps.flatMap (Piece.shown value)) := by
  have htakes : Frame.Takes [] (usesOfNodes ns) .empty (.ofTemplate ns) :=
    Frame.takes_visitAll ns h.anySets_eq_false
  have horigins : ∀ p ∈ (Frame.ofTemplate ns).origins, p.2 = .context :=
    fun p hp => (htakes.origins p hp).resolve_left nofun
  have hread : ∀ n, .name n ∈ ps →
      (Env.enter [] c [] (.ofTemplate ns)).read n = .text (value n) := by
    intro n hn
    have hmem : n ∈ (Frame.ofTemplate ns).names :=
      (htakes.uses n (h.mem_uses hn)).resolve_right nofun
    rw [Env.read, Env.value?_enter horigins hmem, Context.value?, hc n hn]
    rfl
  unfold run
  rw [h.runAll_eq hread]
  rfl

/-- Nothing is missing where the context has a text for every name. -/
theorem missing_of_areMadeOf (hread : read source = .ok ns) (h : AreMadeOf ns ps)
    (hc : ∀ n, .name n ∈ ps → c.lookup n = some (.text (value n))) :
    missing source c = .ok [] := by
  have hnone : (distinct (freeNames ns)).filter (!c.supplies ·) = [] := by
    rw [List.filter_eq_nil_iff]
    intro n hn
    have hmem := (List.mem_filter.1 (mem_distinct.1 hn)).1
    rw [h.freeInside_eq_nil, List.append_nil] at hmem
    obtain ⟨p, hp, rfl⟩ := List.mem_map.1 hmem
    have hname : .name p.1 ∈ ps :=
      (h.mem_of_mem_names (List.mem_map_of_mem (List.mem_filter.1 hp).1)).resolve_left nofun
    simp [Context.supplies, hc _ hname]
  unfold missing lookups
  rw [hread]
  exact congrArg Except.ok hnone

/-- Where the context has texts for its names and does not hold the template itself, a template of
pieces is rendered, and to nothing but them. -/
theorem Library.render_of_areMadeOf (hl : l.load site.files name = .ok source)
    (hread : read source = .ok ns) (h : AreMadeOf ns ps) (hself : c.lookup "self".toList = none)
    (hc : ∀ n, .name n ∈ ps → c.lookup n = some (.text (value n))) :
    (l.render name c site).2 = .ok (ps.flatMap (Piece.shown value)) := by
  have hchecked : checkTokens site.engine name source c = .ok () := by
    unfold checkTokens
    rw [Engine.missing_of_ok (missing_of_areMadeOf hread h hc)]
  have hevaluated : evaluate source c = .ok (ps.flatMap (Piece.shown value)) := by
    unfold evaluate
    rw [hself, hread]
    exact run_of_areMadeOf h hc
  refine Reading.snd_bind_eq_ok.2 ⟨source, mapError_eq_ok.2 hl, ?_⟩
  refine Reading.snd_bind_eq_ok.2 ⟨(), hchecked, ?_⟩
  refine Reading.snd_bind_eq_ok.2 ⟨(), rfl, mapError_eq_ok.2 ?_⟩
  rw [Engine.text, hevaluated, Engine.complete_ok]

end CrateScaffold.Template
