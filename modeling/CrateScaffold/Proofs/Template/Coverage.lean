import CrateScaffold.Proofs.Template.Environment
import CrateScaffold.Proofs.Template.Evaluation
import CrateScaffold.Proofs.Template.Frame
import CrateScaffold.Template.Named

/-!
The check of names before rendering is complete. Where a template assigns nothing, every name that
is met while it runs was bound by a loop or looked up in the context, and the check has found a
value for all that is looked up.
-/

namespace CrateScaffold.Template

open Value (OnlyLacks)

variable {P : Text → Prop} {c : Context} {env : Env} {ns : List Text} {f : Frame} {t : Target}
  {bound : List (Text × Value)} {n : Text}

def Context.Covers (P : Text → Prop) (c : Context) (ns : List Text) : Prop :=
  ∀ n ∈ ns, ∃ v, c.value? n = some v ∧ v.OnlyLacks P

def Env.Covers (P : Text → Prop) (env : Env) : Prop := ∀ p ∈ env, ∃ v, p.2 = some v ∧ v.OnlyLacks P

theorem Context.covers_append {ms : List Text} :
    c.Covers P (ns ++ ms) ↔ c.Covers P ns ∧ c.Covers P ms :=
  List.forall_mem_append

theorem Env.Covers.read (henv : env.Covers P) (hn : n ∈ env.names) : (env.read n).OnlyLacks P := by
  obtain ⟨o, hlookup⟩ := exists_lookup_of_mem hn
  obtain ⟨v, rfl, hv⟩ := henv _ (mem_of_lookup hlookup)
  simpa [Env.read, Env.value?, hlookup] using hv

theorem Env.Covers.enter (henv : env.Covers P) (hf : f.BindsOnly ns) (hc : c.Covers P f.free)
    (hbound : ∀ n ∈ ns, ∃ v, bound.lookup n = some v ∧ v.OnlyLacks P) :
    (env.enter c bound f).Covers P := by
  refine List.forall_mem_append.2 ⟨List.forall_mem_map.2 fun p hp => ?_, henv⟩
  obtain ⟨n, o⟩ := p
  rcases hf _ hp with rfl | ⟨rfl, hn⟩
  · exact hc n (List.mem_map.2 ⟨(n, .context), List.mem_filter.2 ⟨hp, rfl⟩, rfl⟩)
  · exact hbound n hn

theorem exists_value_of_mem (hbound : ∀ p ∈ bound, p.2.OnlyLacks P) (hn : n ∈ bound.map (·.1)) :
    ∃ v, bound.lookup n = some v ∧ v.OnlyLacks P := by
  obtain ⟨v, hlookup⟩ := exists_lookup_of_mem hn
  exact ⟨v, hlookup, hbound _ (mem_of_lookup hlookup)⟩

theorem ends_passes {e : Expr} {x : Value} (he : e.IsLiteral) (henv : env.Covers P)
    (hc : c.Covers P (Frame.ofTest env.names t e).free) (hx : x.OnlyLacks P) :
    Ends P (passes c env t e x) := by
  unfold passes
  refine (t.meets_unpack hx).bind fun bound ⟨hnames, hbound⟩ => ?_
  have hinner : (env.enter c bound.reverse (.ofTest env.names t e)).Covers P := by
    refine henv.enter (Frame.bindsOnly_ofTest env.names t e) hc fun n hn => ?_
    refine exists_value_of_mem (fun p hp => hbound p (List.mem_reverse.1 hp)) ?_
    rwa [List.map_reverse, List.mem_reverse, hnames]
  refine (e.gives_eval he fun n hn => hinner.read ?_).bind fun v hv => ends_truth hv
  rw [Env.names_enter]
  exact Frame.uses_ofTest env.names t e n hn

theorem meets_bodyEnv {body : List Node} {total index : Nat} {x : Value}
    (hbody : anySets body = false) (henv : env.Covers P)
    (hc : c.Covers P (Frame.ofBody env.names t body).free) (hx : x.OnlyLacks P) :
    Meets P (fun inner => inner.Covers P ∧
        inner.names = (Frame.ofBody env.names t body).names ++ env.names)
      (bodyEnv c env t body total index x) := by
  unfold bodyEnv
  refine (t.meets_unpack hx).bind fun bound ⟨hnames, hbound⟩ => ⟨?_, Env.names_enter _ _ _ _⟩
  refine henv.enter (Frame.bindsOnly_ofBody hbody) hc fun n hn => ?_
  refine exists_value_of_mem (List.forall_mem_append.2 ⟨?_, by simp⟩) ?_
  · exact fun p hp => hbound p (List.mem_reverse.1 hp)
  · simpa [hnames, or_comm] using hn

theorem meets_passing {keep : Value → Result Bool} {xs : List Value}
    (hkeep : ∀ x ∈ xs, Ends P (keep x)) :
    (∀ y ∈ (passing keep xs).1, y ∈ xs) ∧ ∀ f ∈ (passing keep xs).2, f.OnlyLacks P := by
  induction xs with
  | nil => exact ⟨nofun, nofun⟩
  | cons x xs ih =>
    obtain ⟨hx, hxs⟩ := List.forall_mem_cons.1 hkeep
    obtain ⟨hmem, hfault⟩ := ih hxs
    rw [passing]
    split
    · next f hf =>
      rw [hf] at hx
      exact ⟨nofun, by simpa using hx⟩
    · next b hb =>
      refine ⟨fun y hy => ?_, hfault⟩
      have hy : y = x ∨ y ∈ (passing keep xs).1 := by
        cases b with
        | true => exact List.mem_cons.1 hy
        | false => exact .inr hy
      exact List.mem_cons.2 (hy.imp_right (hmem y))

theorem meets_selected {test : Option Expr} {xs : List Value} (htest : ∀ e ∈ test, e.IsLiteral)
    (henv : env.Covers P)
    (hc : c.Covers P ((test.map fun e => (Frame.ofTest env.names t e).free).getD []))
    (hxs : ∀ x ∈ xs, x.OnlyLacks P) :
    (∀ y ∈ (selected c env t test xs).1, y ∈ xs) ∧
      ∀ f ∈ (selected c env t test xs).2, f.OnlyLacks P := by
  cases test with
  | none => exact ⟨fun _ => id, nofun⟩
  | some e => exact meets_passing fun x hx => ends_passes (htest e rfl) henv hc (hxs x hx)

theorem mem_of_mem_numbered {k m : Nat} {x : Value} {xs : List Value} (h : (k, x) ∈ numbered m xs) :
    x ∈ xs := by
  induction xs generalizing m with
  | nil => cases h
  | cons y xs ih =>
    rcases List.mem_cons.1 h with h | h
    · cases h
      exact List.mem_cons_self
    · exact List.mem_cons_of_mem y (ih h)

theorem ends_foldlM {α β : Type} {step : β → α → Result β} {xs : List α}
    (h : ∀ b, ∀ x ∈ xs, Ends P (step b x)) (b : β) : Ends P (xs.foldlM step b) := by
  induction xs generalizing b with
  | nil => trivial
  | cons x xs ih =>
    rw [List.foldlM_cons]
    exact (h b x List.mem_cons_self).bind fun b _ =>
      ih (fun b y hy => h b y (List.mem_cons_of_mem x hy)) b

mutual

/-- A node that assigns nothing leaves the environment as it is, and fails for want of no name. -/
theorem Node.meets_run : (x : Node) → {env : Env} → x.sets = false → x.IsLiteral → env.Covers P →
    (∀ n ∈ x.uses, n ∈ env.names) → c.Covers P (x.free env.names) →
    Meets P (fun r => r.1 = env) (x.run c env)
  | .text u, _, _, _, _, _, _ => rfl
  | .print e, env, _, .print he, henv, hn, _ => by
    rw [Node.run]
    exact (e.gives_eval he fun n h => henv.read (hn n h)).bind fun v hv =>
      (ends_textOf hv).bind fun _ _ => rfl
  | .choose bs other, env, hx, .choose hbs hother, henv, hn, hc => by
    obtain ⟨hx, hx'⟩ := Bool.or_eq_false_iff.1 hx
    obtain ⟨hn, hn'⟩ := List.forall_mem_append.1 hn
    obtain ⟨hc, hc'⟩ := Context.covers_append.1 hc
    rw [Node.run]
    refine (meets_runBranches bs hx hbs henv hn hc).bind fun chosen hchosen => ?_
    cases chosen with
    | none => exact meets_runAll other hx' hother henv hn' hc'
    | some r => exact hchosen r rfl
  | .each t source test body other, env, hx, .each _ hsource htest hbody hother, henv, hn, hc => by
    obtain ⟨hx, hx'⟩ := Bool.or_eq_false_iff.1 hx
    obtain ⟨hc, hc'⟩ := Context.covers_append.1 hc
    obtain ⟨hctest, hcbody⟩ := Context.covers_append.1 hc
    obtain ⟨hcbody, hcinside⟩ := Context.covers_append.1 hcbody
    obtain ⟨hcother, hclater⟩ := Context.covers_append.1 hc'
    rw [run_each]
    refine (source.gives_eval hsource fun n h => henv.read (hn n h)).bind fun v hv => ?_
    refine (meets_items hv).bind fun xs hxs => ?_
    obtain ⟨hmem, hfault⟩ := meets_selected (t := t) htest henv hctest hxs
    have hprinted : Ends P (printed c env t body (selected c env t test xs).1) := by
      refine ends_foldlM (fun out p hp => ?_) []
      have hitem := hxs _ (hmem _ (mem_of_mem_numbered hp))
      refine (meets_bodyEnv hx henv hcbody hitem).bind fun inner ⟨hinner, hnames⟩ => ?_
      refine (meets_runAll body hx hbody hinner ?_ ?_).bind fun _ _ => trivial
      · rw [hnames]
        exact Frame.uses_ofBody hx
      · rwa [hnames]
    refine hprinted.bind fun out _ => ?_
    split
    · next f hf => exact hfault f hf
    · refine .ite ?_ rfl
      have hinner : (env.enter c [] (.ofSection env.names other)).Covers P :=
        henv.enter (Frame.bindsOnly_ofSection hx') hcother nofun
      refine (meets_runAll other hx' hother hinner ?_ ?_).bind fun _ _ => rfl
      · rw [Env.names_enter]
        exact Frame.uses_ofSection hx'
      · rwa [Env.names_enter]

theorem meets_runAll : (xs : List Node) → {env : Env} → anySets xs = false →
    (∀ x ∈ xs, x.IsLiteral) → env.Covers P → (∀ n ∈ usesOfNodes xs, n ∈ env.names) →
    c.Covers P (freeInside env.names xs) → Meets P (fun r => r.1 = env) (runAll c env xs)
  | [], _, _, _, _, _, _ => rfl
  | x :: xs, env, hx, hlit, henv, hn, hc => by
    obtain ⟨hx, hxs⟩ := Bool.or_eq_false_iff.1 hx
    obtain ⟨hlit, hlit'⟩ := List.forall_mem_cons.1 hlit
    obtain ⟨hn, hn'⟩ := List.forall_mem_append.1 hn
    obtain ⟨hc, hc'⟩ := Context.covers_append.1 hc
    rw [runAll]
    refine (x.meets_run hx hlit henv hn hc).bind fun ⟨env₁, s⟩ hr => ?_
    cases hr
    exact (meets_runAll xs hxs hlit' henv hn' hc').bind fun _ hr => hr

theorem meets_runBranches : (bs : List Branch) → {env : Env} → branchesSet bs = false →
    (∀ b ∈ bs, b.IsLiteral) → env.Covers P → (∀ n ∈ usesOfBranches bs, n ∈ env.names) →
    c.Covers P (freeInBranches env.names bs) →
    Meets P (fun chosen => ∀ r ∈ chosen, r.1 = env) (runBranches c env bs)
  | [], _, _, _, _, _, _ => nofun
  | .of e body :: bs, env, hx, hlit, henv, hn, hc => by
    obtain ⟨hx, hx'⟩ := Bool.or_eq_false_iff.1 hx
    obtain ⟨hlit, hlit'⟩ := List.forall_mem_cons.1 hlit
    obtain ⟨hn, hn'⟩ := List.forall_mem_append.1 hn
    obtain ⟨hne, hnbody⟩ := List.forall_mem_append.1 hn
    obtain ⟨hc, hc'⟩ := Context.covers_append.1 hc
    cases hlit with
    | of he hbody =>
      rw [runBranches]
      refine (e.gives_eval he fun n h => henv.read (hne n h)).bind fun v hv => ?_
      refine (ends_truth hv).bind fun _ _ => .ite ?_ ?_
      · refine (meets_runAll body hx hbody henv hnbody hc).bind fun r hr => ?_
        rintro r' ⟨⟩
        exact hr
      · exact meets_runBranches bs hx' hlit' henv hn' hc'

end

/-- A template that assigns nothing meets no name without a value, when the context has values for
its free names and for the globals. -/
theorem ends_run {xs : List Node} (hset : anySets xs = false) (hlit : ∀ x ∈ xs, x.IsLiteral)
    (hfree : c.Covers P (freeNames xs)) (hglobals : c.Covers P globals) : Ends P (run c xs) := by
  have hall : c.Covers P ((Frame.ofTemplate xs).free ++
      freeInside (Frame.ofTemplate xs).names xs) :=
    fun n hn => (mem_freeNames_or_mem_globals hn).elim (hfree n) (hglobals n)
  obtain ⟨hframe, hinside⟩ := Context.covers_append.1 hall
  have houter : Env.Covers P [] := nofun
  have hentered : (Env.enter [] c [] (.ofTemplate xs)).Covers P :=
    houter.enter (Frame.bindsOnly_ofSection hset) hframe nofun
  unfold run
  refine (meets_runAll xs hset hlit hentered ?_ ?_).bind fun _ _ => trivial
  · rw [Env.names_enter]
    exact Frame.uses_ofSection hset
  · rw [Env.names_enter]
    simpa [Env.names] using hinside

theorem Context.exists_of_supplies (h : c.supplies n = true) :
    ∃ v, c.value? n = some v ∧ (n, v) ∈ c := by
  unfold Context.supplies at h
  split at h
  · cases h
  · cases h
  · next v _ hlookup => exact ⟨v, by rw [value?, hlookup]; rfl, mem_of_lookup hlookup⟩

theorem Context.covers_globals (hc : ∀ p ∈ c, p.2.OnlyLacks P) : c.Covers P globals := by
  intro n hn
  unfold Context.value?
  cases hlookup : c.lookup n with
  | none => exact ⟨.builtin n, by simp [hn], Value.onlyLacks_builtin n⟩
  | some v => exact ⟨v, rfl, hc _ (mem_of_lookup hlookup)⟩

/-- Reading a source meets no names at all. -/
theorem ends_read (source : Text) : Ends P (read source) := by
  unfold read
  cases parse (LineBreak.detect source) (Text.foldBreaks source) with
  | error f => cases f <;> exact nofun
  | ok ns =>
    simp only [Except.mapError, bind, Except.bind]
    split
    · exact nofun
    · trivial

theorem Ends.complete {α : Type} {x : Result α} {answer : Except EngineFault α} (hx : Ends P x) :
    Ends P (Engine.complete x answer) := by
  unfold Engine.complete
  split
  · cases answer with
    | ok a => trivial
    | error f => exact Fault.onlyLacks_engine f
  · exact hx

theorem ends_missing (e : Engine) (source : Text) (c : Context) : Ends P (e.missing source c) := by
  have hlookups : Ends P (lookups source) := (ends_read source).bind fun _ _ => trivial
  exact hlookups.complete.bind fun _ _ => trivial

theorem ends_evaluate {e : Engine} {source : Text}
    (hset : ∀ xs, read source = .ok xs → anySets xs = false)
    (hmissing : e.missing source c = .ok []) (hc : ∀ p ∈ c, p.2.OnlyLacks P) :
    Ends P (evaluate source c) := by
  unfold evaluate
  split
  · exact meets_wrong _
  refine Ends.bind_of_ok (ends_read source) fun xs hread => ?_
  have hfree : c.Covers P (freeNames xs) := by
    intro n hn
    have hall : (distinct (freeNames xs)).filter (!c.supplies ·) = [] := by
      unfold Engine.missing Engine.names lookups at hmissing
      rw [hread] at hmissing
      exact Except.ok.inj hmissing
    have hn' := List.filter_eq_nil_iff.1 hall n (mem_distinct.2 hn)
    obtain ⟨v, hv, hmem⟩ := Context.exists_of_supplies (by simpa using hn')
    exact ⟨v, hv, hc _ hmem⟩
  exact ends_run (hset xs hread) (isLiteral_of_read hread) hfree (Context.covers_globals hc)

variable {e : Engine}

theorem missing_of_checkTokens_ok {name source : Text}
    (h : Library.checkTokens e name source c = .ok ()) : e.missing source c = .ok [] := by
  unfold Library.checkTokens at h
  split at h
  · cases h
  · next hmissing => exact hmissing
  · cases h

theorem missing_of_checkTokens_error {name source : Text} {f : Fault}
    (h : Library.checkTokens e name source c = .error (.template f)) :
    e.missing source c = .error f := by
  unfold Library.checkTokens at h
  split at h
  · next hmissing =>
    cases h
    exact hmissing
  · cases h
  · cases h

/-- A template that assigns nothing never meets a name without a value once the check has passed:
its rendering does not fail for want of one, unless a value of the context is itself such a name. -/
theorem render_ne_undefined (l : Library) (name : Text) (site : Site) (c : Context) (n : Text)
    (hset : ∀ source xs, l.load site.files name = .ok source → read source = .ok xs →
      anySets xs = false)
    (hc : ∀ p ∈ c, ¬ p.2.Lacks n) :
    (l.render name c site).2 ≠ .error (.template (.undefined (.name n))) := by
  have hc' : ∀ p ∈ c, p.2.OnlyLacks (· ≠ n) := by
    rintro p hp m hm rfl
    exact hc p hp hm
  intro h
  unfold Library.render at h
  rcases Reading.snd_bind_eq_error.1 h with hload | ⟨source, hsource, h⟩
  · obtain ⟨f, -, hf⟩ := mapError_eq_error.1 hload
    cases hf
  have hset' : ∀ xs, read source = .ok xs → anySets xs = false :=
    fun xs => hset source xs (mapError_eq_ok.1 hsource)
  rcases Reading.snd_bind_eq_error.1 h with hcheck | ⟨_, hcheck, h⟩
  · exact (ends_missing _ source c).ne_undefined (missing_of_checkTokens_error hcheck)
  rcases Reading.snd_bind_eq_error.1 h with hlog | ⟨_, -, h⟩
  · cases hlog
  · obtain ⟨f, hf, hfault⟩ := mapError_eq_error.1 h
    cases hfault
    exact (ends_evaluate hset' (missing_of_checkTokens_ok hcheck) hc').complete.ne_undefined hf

/-- Loops inside of a loop, with unpacking, a condition, the progress of the loop and names of outer
frames. -/
def nestedTemplate : Text :=
  "\x7b% for k, vs in rows if vs or loud %\x7d" ++
  "\x7b% for v in vs %\x7d\x7b\x7b loop.index ~ k ~ v ~ sep \x7d\x7d" ++
  "\x7b% else %\x7d\x7b\x7b k|upper \x7d\x7d\x7b% endfor %\x7d" ++
  "\x7b% else %\x7d\x7b\x7b range(2)|length ~ sep \x7d\x7d\x7b% endfor %\x7d"

def nested : FileTree := [
  ([".jni-cli"], .dir), ([".jni-cli", "templates"], .dir),
  ([".jni-cli", "templates", "rows"], .file (Utf8.encode nestedTemplate) false)]

def nestedRows : Context := [
  ("rows", .list [.tuple [.text "a", .list [.int 1, .int 2]], .tuple [.text "b", .list []]]),
  ("loud", .bool true), ("sep", .text ";")]

theorem render_ne_undefined_nested :
    (Library.project Path.here).load nested "rows" = .ok nestedTemplate ∧
      ((read nestedTemplate).map anySets).toOption = some false ∧
      (evaluate nestedTemplate nestedRows).toOption = some ("1a1;2a2;B" : Text) ∧
      ((Library.project Path.here).render "rows" nestedRows ⟨nested, "linux", .refusing⟩).2 ≠
        .error (.template (.undefined (.name "loop"))) := by
  have hcomputed : (Library.project Path.here).load nested "rows" = .ok nestedTemplate ∧
      ((read nestedTemplate).map anySets).toOption = some false ∧
      (evaluate nestedTemplate nestedRows).toOption = some ("1a1;2a2;B" : Text) := by
    decide +kernel
  obtain ⟨hload, hsets, hevaluated⟩ := hcomputed
  refine ⟨hload, hsets, hevaluated, render_ne_undefined _ "rows" ⟨nested, "linux", .refusing⟩
    nestedRows "loop" ?_ ?_⟩
  · intro source xs hsource hread
    rw [hload] at hsource
    cases hsource
    rw [hread] at hsets
    exact Option.some.inj hsets
  · have hdata : ∀ p ∈ nestedRows, p.2.OnlyLacks fun _ => False := by simp [nestedRows]
    exact fun p hp hl => hdata p hp _ hl

end CrateScaffold.Template
