import CrateScaffold.Proofs.Template.Environment
import CrateScaffold.Template.Named

/-!
Rendering depends on nothing but the names that are looked up. What a frame takes from the context
is among the free names of the template, and nothing else is ever taken from it; so contexts that
agree on them give the same text, or the same failure.
-/

namespace CrateScaffold.Template

variable {c c' : Context} {env : Env} {ns : List Text} {n : Text}

def Context.AgreeOn (c c' : Context) (ns : List Text) : Prop := ∀ n ∈ ns, c.value? n = c'.value? n

theorem Context.agreeOn_append {ms : List Text} :
    c.AgreeOn c' (ms ++ ns) ↔ c.AgreeOn c' ms ∧ c.AgreeOn c' ns :=
  List.forall_mem_append

/-- A frame takes nothing from the context but its free names. -/
theorem Env.enter_congr {f : Frame} (h : c.AgreeOn c' f.free) (env : Env)
    (bound : List (Text × Value)) : env.enter c bound f = env.enter c' bound f := by
  unfold enter
  congr 1
  refine List.map_congr_left fun p hp => ?_
  obtain ⟨n, o⟩ := p
  cases o with
  | context =>
    have hn : n ∈ f.free := List.mem_map.2 ⟨(n, .context), List.mem_filter.2 ⟨hp, rfl⟩, rfl⟩
    simp only [h n hn]
  | bound => rfl
  | outer => rfl
  | unset => rfl

theorem bodyEnv_congr {t : Target} {body : List Node}
    (h : c.AgreeOn c' (Frame.ofBody env.names t body).free) (total index : Nat) (x : Value) :
    bodyEnv c env t body total index x = bodyEnv c' env t body total index x := by
  unfold bodyEnv
  simp only [Env.enter_congr h]

theorem names_bodyEnv {t : Target} {body : List Node} {total index : Nat} {x : Value} {inner : Env}
    (h : bodyEnv c env t body total index x = .ok inner) :
    inner.names = (Frame.ofBody env.names t body).names ++ env.names := by
  obtain ⟨bound, -, hpure⟩ := bind_eq_ok.1 h
  cases hpure
  exact Env.names_enter _ _ _ _

theorem selected_congr {t : Target} {test : Option Expr}
    (h : c.AgreeOn c' ((test.map fun e => (Frame.ofTest env.names t e).free).getD []))
    (xs : List Value) : selected c env t test xs = selected c' env t test xs := by
  cases test with
  | none => rfl
  | some e =>
    have hpasses : passes c env t e = passes c' env t e := by
      funext x
      unfold passes
      simp only [Env.enter_congr h]
    simp only [selected, hpasses]

mutual

/-- The names that the frames inside a node look up are all that it takes from the context. -/
theorem Node.run_congr : (x : Node) → {env : Env} → c.AgreeOn c' (x.free env.names) →
    x.run c env = x.run c' env
  | .text u, _, _ => rfl
  | .print e, _, _ => rfl
  | .choose bs other, env, h => by
    obtain ⟨hbs, hother⟩ := Context.agreeOn_append.1 h
    rw [Node.run, Node.run, runBranches_congr bs hbs]
    refine bind_congr_of_ok fun chosen _ => ?_
    cases chosen with
    | none => exact runAll_congr other hother
    | some r => rfl
  | .each t source test body other, env, h => by
    obtain ⟨h, hother⟩ := Context.agreeOn_append.1 h
    obtain ⟨htest, hbody⟩ := Context.agreeOn_append.1 h
    obtain ⟨hframe, hinside⟩ := Context.agreeOn_append.1 hbody
    obtain ⟨hother, hlater⟩ := Context.agreeOn_append.1 hother
    have hprinted : ∀ xs, printed c env t body xs = printed c' env t body xs := by
      intro xs
      unfold printed
      congr 1
      funext out p
      rw [bodyEnv_congr hframe]
      refine bind_congr_of_ok fun inner hinner => ?_
      rw [runAll_congr body (by rwa [names_bodyEnv hinner])]
    have helse : runAll c (env.enter c [] (.ofSection env.names other)) other =
        runAll c' (env.enter c' [] (.ofSection env.names other)) other := by
      rw [← Env.enter_congr hother]
      exact runAll_congr other (by rwa [Env.names_enter])
    rw [run_each, run_each]
    simp only [selected_congr htest, hprinted, helse]
  | .assign t e, _, _ => rfl
  | .capture t body, env, h => by
    obtain ⟨hframe, hinside⟩ := Context.agreeOn_append.1 h
    rw [Node.run, Node.run, ← Env.enter_congr hframe,
      runAll_congr body (by rwa [Env.names_enter])]

theorem runAll_congr : (xs : List Node) → {env : Env} → c.AgreeOn c' (freeInside env.names xs) →
    runAll c env xs = runAll c' env xs
  | [], _, _ => rfl
  | x :: xs, env, h => by
    obtain ⟨hx, hxs⟩ := Context.agreeOn_append.1 h
    rw [runAll, runAll, Node.run_congr x hx]
    refine bind_congr_of_ok fun r hr => ?_
    -- What follows a node sees the names that the node saw.
    have hnames := Node.names_run x hr
    simp only [runAll_congr xs (by rwa [hnames])]

theorem runBranches_congr : (bs : List Branch) → {env : Env} →
    c.AgreeOn c' (freeInBranches env.names bs) → runBranches c env bs = runBranches c' env bs
  | [], _, _ => rfl
  | .of e body :: bs, env, h => by
    obtain ⟨hbody, hbs⟩ := Context.agreeOn_append.1 h
    rw [runBranches, runBranches, runAll_congr body hbody, runBranches_congr bs hbs]

end

/-- The free names of a template are all that its run takes from the context, globals apart. -/
theorem run_congr {xs : List Node} (hfree : c.AgreeOn c' (freeNames xs))
    (hglobals : c.AgreeOn c' globals) : run c xs = run c' xs := by
  have hall : c.AgreeOn c' ((Frame.ofTemplate xs).free ++
      freeInside (Frame.ofTemplate xs).names xs) :=
    fun n hn => (mem_freeNames_or_mem_globals hn).elim (hfree n) (hglobals n)
  obtain ⟨hframe, hinside⟩ := Context.agreeOn_append.1 hall
  unfold run
  rw [Env.enter_congr hframe, runAll_congr xs]
  rw [Env.names_enter]
  simpa [Env.names] using hinside

/-- The names that are missing depend on nothing but the entries under the names that a source looks
up. -/
theorem missing_congr {e : Engine} {source : Text}
    (h : ∀ names, e.names source = .ok names → ∀ n ∈ names, c.lookup n = c'.lookup n) :
    e.missing source c = e.missing source c' := by
  unfold Engine.missing
  refine bind_congr_of_ok fun names hnames => ?_
  have hsupplies : ∀ n ∈ names, c.supplies n = c'.supplies n := by
    intro n hn
    unfold Context.supplies
    rw [h names hnames n hn]
  exact congrArg Except.ok (List.filter_congr fun n hn => by rw [hsupplies n hn])

/-- What is covered is read without the engine. -/
theorem names_of_covered {e : Engine} {source : Text} (hself : c.lookup "self".toList = none)
    (hcovered : evaluate source c ≠ .error .uncovered) : e.names source = lookups source := by
  refine Engine.complete_of_ne _ fun hl => hcovered ?_
  unfold lookups at hl
  unfold evaluate
  rw [hself]
  cases hread : read source with
  | error f =>
    rw [hread] at hl
    cases hl
    rfl
  | ok xs =>
    rw [hread] at hl
    cases hl

/-- Contexts that agree on the names that a covered template looks up, and on the globals, give the
same rendering, be it a text or a failure; what else is in them is never seen. -/
theorem render_eq_of_lookups (l : Library) (name : Text) (site : Site) (c c' : Context)
    (hcovered : ∀ source, l.load site.files name = .ok source →
      evaluate source c ≠ .error .uncovered)
    (hself : c.lookup "self".toList = none) (hself' : c'.lookup "self".toList = none)
    (hlookups : ∀ names, (l.lookups name site).2 = .ok names →
      ∀ n ∈ names, c.lookup n = c'.lookup n)
    (hglobals : ∀ n ∈ globals, c.lookup n = c'.lookup n) :
    l.render name c site = l.render name c' site := by
  have hvalue : ∀ n, c.lookup n = c'.lookup n → c.value? n = c'.value? n := by
    intro n hn
    unfold Context.value?
    rw [hn]
  unfold Library.render
  refine Reading.apply_bind_congr fun source hsource => ?_
  have hc := hcovered source (mapError_eq_ok.1 hsource)
  have hnames : ∀ names, site.engine.names source = .ok names →
      ∀ n ∈ names, c.lookup n = c'.lookup n := by
    intro names hnames
    refine hlookups names (Reading.snd_bind_eq_ok.2 ⟨source, hsource, ?_⟩)
    rw [Reading.snd_ofSite, hnames]
    rfl
  have hchecked : Library.checkTokens site.engine name source c =
      Library.checkTokens site.engine name source c' := by
    unfold Library.checkTokens
    rw [missing_congr hnames]
  have hevaluated : evaluate source c = evaluate source c' := by
    unfold evaluate
    rw [hself, hself']
    refine bind_congr_of_ok fun xs hread => run_congr (fun n hn => ?_) fun n hn => ?_
    · have hread' : site.engine.names source = .ok (distinct (freeNames xs)) := by
        rw [names_of_covered hself hc, lookups, hread]
        rfl
      exact hvalue n (hnames _ hread' n (mem_distinct.2 hn))
    · exact hvalue n (hglobals n hn)
  refine Reading.apply_bind_ofSite_congr hchecked fun _ _ => Reading.apply_bind_congr fun _ _ => ?_
  have htext : site.engine.text (l.load site.files) source c =
      site.engine.text (l.load site.files) source c' := by
    unfold Engine.text
    rw [Engine.complete_of_ne _ hc, Engine.complete_of_ne _ (hevaluated ▸ hc), hevaluated]
  exact congrArg (fun x : Result Text => ([], x.mapError Failure.template)) htext

/-- A template that sets names in a branch and in a section of its own, and uses the name of a loop
outside of it. -/
def settingTemplate : Text :=
  "\x7b% if p %\x7d\x7b% set q = p %\x7d\x7b% endif %\x7d\x7b\x7b q \x7d\x7d" ++
  "\x7b% for x in [p, q] if x != r %\x7d\x7b\x7b loop.index ~ x \x7d\x7d\x7b% endfor %\x7d" ++
  "\x7b% set s %\x7d\x7b\x7b x \x7d\x7d\x7b% endset %\x7d\x7b\x7b s \x7d\x7d"

def setting : FileTree := [
  ([".jni-cli"], .dir), ([".jni-cli", "templates"], .dir),
  ([".jni-cli", "templates", "note"], .file (Utf8.encode settingTemplate) false)]

def lookedUp : Context := [("p", .null), ("q", .text "b"), ("r", .int 3), ("x", .bool true)]

theorem load_setting :
    (Library.project Path.here).load setting "note" = .ok settingTemplate ∧
      ((read settingTemplate).map freeNames).toOption = some (["p", "q", "r", "x"] : List Text) ∧
      (evaluate settingTemplate (("s", .int 1) :: lookedUp)).toOption =
        some ("b1None2bTrue" : Text) := by
  decide +kernel

theorem lookups_setting {names : List Text} {n : Text}
    (h : ((Library.project Path.here).lookups "note" ⟨setting, "linux", .refusing⟩).2 = .ok names)
    (hn : n ∈ names) : n ∈ (["p", "q", "r", "x"] : List Text) := by
  obtain ⟨source, hsource, h⟩ := Reading.snd_bind_eq_ok.1 h
  rw [Library.source, Reading.snd_ofTree, load_setting.1] at hsource
  cases hsource
  obtain ⟨-, hfree, -⟩ := load_setting
  cases hread : read settingTemplate with
  | error f =>
    rw [hread] at hfree
    cases hfree
  | ok xs =>
  rw [hread] at hfree
  have hnames : Engine.refusing.names settingTemplate = .ok (distinct (freeNames xs)) := by
    rw [Engine.names, lookups, hread]
    rfl
  rw [Reading.snd_ofSite, hnames] at h
  cases h
  rw [← Option.some.inj hfree]
  exact mem_distinct.1 hn

theorem render_eq_of_lookups_setting :
    (Library.project Path.here).load setting "note" = .ok settingTemplate ∧
      ((read settingTemplate).map freeNames).toOption =
        some (["p", "q", "r", "x"] : List Text) ∧
      (Library.project Path.here).render "note" (("s", .int 1) :: lookedUp)
          ⟨setting, "linux", .refusing⟩ =
        (Library.project Path.here).render "note" (("loop", .null) :: lookedUp)
          ⟨setting, "linux", .refusing⟩ := by
  obtain ⟨hload, hfree, hevaluated⟩ := load_setting
  refine ⟨hload, hfree,
    render_eq_of_lookups _ "note" ⟨setting, "linux", .refusing⟩ _ _ ?_ rfl rfl ?_ ?_⟩
  · intro source hsource huncovered
    rw [hload] at hsource
    cases hsource
    rw [huncovered] at hevaluated
    cases hevaluated
  · intro names hnames n hn
    have hall : ∀ n ∈ (["p", "q", "r", "x"] : List Text),
        List.lookup n (("s".toList, Value.int 1) :: lookedUp) =
          List.lookup n (("loop".toList, Value.null) :: lookedUp) := by
      simp only [List.forall_mem_cons]
      exact ⟨rfl, rfl, rfl, rfl, by simp⟩
    exact hall n (lookups_setting hnames hn)
  · simp only [globals, List.forall_mem_cons]
    exact ⟨rfl, rfl, rfl, rfl, rfl, rfl, by simp⟩

end CrateScaffold.Template
