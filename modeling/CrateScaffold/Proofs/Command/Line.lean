import CrateScaffold.Command.Program
import CrateScaffold.Proofs.World.Effect

/-!
Which command lines are accepted. A line is accepted just when its words can be sorted into
parameters and all values, given or not, pass their checks; so a value that one command accepted is
accepted by another with the same parameter.
-/

namespace CrateScaffold

section Except

variable {ε α : Type} {xs : List α} {f : α → Except ε Unit} {e : ε}

/-- All checks pass just when each of them does. -/
theorem forM_eq_ok {u : Unit} :
    forM xs f = .ok u ↔ ∀ x ∈ xs, f x = .ok () := by
  induction xs with
  | nil => simp [pure, Except.pure]
  | cons x xs ih =>
    rw [List.forM_cons, bind_eq_ok, List.forall_mem_cons]
    constructor
    · rintro ⟨⟨⟩, hx, hrest⟩
      exact ⟨hx, ih.1 hrest⟩
    · rintro ⟨hx, hrest⟩
      exact ⟨(), hx, ih.2 hrest⟩

/-- Where not all checks pass, one of them fails in the same way. -/
theorem exists_of_forM_eq_error (h : forM xs f = .error e) : ∃ x ∈ xs, f x = .error e := by
  induction xs with
  | nil => cases h
  | cons x xs ih =>
    rw [List.forM_cons] at h
    rcases bind_eq_error.1 h with hx | ⟨_, -, hrest⟩
    · exact ⟨x, List.mem_cons_self, hx⟩
    · obtain ⟨y, hy, hfail⟩ := ih hrest
      exact ⟨y, List.mem_cons_of_mem x hy, hfail⟩

theorem forM_eq_of_mem {g : α → Except ε Unit} (h : ∀ x ∈ xs, f x = g x) :
    forM xs f = forM xs g := by
  induction xs with
  | nil => rfl
  | cons x xs ih =>
    obtain ⟨hx, hxs⟩ := List.forall_mem_cons.1 h
    rw [List.forM_cons, List.forM_cons, hx, ih hxs]

end Except

namespace Command

variable {t : FileTree} {environment : Environment} {c : Option Command} {ps : List Parameter}
variable {ws : List Text} {l : Line} {q : Parameter} {g p m s : Text}

/-- A line is accepted when its words are parameters, none of them handled before all others, and
each value is one that its parameter takes. -/
theorem readLine_eq_ok : readLine c ps t environment ws = .ok l ↔
    Line.read ps c.isSome ws = .ok l ∧ checkUrgent l = .ok () ∧
      (∀ q ∈ l.occurring, checkValue c t environment l q = .ok ()) ∧
      checkArgument c t l = .ok () ∧
      ∀ q ∈ ps, q ∉ l.occurring → checkValue c t environment l q = .ok () := by
  unfold readLine
  constructor
  · intro h
    obtain ⟨l', hread, h⟩ := bind_eq_ok.1 h
    obtain ⟨⟨⟩, hurgent, h⟩ := bind_eq_ok.1 h
    obtain ⟨⟨⟩, hgiven, h⟩ := bind_eq_ok.1 h
    obtain ⟨⟨⟩, hargument, h⟩ := bind_eq_ok.1 h
    obtain ⟨⟨⟩, hothers, hpure⟩ := bind_eq_ok.1 h
    cases hpure
    refine ⟨mapError_eq_ok.1 hread, hurgent, forM_eq_ok.1 hgiven, hargument, fun q hq hno => ?_⟩
    exact forM_eq_ok.1 hothers q (List.mem_filter.2 ⟨hq, by simpa using hno⟩)
  · rintro ⟨hread, hurgent, hgiven, hargument, hothers⟩
    have hrest : forM (ps.filter (!l.occurring.contains ·)) (checkValue c t environment l) =
        .ok () := by
      refine forM_eq_ok.2 fun q hq => ?_
      obtain ⟨hq, hno⟩ := List.mem_filter.1 hq
      exact hothers q hq (by simpa using hno)
    exact bind_eq_ok.2 ⟨l, mapError_eq_ok.2 hread, bind_eq_ok.2 ⟨(), hurgent,
      bind_eq_ok.2 ⟨(), forM_eq_ok.2 hgiven, bind_eq_ok.2 ⟨(), hargument,
        bind_eq_ok.2 ⟨(), hrest, rfl⟩⟩⟩⟩⟩

theorem readLine_of_checks (hread : Line.read ps c.isSome ws = .ok l)
    (hurgent : checkUrgent l = .ok ()) (hargument : checkArgument c t l = .ok ())
    (hsub : l.occurring.Sublist ps) (hall : ∀ q ∈ ps, checkValue c t environment l q = .ok ()) :
    readLine c ps t environment ws = .ok l :=
  readLine_eq_ok.2
    ⟨hread, hurgent, fun q hq => hall q (hsub.subset hq), hargument, fun q hq _ => hall q hq⟩

/-- Every parameter of an accepted line has a value that it takes, if it has any. -/
theorem check_of_readLine (hl : readLine c ps t environment ws = .ok l) (hq : q ∈ ps)
    (hs : l.value? environment q = some s) : q.form.check t s = .ok none := by
  obtain ⟨-, -, hgiven, -, hothers⟩ := readLine_eq_ok.1 hl
  have hcheck : checkValue c t environment l q = .ok () := by
    by_cases hoccurs : q ∈ l.occurring
    · exact hgiven q hoccurs
    · exact hothers q hq hoccurs
  unfold checkValue at hcheck
  rw [hs] at hcheck
  unfold stopAt at hcheck
  simp only at hcheck
  split at hcheck
  · cases hcheck
  · cases hcheck
  · next hnone => exact hnone

theorem checkValue_of_none (hs : l.value? environment q = none) :
    checkValue c t environment l q = .ok () := by
  unfold checkValue
  rw [hs]

theorem checkValue_of_check (hs : l.value? environment q = some s)
    (hcheck : q.form.check t s = .ok none) : checkValue c t environment l q = .ok () := by
  unfold checkValue
  rw [hs]
  simp only [hcheck, stopAt]

/-- The words ask for the command, with the parameters of the line. -/
def Asks (t : FileTree) (environment : Environment) (ws : List Text) (c : Command) (l : Line) :
    Prop :=
  ∃ before opts, readLine none general t environment ws = .ok before ∧
    before.words = c.name :: opts ∧ readLine (some c) (parameters c) t environment opts = .ok l

theorem commandOf_name (c : Command) (ws : List Text) :
    commandOf t environment c.name ws = .ok c := by
  cases c <;> rfl

/-- What is asked for is done, unless settings of the log or words too many stand against it. -/
theorem read_of_asks {c : Command} (h : Asks t environment ws c l) :
    (∃ d f, Command.read t environment ws = .error (.usage d f)) ∨
      ∃ v, Command.read t environment ws = .ok (v, invocation c environment l) := by
  obtain ⟨before, opts, hbefore, hwords, hl⟩ := h
  have hread : Command.read t environment ws = (if isContradictory (verbosity before) then
      .error (.usage none .exclusive) else
        checkExtra c l >>= fun _ => .ok (verbosity before, invocation c environment l)) := by
    unfold Command.read
    rw [hbefore]
    simp only [bind, Except.bind, hwords, commandOf_name]
    split
    · rfl
    · change (readLine (some c) (parameters c) t environment opts >>= _) = _
      rw [hl]
      rfl
  rw [hread]
  split
  · exact .inl ⟨_, _, rfl⟩
  · unfold checkExtra
    split
    · exact .inr ⟨_, rfl⟩
    · exact .inl ⟨_, _, rfl⟩

def renderWords (g p m : Text) : List Text := ["render", "-g", g, "-p", p, "--manifest", m]

def renderLine (g p m : Text) : Line :=
  ⟨[⟨group, .value g⟩, ⟨package, .value p⟩, ⟨manifest, .value m⟩], []⟩

theorem readLine_renderWords (hm : manifest.form.check t m = .ok none) :
    readLine (some .render) (parameters .render) t environment (renderWords g p m).tail =
      .ok (renderLine g p m) := by
  have hall : ∀ q ∈ [group, package, output, manifest, help],
      checkValue (some .render) t environment (renderLine g p m) q = .ok () := by
    simp only [List.forall_mem_cons]
    refine ⟨?_, ?_, ?_, ?_, ?_, ?_⟩
    · exact checkValue_of_check rfl rfl
    · exact checkValue_of_check rfl rfl
    · exact checkValue_of_none rfl
    · exact checkValue_of_check rfl hm
    · exact checkValue_of_none rfl
    · simp
  have hsub : [group, package, manifest].Sublist [group, package, output, manifest, help] :=
    .cons_cons _ (.cons_cons _ (.cons _ (.cons_cons _ (List.nil_sublist _))))
  exact readLine_of_checks rfl rfl rfl hsub hall

theorem read_renderWords (hm : manifest.form.check t m = .ok none) :
    Command.read t environment (renderWords g p m) =
      .ok (⟨false, false, none⟩, .render ⟨some g, some p, .ofText m⟩ none) := by
  have hgeneral : readLine none general t environment (renderWords g p m) =
      .ok ⟨[], renderWords g p m⟩ := rfl
  unfold Command.read
  refine bind_eq_ok.2 ⟨_, hgeneral, bind_eq_ok.2 ⟨.render, rfl, ?_⟩⟩
  exact bind_eq_ok.2 ⟨renderLine g p m, readLine_renderWords hm, rfl⟩

end Command

end CrateScaffold
