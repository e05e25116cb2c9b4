import CrateScaffold.Proofs.Command.Line
import CrateScaffold.Proofs.World.Effect

/-!
What the exit code of a generation means. The code 0 is that of a run without a failure whose
success could be said, and what is logged and said before and after it changes no file.
-/

namespace CrateScaffold.Command

namespace Work

variable {α β : Type} {h : Host} {w w' : World} {a : Work α} {f : α → Work β} {x : α} {e : Stop}

theorem bind_of_ok (ha : a h w = (.ok x, w')) : (a >>= f) h w = f x h w' := by
  rw [run_bind, ha]

theorem bind_of_error (ha : a h w = (.error e, w')) : (a >>= f) h w = (.error e, w') := by
  rw [run_bind, ha]

theorem reporting_apply (handled : Failure → Bool) (a : Action α) : reporting handled a h w =
    ((a.exec h w).1.mapError (.ofFailure handled), (a.exec h w).2) := rfl

end Work

variable {t : FileTree} {environment : Environment} {l : Line} {g p m text : Text} {ws : List Text}
variable {h : Host} {w w' : World} {s : Selection} {o : Project.Order} {c : Command}
variable {code : Nat} {v : Verbosity}

def stopOf : Except Stop Unit → Option Stop
  | .ok _ => none
  | .error s => some s

theorem program_eq {i : Invocation} {x : Except Stop Unit}
    (hread : Command.read w.files environment ws = .ok (v, i))
    (hrun : perform i h { w with printed := [], records := [] } = (x, w')) :
    program ws environment h w =
      (.ofRun (v.threshold.toOption.getD 0) (stopOf x) w', w') := by
  unfold program
  simp only [hread, hrun]
  rfl

theorem filled_of_ne_nil (hg : g ≠ []) : filled (some g) = some g := by
  cases g with
  | nil => exact absurd rfl hg
  | cons c g => rfl

theorem resolved_of_filled (hg : filled s.group = some g) (hp : filled s.package = some p) :
    resolved c s h w = (.ok (g, p), w) := by
  unfold resolved Selection.resolve
  rw [hg, hp]

theorem resolved_of_given (hg : s.group = some g) (hp : s.package = some p) (hgne : g ≠ [])
    (hpne : p ≠ []) : resolved c s h w = (.ok (g, p), w) :=
  resolved_of_filled (by rw [hg, filled_of_ne_nil hgne]) (by rw [hp, filled_of_ne_nil hpne])

def orderOf (l : Line) (g p : Text) : Project.Order where
  output := pathOf l project
  root := some (pathOf l manifest).parent
  force := l.isSet force
  group := some g
  package := some p
  manifest := some (pathOf l manifest)
  source := some (pathOf l source)
  build := l.isSet build
  timeout := (((l.value? [] timeout).bind Text.toInt?)).getD 0

/-- The command stops with the exit code of the generation. -/
theorem performInit_of_given (hg : l.value? environment group = some g)
    (hp : l.value? environment package = some p) (hgne : g ≠ []) (hpne : p ≠ []) :
    perform (invocation .init environment l) h w =
      (.error (match ((execute (orderOf l g p)).exec h w).1 with
        | .ok code => .exit code
        | .error f => .escaped f), ((execute (orderOf l g p)).exec h w).2) := by
  have hresolved : resolved .init (selection l environment) h w = (.ok (g, p), w) :=
    resolved_of_given hg hp hgne hpne
  have hreport := Work.reporting_apply (h := h) (w := w) (fun _ => false) (execute (orderOf l g p))
  change performInit (selection l environment) (pathOf l project) (pathOf l source)
    (l.isSet build) (l.isSet force) ((((l.value? [] timeout).bind Text.toInt?)).getD 0) h w = _
  unfold performInit
  rw [Work.bind_of_ok hresolved]
  change (Work.reporting (fun _ => false) (execute (orderOf l g p)) >>= fun code =>
    throw (.exit code)) h w = _
  cases hx : ((execute (orderOf l g p)).exec h w).1 with
  | error f =>
    rw [hx] at hreport
    exact Work.bind_of_error hreport
  | ok code =>
    rw [hx] at hreport
    exact Work.bind_of_ok hreport

/-- The exit code of the program is that of the generation. -/
theorem program_of_read
    (hread : Command.read w.files environment ws = .ok (v, invocation .init environment l))
    (hg : l.value? environment group = some g) (hp : l.value? environment package = some p)
    (hgne : g ≠ []) (hpne : p ≠ []) :
    (program ws environment h w).1.code =
      ((execute (orderOf l g p)).exec h { w with printed := [], records := [] }).1.toOption ∧
    (program ws environment h w).2 =
      ((execute (orderOf l g p)).exec h { w with printed := [], records := [] }).2 := by
  rw [program_eq hread (performInit_of_given hg hp hgne hpne)]
  generalize (execute (orderOf l g p)).exec h _ = ran
  obtain ⟨f | code, w'⟩ := ran
  · exact ⟨rfl, rfl⟩
  · exact ⟨rfl, rfl⟩

/-- With the exit code 0, the generation ended with the code 0. -/
theorem execute_of_program (hasks : Asks w.files environment ws .init l)
    (hg : l.value? environment group = some g) (hp : l.value? environment package = some p)
    (hgne : g ≠ []) (hpne : p ≠ []) (hcode : (program ws environment h w).1.code = some 0) :
    (execute (orderOf l g p)).exec h { w with printed := [], records := [] } =
      (.ok 0, (program ws environment h w).2) := by
  rcases read_of_asks hasks with ⟨d, f, hread⟩ | ⟨v, hread⟩
  · unfold program at hcode
    simp only [hread] at hcode
    cases hcode
  · obtain ⟨hsame, hlast⟩ := program_of_read (h := h) hread hg hp hgne hpne
    rw [hsame] at hcode
    rw [hlast]
    generalize (execute (orderOf l g p)).exec h _ = ran at hcode ⊢
    obtain ⟨f | code, w'⟩ := ran
    · cases hcode
    · cases hcode
      rfl

theorem exec_say (tone : Console.Tone) (text : Text) : (Action.say tone text).exec h w =
    match Console.message h.literals h.columns tone text with
    | .ok shown => (.ok (), { w with printed := w.printed ++ shown })
    | .error f => (.error (.ofConsole f), w) := rfl

theorem exec_say_eq_ok {tone : Console.Tone} {u : Unit} :
    (Action.say tone text).exec h w = (.ok u, w') ↔
      ∃ shown, Console.message h.literals h.columns tone text = .ok shown ∧
        w' = { w with printed := w.printed ++ shown } := by
  rw [exec_say]
  cases Console.message h.literals h.columns tone text with
  | error f => simp
  | ok shown =>
    constructor
    · intro hrun
      exact ⟨shown, rfl, (Prod.mk.inj hrun).2.symm⟩
    · rintro ⟨_, hshown, rfl⟩
      cases hshown
      rfl

/-- Only a run without a failure is reported with the code 0, and the report changes no file. -/
theorem generated_eq_ok_zero : (generated o).exec h w = (.ok 0, w') ↔
    ∃ out v shown, (Project.run o).exec h w = (.ok out, v) ∧ out.failure = none ∧
      Console.message h.literals h.columns .success
        ("Generated " ++ Text.ofNat out.written.length ++ " files in 0.00s") = .ok shown ∧
      w' = { v with
        records := v.records ++
          out.written.map (fun p => ⟨.info, "Generated: " ++ p.text⟩) ++
          out.bindings.map fun b =>
            ⟨.info, "Found binding: " ++ b.type ++ " -> " ++ b.qualifiedName⟩
        printed := v.printed ++ shown } := by
  unfold generated
  rw [Action.exec_bind_eq_ok]
  constructor
  · rintro ⟨out, v, hout, hrest⟩
    rw [Action.exec_bind_of_ok (Action.exec_forM_log _ _ _),
      Action.exec_bind_of_ok (Action.exec_forM_log _ _ _)] at hrest
    cases hf : out.failure with
    | some f =>
      rw [hf] at hrest
      obtain ⟨⟨⟩, u, -, hpure⟩ := Action.exec_bind_eq_ok.1 hrest
      cases hpure
    | none =>
      rw [hf] at hrest
      obtain ⟨⟨⟩, u, hsaid, hpure⟩ := Action.exec_bind_eq_ok.1 hrest
      cases hpure
      obtain ⟨shown, hshown, rfl⟩ := exec_say_eq_ok.1 hsaid
      exact ⟨out, v, shown, hout, hf, hshown, rfl⟩
  · rintro ⟨out, v, shown, hout, hf, hshown, rfl⟩
    refine ⟨out, v, hout, ?_⟩
    rw [Action.exec_bind_of_ok (Action.exec_forM_log _ _ _),
      Action.exec_bind_of_ok (Action.exec_forM_log _ _ _), hf]
    exact Action.exec_bind_eq_ok.2 ⟨(), _, exec_say_eq_ok.2 ⟨shown, hshown, rfl⟩, rfl⟩

def announced (o : Project.Order) (w : World) : World :=
  { w with records := w.records ++ [⟨.info, "Group: " ++ o.group.getD []⟩] ++
      [⟨.info, "Package: " ++ o.package.getD []⟩] ++
      [⟨.info, "Output dir: " ++ o.output.text⟩] }

def concluded : Except Failure Nat → Action Nat
  | .ok code => pure code
  | .error (.native .interrupted) => do
    Action.log .error "Interrupted by user"
    return 1
  | .error f => do
    Action.log .error ("Error: " ++ f.message)
    Action.log .debug "Traceback:"
    return 1

/-- The code 0 is that of a generation; every failure has another. -/
theorem execute_eq_ok_zero : (execute o).exec h w = (.ok 0, w') ↔
    (generated o).exec h (announced o w) = (.ok 0, w') := by
  unfold execute
  rw [Action.exec_bind_of_ok (Action.exec_log _ _), Action.exec_bind_of_ok (Action.exec_log _ _),
    Action.exec_bind_of_ok (Action.exec_log _ _), Action.exec_bind_of_ok Action.exec_attempt]
  generalize hran : (generated o).exec h (announced o w) = ran
  change (concluded ((generated o).exec h (announced o w)).1).exec h
    ((generated o).exec h (announced o w)).2 = _ ↔ _
  rw [hran]
  obtain ⟨f | code, v⟩ := ran
  · constructor
    · intro hrun
      unfold concluded at hrun
      split at hrun
      · next hok => cases hok
      · obtain ⟨⟨⟩, u, -, hpure⟩ := Action.exec_bind_eq_ok.1 hrun
        cases hpure
      · obtain ⟨⟨⟩, u, -, hrest⟩ := Action.exec_bind_eq_ok.1 hrun
        obtain ⟨⟨⟩, u', -, hpure⟩ := Action.exec_bind_eq_ok.1 hrest
        cases hpure
    · intro hfailed
      cases hfailed
  · rfl

end CrateScaffold.Command
