import CrateScaffold.Proofs.BuildScript.Verdict
import CrateScaffold.Proofs.Text.Quoted
import CrateScaffold.Proofs.World.Effect

/-!
What the messages on a build script say about it. Each line that is not as expected is quoted with
its number, and all other lines are those of the template; so where every placeholder has a value,
the messages tell the whole script.
-/

namespace CrateScaffold.BuildScript

open Template

variable {c : Coordinates} {s t l script name : Text} {values : List (Text × Text)}
variable {n : Nat} {d e : LineDiff} {es as bs : List Text}

def placeholders (s : Text) : List Text :=
  match s with
  | [] => []
  | c :: r =>
    match h : placeholder? (c :: r) with
    | some (name, rest) =>
      have : rest.length < r.length + 1 := length_lt_of_placeholder? h
      name :: placeholders rest
    | none => placeholders r
  termination_by s.length

/-- Substitution needs a value for every placeholder, and no more. -/
theorem exists_substitute_iff : (∃ o, substitute values s = .ok o) ↔
    ∀ name ∈ placeholders s, name ∈ values.map Prod.fst := by
  fun_induction placeholders s with
  | case1 =>
    rw [substitute]
    simp
  | case2 a r name rest h hlt ih =>
    rw [List.forall_mem_cons, ← ih]
    cases hv : values.lookup name with
    | none =>
      have hfail : substitute values (a :: r) = .error name := by
        rw [substitute]
        split
        · next hp =>
          rw [h] at hp
          cases hp
          rw [hv]
        · next hp => rw [h] at hp; cases hp
      have hnot : name ∉ values.map Prod.fst := by
        intro hm
        obtain ⟨p, hp, rfl⟩ := List.mem_map.1 hm
        have hne := List.lookup_eq_none_iff.1 hv p hp
        simp at hne
      rw [hfail]
      simp [hnot]
    | some value =>
      have hm : name ∈ values.map Prod.fst := by
        obtain ⟨u, v, hsplit, -⟩ := List.lookup_eq_some_iff.1 hv
        rw [hsplit]
        simp
      rw [substitute_of_placeholder? h hv]
      cases substitute values rest with
      | error f => simp [Except.map]
      | ok o => simp [Except.map, hm]
  | case3 a r h ih =>
    rw [substitute_cons_of_none h, ← ih]
    cases substitute values r with
    | error f => simp [Except.map]
    | ok o => simp [Except.map]

theorem exists_mapM_substitute (h : ∀ l ∈ as, ∃ o, substitute values l = .ok o) :
    ∃ os, as.mapM (substitute values) = .ok os :=
  isOk_iff.1 (isOk_mapM.2 fun l hl => isOk_iff.2 (h l hl))

theorem exists_expectedLines
    (h : ∀ l ∈ Text.lines t, ∀ name ∈ placeholders l, name ∈ values.map Prod.fst) :
    ∃ es, expectedLines t values = .ok es :=
  exists_mapM_substitute fun l hl => exists_substitute_iff.2 (h l hl)

def LineDiff.finding (d : LineDiff) : Text :=
  match d.expected, d.actual with
  | some e, some a => "expected " ++ Text.quote e ++ ", found " ++ Text.quote a
  | some e, none => "missing, expected " ++ Text.quote e
  | none, some a => "unexpected " ++ Text.quote a
  | none, none => "missing"

theorem LineDiff.message_eq (d : LineDiff) :
    d.message = "line ".toList ++ (Text.ofNat d.line ++ ':' :: ' ' :: d.finding) := by
  change ("line ".toList ++ Text.ofNat d.line) ++ ": ".toList ++ d.finding = _
  simp

theorem LineDiff.finding_injective (h : d.finding = e.finding) :
    d.expected = e.expected ∧ d.actual = e.actual := by
  obtain ⟨m, x, a⟩ := d
  obtain ⟨n, y, b⟩ := e
  simp only [LineDiff.finding, List.append_assoc] at h ⊢
  cases x with
  | none =>
    cases a with
    | none => cases y <;> cases b <;> simp_all
    | some a =>
      cases y with
      | some y => cases b <;> simp at h
      | none =>
        cases b with
        | none => simp at h
        | some b => simpa using Text.quote_injective (List.append_cancel_left h)
  | some x =>
    cases a with
    | none =>
      cases y with
      | none => cases b <;> simp at h
      | some y =>
        cases b with
        | some b => simp at h
        | none => simpa using Text.quote_injective (List.append_cancel_left h)
    | some a =>
      cases y with
      | none => cases b <;> simp at h
      | some y =>
        cases b with
        | none => simp at h
        | some b =>
          obtain ⟨hxy, hrest⟩ := Text.quote_append_injective (List.append_cancel_left h)
          simpa [hxy] using Text.quote_injective (List.append_cancel_left hrest)

/-- A message tells the number of the line, what was expected there and what was found. -/
theorem LineDiff.message_injective : Function.Injective LineDiff.message := by
  intro d e h
  rw [message_eq, message_eq] at h
  obtain ⟨hline, hrest⟩ := Text.ofNat_append_injective (by decide) (List.append_cancel_left h)
  obtain ⟨hexpected, hactual⟩ := finding_injective (List.cons.inj hrest).2
  cases d
  cases e
  simp_all

theorem le_line_of_mem_extraFrom (h : d ∈ extraFrom n as) : n ≤ d.line := by
  induction as generalizing n with
  | nil => cases h
  | cons a as ih =>
    rcases List.mem_cons.1 h with rfl | h
    · exact Nat.le_refl n
    · exact Nat.le_of_succ_le (ih h)

theorem le_line_of_mem_diffFrom (h : d ∈ diffFrom n es as) : n ≤ d.line := by
  fun_induction diffFrom n es as with
  | case1 n as => exact le_line_of_mem_extraFrom h
  | case2 n e es ih =>
    rcases List.mem_cons.1 h with rfl | h
    · exact Nat.le_refl n
    · exact Nat.le_of_succ_le (ih h)
  | case3 n es as e ih => exact Nat.le_of_succ_le (ih h)
  | case4 n e es a as hne ih =>
    rcases List.mem_cons.1 h with rfl | h
    · exact Nat.le_refl n
    · exact Nat.le_of_succ_le (ih h)

theorem diffFrom_succ_ne_cons {ds : List LineDiff} (hd : d.line = n) :
    diffFrom (n + 1) es as ≠ d :: ds := by
  intro h
  have hmem : d ∈ diffFrom (n + 1) es as := by
    rw [h]
    exact List.mem_cons_self
  have hle := le_line_of_mem_diffFrom hmem
  omega

theorem extraFrom_injective (h : extraFrom n as = extraFrom n bs) : as = bs := by
  induction as generalizing n bs with
  | nil =>
    cases bs with
    | nil => rfl
    | cons b bs => cases h
  | cons a as ih =>
    cases bs with
    | nil => cases h
    | cons b bs =>
      obtain ⟨hd, hrest⟩ := List.cons.inj h
      cases hd
      rw [ih hrest]

/-- With the expected lines, the differences tell all lines. -/
theorem diffFrom_injective (h : diffFrom n es as = diffFrom n es bs) : as = bs := by
  induction es generalizing n as bs with
  | nil =>
    rw [diffFrom, diffFrom] at h
    exact extraFrom_injective h
  | cons e es ih =>
    cases as with
    | nil =>
      cases bs with
      | nil => rfl
      | cons b bs =>
        rw [diffFrom, diffFrom] at h
        split at h
        · exact absurd h.symm (diffFrom_succ_ne_cons rfl)
        · cases (List.cons.inj h).1
    | cons a as =>
      cases bs with
      | nil =>
        rw [diffFrom, diffFrom] at h
        split at h
        · exact absurd h (diffFrom_succ_ne_cons rfl)
        · cases (List.cons.inj h).1
      | cons b bs =>
        rw [diffFrom, diffFrom] at h
        split at h
        · next ha =>
          split at h
          · next hb => rw [← ha, ← hb, ih h]
          · exact absurd h (diffFrom_succ_ne_cons rfl)
        · split at h
          · exact absurd h.symm (diffFrom_succ_ne_cons rfl)
          · obtain ⟨hd, hrest⟩ := List.cons.inj h
            cases hd
            rw [ih hrest]

def ofLines (messages : List Text) : List Text := messages.filter fun m => m.head? == some 'l'

theorem ofLines_publicationProblems (script : Text) (c : Coordinates) :
    ofLines ((publicationProblems script c).map Problem.message) = [] := by
  unfold publicationProblems
  cases Publication.read script with
  | error f => cases f <;> rfl
  | ok p =>
    simp only
    split <;> split <;> rfl

theorem ofLines_lineProblems {ds : List LineDiff} (h : diff script t c.context = .ok ds) :
    ofLines ((lineProblems script c t).map Problem.message) = ds.map LineDiff.message := by
  have hline : lineProblems script c t = ds.map .line := by rw [lineProblems, h]
  have hmessages : (ds.map Problem.line).map Problem.message = ds.map LineDiff.message :=
    List.map_map
  rw [hline, hmessages, ofLines, List.filter_eq_self]
  intro m hm
  obtain ⟨d, -, rfl⟩ := List.mem_map.1 hm
  rw [LineDiff.message_eq]
  rfl

theorem ofLines_problems {ds : List LineDiff} (h : diff script t c.context = .ok ds) :
    ofLines ((problems script c t).map Problem.message) = ds.map LineDiff.message := by
  have hpublication := ofLines_publicationProblems script c
  have hlines := ofLines_lineProblems h
  rw [ofLines] at hpublication hlines ⊢
  rw [problems, List.map_append, List.filter_append, hpublication, hlines, List.nil_append]

/-- Under a template whose placeholders all have values, no two scripts get the same report. -/
theorem report_injective (c : Coordinates) (template : Text)
    (ht : ∀ l ∈ Text.lines template, ∀ name ∈ placeholders l, name ∈ c.context.map Prod.fst) :
    Function.Injective fun script => (problems script c template).map Problem.message := by
  obtain ⟨es, hes⟩ := exists_expectedLines ht
  have hdiff : ∀ script, diff script template c.context =
      .ok (diffFrom 1 es (Text.lines script)) := by
    intro script
    rw [diff, hes]
    rfl
  intro script script' h
  have hmessages := congrArg ofLines h
  simp only [ofLines_problems (hdiff _)] at hmessages
  have hds := List.map_injective_iff.2 LineDiff.message_injective hmessages
  rw [← Text.flatten_lines script, ← Text.flatten_lines script', diffFrom_injective hds]

/-- A script whose lines end differently, and nothing else, gets another report. -/
theorem report_injective_breaks :
    (∀ l ∈ Text.lines publishedTemplate, ∀ name ∈ placeholders l,
      name ∈ tagLikeCoordinates.context.map Prod.fst) ∧
    (problems (Text.foldBreaks publishedScript) tagLikeCoordinates publishedTemplate).map
        Problem.message ≠
      (problems publishedScript tagLikeCoordinates publishedTemplate).map Problem.message := by
  have ht : ∀ l ∈ Text.lines publishedTemplate, ∀ name ∈ placeholders l,
      name ∈ tagLikeCoordinates.context.map Prod.fst := by
    decide +kernel
  refine ⟨ht, fun h => ?_⟩
  have hne : Text.foldBreaks publishedScript ≠ publishedScript := by decide +kernel
  exact hne (report_injective tagLikeCoordinates publishedTemplate ht h)

end CrateScaffold.BuildScript
