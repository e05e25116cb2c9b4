import CrateScaffold.Proofs.BuildScript.Report

/-!
Line differences as a patch. They are listed in the order of the lines, one for each line at which
the expected and the actual lines differ, and applying them to the actual lines gives the expected
ones. So nothing but the listed lines keeps a script from being what its template stands for.
-/

namespace CrateScaffold.BuildScript

variable {n : Nat} {d : LineDiff} {es as : List Text} {done : List (Option Text)}

/-- Puts what is expected where the line is, and after the last line where no line is. A line that
is not expected is struck out. -/
def LineDiff.apply (ls : List (Option Text)) (d : LineDiff) : List (Option Text) :=
  match d.actual with
  | some _ => ls.set (d.line - 1) d.expected
  | none => ls ++ [d.expected]

def patch (ds : List LineDiff) (as : List Text) : List Text :=
  (ds.foldl LineDiff.apply (as.map some)).filterMap id

theorem LineDiff.apply_replace (e : Option Text) (a : Text) (rest : List (Option Text)) :
    LineDiff.apply (done ++ some a :: rest) ⟨done.length + 1, e, some a⟩ =
      done ++ [e] ++ rest := by
  simp [LineDiff.apply]

theorem LineDiff.apply_append (n : Nat) (e : Text) :
    LineDiff.apply done ⟨n, some e, none⟩ = done ++ [some e] := rfl

/-- Extra lines are struck out one by one. -/
theorem foldl_apply_extraFrom (done : List (Option Text)) (as : List Text) :
    (extraFrom (done.length + 1) as).foldl LineDiff.apply (done ++ as.map some) =
      done ++ List.replicate as.length none := by
  induction as generalizing done with
  | nil => rfl
  | cons a as ih =>
    have hrest := ih (done ++ [none])
    rw [List.length_append, List.length_singleton] at hrest
    rw [extraFrom, List.foldl_cons, List.map_cons, LineDiff.apply_replace, hrest]
    simp [List.replicate_succ]

/-- The differences bring one line after the other to what is expected. -/
theorem foldl_apply_diffFrom (done : List (Option Text)) (es as : List Text) :
    (diffFrom (done.length + 1) es as).foldl LineDiff.apply (done ++ as.map some) =
      done ++ es.map some ++ List.replicate (as.length - es.length) none := by
  induction es generalizing done as with
  | nil => simpa [diffFrom] using foldl_apply_extraFrom done as
  | cons e es ih =>
    have hrest := ih (done ++ [some e])
    simp only [List.length_append, List.length_singleton] at hrest
    cases as with
    | nil =>
      have hmissing := hrest []
      rw [List.map_nil, List.append_nil] at hmissing
      rw [diffFrom, List.foldl_cons, List.map_nil, List.append_nil, LineDiff.apply_append, hmissing]
      simp
    | cons a as =>
      rw [diffFrom, List.map_cons]
      split
      · next hea =>
        subst hea
        simpa using hrest as
      · rw [List.foldl_cons, LineDiff.apply_replace, hrest]
        simp

theorem patch_diffFrom (es as : List Text) : patch (diffFrom 1 es as) as = es := by
  have hrun := foldl_apply_diffFrom [] es as
  rw [List.length_nil, Nat.zero_add, List.nil_append, List.nil_append] at hrun
  rw [patch, hrun]
  simp

def Tells (n : Nat) (es as : List Text) (d : LineDiff) : Prop :=
  ∃ i, d = ⟨n + i, es[i]?, as[i]?⟩ ∧ es[i]? ≠ as[i]?

theorem tells_iff (n : Nat) (es as : List Text) : Tells n es as d ↔
    (d = ⟨n, es[0]?, as[0]?⟩ ∧ es[0]? ≠ as[0]?) ∨ Tells (n + 1) es.tail as.tail d := by
  have hshift : ∀ i, n + 1 + i = n + (i + 1) := fun i => by omega
  simp only [Tells, List.getElem?_tail, hshift]
  exact Nat.or_exists_add_one.symm

theorem mem_extraFrom : d ∈ extraFrom n as ↔ Tells n [] as d := by
  induction as generalizing n with
  | nil => simp [extraFrom, Tells]
  | cons a as ih =>
    rw [extraFrom, List.mem_cons, ih, tells_iff n [] (a :: as)]
    simp

/-- Exactly the lines that are not the same are told of. -/
theorem mem_diffFrom : d ∈ diffFrom n es as ↔ Tells n es as d := by
  fun_induction diffFrom n es as with
  | case1 n as => exact mem_extraFrom
  | case2 n e es ih =>
    rw [List.mem_cons, ih, tells_iff n (e :: es) []]
    simp
  | case3 n es a as ih =>
    rw [ih, tells_iff n (a :: es) (a :: as)]
    simp
  | case4 n e es a as hne ih =>
    rw [List.mem_cons, ih, tells_iff n (e :: es) (a :: as)]
    simp [hne]

theorem pairwise_extraFrom (n : Nat) (as : List Text) :
    (extraFrom n as).Pairwise (·.line < ·.line) := by
  induction as generalizing n with
  | nil => exact .nil
  | cons a as ih => exact .cons (fun d hd => le_line_of_mem_extraFrom hd) (ih (n + 1))

theorem pairwise_diffFrom (n : Nat) (es as : List Text) :
    (diffFrom n es as).Pairwise (·.line < ·.line) := by
  fun_induction diffFrom n es as with
  | case1 n as => exact pairwise_extraFrom n as
  | case2 n e es ih => exact .cons (fun d hd => le_line_of_mem_diffFrom hd) ih
  | case3 n es a as ih => exact ih
  | case4 n e es a as hne ih => exact .cons (fun d hd => le_line_of_mem_diffFrom hd) ih

/-- The differences are exactly what keeps the actual lines from being the expected ones. -/
structure IsPatch (es as : List Text) (ds : List LineDiff) : Prop where
  increasing : ds.Pairwise (·.line < ·.line)
  within : ∀ d ∈ ds, 1 ≤ d.line ∧ d.line ≤ max es.length as.length
  expected : ∀ d ∈ ds, d.expected = es[d.line - 1]? ∧ (d.expected = none ↔ es.length < d.line)
  actual : ∀ d ∈ ds, d.actual = as[d.line - 1]? ∧ (d.actual = none ↔ as.length < d.line)
  listed : ∀ i, i + 1 ∈ ds.map LineDiff.line ↔ es[i]? ≠ as[i]?
  repairs : patch ds as = es

theorem isPatch_diffFrom (es as : List Text) : IsPatch es as (diffFrom 1 es as) where
  increasing := pairwise_diffFrom 1 es as
  within := by
    intro d hd
    obtain ⟨i, rfl, hne⟩ := mem_diffFrom.1 hd
    refine ⟨Nat.le_add_right 1 i, ?_⟩
    by_contra hlt
    change ¬ 1 + i ≤ _ at hlt
    have hes : es[i]? = none := List.getElem?_eq_none (by omega)
    have has : as[i]? = none := List.getElem?_eq_none (by omega)
    exact hne (hes.trans has.symm)
  expected := by
    intro d hd
    obtain ⟨i, rfl, -⟩ := mem_diffFrom.1 hd
    dsimp only
    rw [Nat.add_sub_cancel_left, List.getElem?_eq_none_iff]
    exact ⟨rfl, by omega⟩
  actual := by
    intro d hd
    obtain ⟨i, rfl, -⟩ := mem_diffFrom.1 hd
    dsimp only
    rw [Nat.add_sub_cancel_left, List.getElem?_eq_none_iff]
    exact ⟨rfl, by omega⟩
  listed := by
    intro i
    rw [List.mem_map]
    constructor
    · rintro ⟨d, hd, hline⟩
      obtain ⟨j, rfl, hne⟩ := mem_diffFrom.1 hd
      obtain rfl : j = i := by simpa [Nat.add_comm] using hline
      exact hne
    · intro hne
      exact ⟨⟨1 + i, es[i]?, as[i]?⟩, mem_diffFrom.2 ⟨i, rfl, hne⟩, Nat.add_comm 1 i⟩
  repairs := patch_diffFrom es as

/-- Where every placeholder has a value, the differences of a script are exactly what keeps its
lines from being those that the template stands for; without any, the script is these lines. -/
theorem diff_isPatch (rendered template : Text) (values : List (Text × Text))
    (ht : ∀ l ∈ Text.lines template, ∀ name ∈ placeholders l, name ∈ values.map Prod.fst) :
    ∃ es ds, expectedLines template values = .ok es ∧ diff rendered template values = .ok ds ∧
      IsPatch es (Text.lines rendered) ds ∧ (ds = [] ↔ es = Text.lines rendered) ∧
      (ds = [] → rendered = es.flatten) := by
  obtain ⟨es, hes⟩ := exists_expectedLines ht
  refine ⟨es, diffFrom 1 es (Text.lines rendered), hes, by rw [diff, hes]; rfl,
    isPatch_diffFrom es _, diffFrom_eq_nil_iff, fun hnil => ?_⟩
  rw [diffFrom_eq_nil_iff.1 hnil, Text.flatten_lines]

def threeLines : Text := "\x7b\x7b x \x7d\x7d\nb\nc"

def oneValue : List (Text × Text) := [("x", "v")]

/-- A script in which the second line is another and the third is missing. -/
theorem diff_isPatch_truncated :
    (∀ l ∈ Text.lines threeLines, ∀ name ∈ placeholders l, name ∈ oneValue.map Prod.fst) ∧
    ∃ ds, diff "v\nB" threeLines oneValue = .ok ds ∧ ds.map LineDiff.line = [2, 3] ∧
      patch ds (Text.lines "v\nB") = ["v\n", "b\n", "c"] := by
  have ht : ∀ l ∈ Text.lines threeLines, ∀ name ∈ placeholders l,
      name ∈ oneValue.map Prod.fst := by
    decide +kernel
  obtain ⟨es, ds, hes, hds, hpatch, -⟩ := diff_isPatch "v\nB" threeLines oneValue ht
  have hlines : expectedLines threeLines oneValue = .ok ["v\n", "b\n", "c"] := by decide +kernel
  have hlisted : diff "v\nB" threeLines oneValue =
      .ok [⟨2, some "b\n", some "B"⟩, ⟨3, some "c", none⟩] := by
    decide +kernel
  cases hes.symm.trans hlines
  cases hds.symm.trans hlisted
  exact ⟨ht, _, hlisted, rfl, hpatch.repairs⟩

end CrateScaffold.BuildScript
