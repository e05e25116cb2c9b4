import CrateScaffold.Proofs.Template.SkeletonScan
import CrateScaffold.Template.Rendering

/-!
The nodes of a skeleton: a text or a printed name for each of its tokens, none of them at fault.
-/

namespace CrateScaffold.Template

inductive Yields (c : Coordinates) : List Node → Text → Prop
  | nil : Yields c [] []
  | text {ns : List Node} {s : Text} (u : Text) :
      Yields c ns s → Yields c (.text u :: ns) (u ++ s)
  | value {ns : List Node} {s : Text} (f : Field) (line : Nat) :
      Yields c ns s → Yields c (.print (.name f.name line) :: ns) (f.value c ++ s)

variable {c : Coordinates} {s : Text} {ts : List Token} {ns : List Node}

theorem Prints.ne_nil (h : Prints c ts s) : ts ≠ [] := by
  cases h <;> exact List.cons_ne_nil _ _

theorem Prints.checked_eq (h : Prints c ts s) : Parser.checked ts = .ok ts := by
  cases h <;> rfl

namespace Parser

theorem advance_cons {t : Token} (hne : ts ≠ []) (hc : checked ts = .ok ts) :
    advance (t :: ts) = .ok (t, ts) := by
  cases ts with
  | nil => exact absurd rfl hne
  | cons u us =>
    change (checked (u :: us)).map (t, ·) = _
    rw [hc]
    rfl

theorem tuple_name (f : Field) (m j k : Nat) (ts : List Token) :
    tuple false true false [] (m + 20) (⟨.name f.name, j⟩ :: ⟨.printEnd, k⟩ :: ts) =
      .ok (.name f.name j, ⟨.printEnd, k⟩ :: ts) := by
  cases f <;> rfl

theorem nodes_text (m i : Nat) (u : Text) (hne : ts ≠ []) (hc : checked ts = .ok ts) :
    nodes [] (m + 1) (⟨.text u, i⟩ :: ts) =
      (nodes [] m ts).map fun x => (.text u :: x.1, x.2) := by
  have ha := advance_cons (t := ⟨.text u, i⟩) hne hc
  rw [nodes]
  change (advance (⟨.text u, i⟩ :: ts) >>= _) = _
  rw [ha]
  change ((nodes [] m ts) >>= _) = _
  cases nodes [] m ts <;> rfl

theorem nodes_print (m i j k : Nat) (f : Field) (hne : ts ≠ []) (hc : checked ts = .ok ts) :
    nodes [] (m + 21) (⟨.printBegin, i⟩ :: ⟨.name f.name, j⟩ :: ⟨.printEnd, k⟩ :: ts) =
      (nodes [] (m + 20) ts).map fun x => (.print (.name f.name j) :: x.1, x.2) := by
  have ht := tuple_name f m j k ts
  have ha := advance_cons (t := ⟨.printEnd, k⟩) hne hc
  rw [nodes]
  change (tuple false true false [] (m + 20)
    (⟨.name f.name, j⟩ :: ⟨.printEnd, k⟩ :: ts) >>= _) = _
  rw [ht]
  change (expectPrintEnd (⟨.printEnd, k⟩ :: ts) >>= _) = _
  have he : expectPrintEnd (⟨.printEnd, k⟩ :: ts) = .ok ((), ts) := by
    change (advance (⟨.printEnd, k⟩ :: ts) >>= _) = _
    rw [ha]
    rfl
  rw [he]
  change ((nodes [] (m + 20) ts) >>= _) = _
  cases nodes [] (m + 20) ts <;> rfl

/-- Reading tokens keeps the text that they stand for. -/
theorem nodes_of_prints (h : Prints c ts s) {m : Nat} (hm : ts.length + 20 ≤ m) :
    ∃ ns r, nodes [] m ts = .ok (ns, r) ∧ Yields c ns s := by
  induction h generalizing m with
  | eof line =>
    obtain ⟨m, rfl⟩ := Nat.exists_eq_add_of_le' (show 1 ≤ m by omega)
    exact ⟨[], _, rfl, .nil⟩
  | text u line h ih =>
    rw [List.length_cons] at hm
    obtain ⟨m, rfl⟩ := Nat.exists_eq_add_of_le' (show 1 ≤ m by omega)
    obtain ⟨ns, r, hr, hy⟩ := ih (m := m) (by omega)
    exact ⟨_, r, by rw [nodes_text m line u h.ne_nil h.checked_eq, hr]; rfl, .text u hy⟩
  | value f i j k h ih =>
    simp only [List.length_cons] at hm
    obtain ⟨m, rfl⟩ := Nat.exists_eq_add_of_le' (show 21 ≤ m by omega)
    obtain ⟨ns, r, hr, hy⟩ := ih (m := m + 20) (by omega)
    exact ⟨_, r, by rw [nodes_print m i j k f h.ne_nil h.checked_eq, hr]; rfl, .value f j hy⟩

end Parser

theorem Yields.nodesFault?_eq_none (h : Yields c ns s) (soft : Bool) :
    nodesFault? soft ns = none := by
  induction h with
  | nil => rfl
  | text u _ ih => simpa [nodesFault?, Node.fault?] using ih
  | value f line _ ih => simpa [nodesFault?, Node.fault?, Expr.unknown?] using ih

theorem read_of_parse {t : Text} {ns : List Node}
    (hparse : parse (LineBreak.detect t) (Text.foldBreaks t) = .ok ns) :
    read t = match nodesFault? false ns with
      | some f => .error (.unknown f)
      | none => .ok ns := by
  unfold read
  rw [hparse]
  rfl

theorem read_fills {t : Text} (ht : Fills c t s) (hb : Text.UniformBreaks t) :
    ∃ ns, read t = .ok ns ∧ Yields c ns s := by
  have hp : Prints c (tokens (LineBreak.detect t) (Text.foldBreaks t)) s :=
    prints_scan ht hb.eq_detect rfl
  obtain ⟨ns, r, hr, hy⟩ := Parser.nodes_of_prints hp
    (m := 24 * ((tokens (LineBreak.detect t) (Text.foldBreaks t)).length + 2)) (by omega)
  have hparse : parse (LineBreak.detect t) (Text.foldBreaks t) = .ok ns := by
    unfold parse
    rw [hp.checked_eq]
    change (Parser.nodes [] _ _ >>= _) = _
    rw [hr]
    rfl
  refine ⟨ns, ?_, hy⟩
  rw [read_of_parse hparse, hy.nodesFault?_eq_none]

end CrateScaffold.Template
