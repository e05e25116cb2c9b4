import CrateScaffold.BuildScript.Publication
import CrateScaffold.Proofs.Text.Blank
import CrateScaffold.Proofs.Text.Occurrence

/-!
The search for an assignment. It knows no literals: whether a value is found depends only on the
pieces of text between quotes, and the value is the piece after the first one that ends like the
beginning of an assignment.
-/

namespace CrateScaffold.BuildScript

/-- The text ends in the name, as a word of its own, and an equals sign with blanks around it. -/
def EndsInAssignment (name s : Text) : Prop :=
  ∃ u gap gap', s = u ++ (name ++ (gap ++ '=' :: gap')) ∧ gap.all Text.isBlank = true ∧
    gap'.all Text.isBlank = true ∧ ∀ x ∈ u.getLast?, Text.isWord x = false

def isAssignmentHead (name s : Text) : Bool :=
  match Text.after? name s with
  | none => false
  | some r =>
    match Text.trimLeft r with
    | '=' :: r => Text.isAllBlank r
    | _ => false

/-- Whether the text ends in an assignment without its literal; `fresh` says that no word goes on
here. -/
def endsInAssignment (name : Text) (fresh : Bool) : Text → Bool
  | [] => false
  | c :: s => fresh && isAssignmentHead name (c :: s) || endsInAssignment name (!Text.isWord c) s

variable {name s r : Text} {fresh : Bool}

/-- What stands before the first quote is blank, or goes on with another character. -/
theorem trimLeft_append_quote (hs : '"' ∉ s) (r : Text) :
    s.all Text.isBlank = true ∧ Text.trimLeft (s ++ '"' :: r) = '"' :: r ∨
    ∃ x u, Text.trimLeft s = x :: u ∧ x ≠ '"' ∧ '"' ∉ u ∧
      Text.trimLeft (s ++ '"' :: r) = x :: (u ++ '"' :: r) := by
  by_cases hb : Text.trimLeft s = []
  · have hall := Text.trimLeft_eq_nil_iff.1 hb
    exact .inl ⟨hall, Text.trimLeft_append hall (by decide) r⟩
  · obtain ⟨x, u, hx⟩ := List.exists_cons_of_ne_nil hb
    have hmem : '"' ∉ x :: u := fun h => hs (Text.mem_of_mem_trimLeft (hx ▸ h))
    simp only [List.mem_cons, not_or] at hmem
    refine .inr ⟨x, u, hx, Ne.symm hmem.1, hmem.2, ?_⟩
    rw [Text.trimLeft_append_of_ne_nil hb, hx, List.cons_append]

theorem assignment?_append (hname : '"' ∉ name) (hs : '"' ∉ s) (r : Text) :
    assignment? name (s ++ '"' :: r) =
      if isAssignmentHead name s then (Text.cut? ['"'] r).map (·.1) else none := by
  unfold assignment? isAssignmentHead
  cases ha : Text.after? name s with
  | none => simp [Text.after?_append_of_not_mem hname ha]
  | some q =>
    have he := Text.eq_append_of_after? ha
    have hq : '"' ∉ q := fun h => hs (he ▸ List.mem_append_right name h)
    rw [he, List.append_assoc, Text.after?_append]
    rcases trimLeft_append_quote hq r with ⟨hb, ht⟩ | ⟨x, u, hx, hxq, hu, ht⟩
    · simp [ht, Text.trimLeft_eq_nil_iff.2 hb]
    · by_cases heq : x = '='
      · subst heq
        rcases trimLeft_append_quote hu r with ⟨hb, ht'⟩ | ⟨y, v, hy, hyq, -, ht'⟩
        · simp [ht, hx, ht', Text.isAllBlank, hb]
        · have hb : Text.isAllBlank u = false := by
            refine Bool.eq_false_iff.2 fun h => ?_
            rw [Text.trimLeft_eq_nil_iff.2 h] at hy
            cases hy
          simp [ht, hx, ht', hyq, hb]
      · simp [ht, hx, heq]

theorem assignment?_eq_none (hs : '"' ∉ s) : assignment? name s = none := by
  unfold assignment?
  split
  · rfl
  · next q ha =>
    have hq : '"' ∉ q := fun h => hs (Text.eq_append_of_after? ha ▸ List.mem_append_right name h)
    split
    · next u hu =>
      have hu' : '"' ∉ u :=
        fun h => hq (Text.mem_of_mem_trimLeft (hu ▸ List.mem_cons_of_mem _ h))
      split
      · next v hv => exact absurd (Text.mem_of_mem_trimLeft (hv ▸ List.mem_cons_self)) hu'
      · rfl
    · rfl

theorem isAssignmentHead_nil (hn : name ≠ []) : isAssignmentHead name [] = false := by
  cases name with
  | nil => exact absurd rfl hn
  | cons a name => rfl

/-- Past a piece of text the search goes on afresh, unless the piece ends in an assignment and a
literal follows. -/
theorem assigned?_append (hn : name ≠ []) (hname : '"' ∉ name) (hs : '"' ∉ s) (fresh : Bool)
    (r : Text) :
    assigned? name fresh (s ++ '"' :: r) =
      (if endsInAssignment name fresh s then (Text.cut? ['"'] r).map (·.1) else none).or
        (assigned? name true r) := by
  induction s generalizing fresh with
  | nil =>
    have ha := assignment?_append hname (s := []) (by simp) r
    rw [isAssignmentHead_nil hn, List.nil_append] at ha
    have hword : (!Text.isWord '"') = true := by decide
    rw [List.nil_append, assigned?, ha, hword]
    simp [endsInAssignment]
  | cons c s ih =>
    have ha := assignment?_append hname hs r
    have hs' : '"' ∉ s := fun h => hs (List.mem_cons_of_mem c h)
    rw [List.cons_append] at ha ⊢
    rw [assigned?, ha, ih hs', endsInAssignment]
    -- wherever the assignment begins, its literal is what follows the same quote
    generalize (Text.cut? ['"'] r).map (·.1) = v
    cases fresh <;> cases isAssignmentHead name (c :: s) <;> cases v <;> simp

theorem assigned?_eq_none (hs : '"' ∉ s) (fresh : Bool) : assigned? name fresh s = none := by
  induction s generalizing fresh with
  | nil => rfl
  | cons c s ih =>
    rw [assigned?, assignment?_eq_none hs, ih fun h => hs (List.mem_cons_of_mem c h)]
    simp

def assignedPiece? (name : Text) : List Text → Option Text
  | s :: v :: w :: ps =>
    if endsInAssignment name true s then some v else assignedPiece? name (v :: w :: ps)
  | _ => none

theorem joinWith_cons_cons (sep p p' : Text) (ps : List Text) :
    Text.joinWith sep (p :: p' :: ps) = p ++ (sep ++ Text.joinWith sep (p' :: ps)) := by
  simp [Text.joinWith, List.intercalate]

/-- The search sees nothing of a text but its pieces between quotes. -/
theorem assigned?_joinWith (hn : name ≠ []) (hname : '"' ∉ name) {ps : List Text}
    (hps : ∀ p ∈ ps, '"' ∉ p) :
    assigned? name true (Text.joinWith ['"'] ps) = assignedPiece? name ps := by
  fun_induction assignedPiece? name ps with
  | case1 s v w ps hend =>
    have hcut : Text.cut? ['"'] (Text.joinWith ['"'] (v :: w :: ps)) =
        some (v, Text.joinWith ['"'] (w :: ps)) := by
      rw [joinWith_cons_cons]
      exact Text.cut?_char (hps v (by simp)) _
    rw [joinWith_cons_cons, List.singleton_append, assigned?_append hn hname (hps s (by simp)),
      if_pos hend, hcut, Option.map_some, Option.some_or]
  | case2 s v w ps hend ih =>
    rw [joinWith_cons_cons, List.singleton_append, assigned?_append hn hname (hps s (by simp)),
      if_neg hend, Option.none_or]
    exact ih fun p hp => hps p (List.mem_cons_of_mem s hp)
  | case3 ps h =>
    match ps, h with
    | [], _ => rfl
    | [s], _ => simpa [Text.joinWith] using assigned?_eq_none (hps s (by simp)) true
    | [s, v], _ =>
      have hv : '"' ∉ v := hps v (by simp)
      rw [joinWith_cons_cons, List.singleton_append, assigned?_append hn hname (hps s (by simp))]
      simp [Text.joinWith, Text.cut?_char_eq_none hv, assigned?_eq_none hv]
    | s :: v :: w :: ps, h => exact absurd rfl (h s v w ps)

theorem isAssignmentHead_iff : isAssignmentHead name s = true ↔
    ∃ gap gap', s = name ++ (gap ++ '=' :: gap') ∧ gap.all Text.isBlank = true ∧
      gap'.all Text.isBlank = true := by
  constructor
  · intro h
    unfold isAssignmentHead at h
    split at h
    · cases h
    · next r hr =>
      split at h
      · next q hq =>
        refine ⟨r.takeWhile Text.isBlank, q, ?_, List.all_takeWhile, h⟩
        rw [← hq, Text.trimLeft, List.takeWhile_append_dropWhile]
        exact Text.eq_append_of_after? hr
      · cases h
  · rintro ⟨gap, gap', rfl, hgap, hgap'⟩
    unfold isAssignmentHead
    rw [Text.after?_append]
    simp only [Text.trimLeft_append hgap (x := '=') (by decide) gap']
    exact hgap'

theorem endsInAssignment_iff (hn : name ≠ []) (fresh : Bool) :
    endsInAssignment name fresh s = true ↔
      ∃ u h, s = u ++ h ∧ isAssignmentHead name h = true ∧ (u = [] → fresh = true) ∧
        ∀ x ∈ u.getLast?, Text.isWord x = false := by
  induction s generalizing fresh with
  | nil =>
    refine ⟨fun h => absurd h Bool.false_ne_true, ?_⟩
    rintro ⟨u, h, he, hh, -⟩
    rw [(List.append_eq_nil_iff.1 he.symm).2, isAssignmentHead_nil hn] at hh
    cases hh
  | cons c s ih =>
    rw [endsInAssignment, Bool.or_eq_true, Bool.and_eq_true, ih]
    constructor
    · rintro (⟨hf, hh⟩ | ⟨u, h, rfl, hh, hu, hw⟩)
      · exact ⟨[], c :: s, rfl, hh, fun _ => hf, by simp⟩
      · refine ⟨c :: u, h, rfl, hh, by simp, ?_⟩
        cases u with
        | nil => simpa using hu rfl
        | cons d u => rwa [List.getLast?_cons_cons]
    · rintro ⟨u, h, he, hh, hu, hw⟩
      cases u with
      | nil =>
        rw [List.nil_append] at he
        exact .inl ⟨hu rfl, he ▸ hh⟩
      | cons d u =>
        obtain ⟨rfl, rfl⟩ := List.cons.inj he
        refine .inr ⟨u, h, rfl, hh, ?_, ?_⟩
        · rintro rfl
          simpa using hw c (by simp)
        · intro x hx
          cases u with
          | nil => cases hx
          | cons d u => exact hw x (by rwa [List.getLast?_cons_cons])

theorem endsInAssignment_true_iff (hn : name ≠ []) :
    endsInAssignment name true s = true ↔ EndsInAssignment name s := by
  rw [endsInAssignment_iff hn]
  constructor
  · rintro ⟨u, h, rfl, hh, -, hw⟩
    obtain ⟨gap, gap', rfl, hgap, hgap'⟩ := isAssignmentHead_iff.1 hh
    exact ⟨u, gap, gap', rfl, hgap, hgap', hw⟩
  · rintro ⟨u, gap, gap', rfl, hgap, hgap', hw⟩
    exact ⟨u, _, rfl, isAssignmentHead_iff.2 ⟨gap, gap', rfl, hgap, hgap'⟩, fun _ => rfl, hw⟩

end CrateScaffold.BuildScript
