import CrateScaffold.Proofs.BuildScript.Balanced
import CrateScaffold.Proofs.BuildScript.Heading
import CrateScaffold.Proofs.World.Effect

/-!
Where a block ends. While the scan for the closing brace goes on, its count of open blocks is the
nesting that the grammar gives the text behind it. So it stops at the brace after a balanced body
where there is one, and in every other case it comes to the end of the text.
-/

namespace CrateScaffold.BuildScript

/-- What stands open at the end of a text: some blocks, one inside the other, and in the innermost
perhaps a literal. -/
inductive LeavesOpen : Nat → Bool → Text → Prop where
  | body {b} : IsBalanced b → LeavesOpen 0 false b
  | block {d u b} : LeavesOpen d false u → IsBalanced b → LeavesOpen (d + 1) false (u ++ '{' :: b)
  | literal {d u l} : LeavesOpen d false u → IsLiteral l → LeavesOpen d true (u ++ '"' :: l)

variable {d d' : Nat} {q q' : Bool} {s t u b : Text}

theorem LeavesOpen.append_balanced (hu : LeavesOpen d false u) (hb : IsBalanced b) :
    LeavesOpen d false (u ++ b) := by
  cases hu with
  | body hu => exact .body (hu.append hb)
  | block hu hc =>
    rw [List.append_assoc, List.cons_append]
    exact .block hu (hc.append hb)

theorem LeavesOpen.append_literal {l : Text} (hu : LeavesOpen d true u) (hl : IsLiteral l) :
    LeavesOpen d true (u ++ l) := by
  cases hu with
  | literal hu hm =>
    rw [List.append_assoc, List.cons_append]
    exact .literal hu (hm.append hl)

theorem LeavesOpen.append_quote (hu : LeavesOpen d true u) : LeavesOpen d false (u ++ ['"']) := by
  cases hu with
  | literal hu hl =>
    rw [List.append_assoc]
    exact hu.append_balanced (.literal hl .nil)

theorem LeavesOpen.append_brace (hu : LeavesOpen (d + 1) false u) :
    LeavesOpen d false (u ++ ['}']) := by
  cases hu with
  | block hu hb =>
    rw [List.append_assoc]
    exact hu.append_balanced (.block hb .nil)

theorem ne_brace {c : Char} (h₁ : d = 0 → c ≠ '}') (h₂ : ∀ n, d = n + 1 → c ≠ '}') : c ≠ '}' := by
  cases d with
  | zero => exact h₁ rfl
  | succ n => exact h₂ n rfl

/-- Each character that the scan passes changes its count as it changes what stands open. -/
theorem LeavesOpen.append_of_walk? (hu : LeavesOpen d q u) (h : walk? d q s = some (d', q')) :
    LeavesOpen d' q' (u ++ s) := by
  -- by the steps of the scan; what each of them passes goes over to `u`
  fun_induction walk? d q s generalizing u with
  | case1 d q =>
    cases h
    rwa [List.append_nil]
  | case2 d => cases h
  | case3 d c s ih =>
    have hnext := ih (hu.append_literal (.escape (c := c) .nil)) h
    rwa [List.append_assoc] at hnext
  | case4 d c s h₁ h₂ ih =>
    rw [List.append_cons]
    by_cases hc : c = '"'
    · subst hc
      exact ih hu.append_quote h
    · rw [bne_iff_ne.2 hc] at ih h
      exact ih (hu.append_literal (.char hc (ne_backslash h₁ h₂) .nil)) h
  | case5 d s ih =>
    rw [List.append_cons]
    exact ih (.literal hu .nil) h
  | case6 d s ih =>
    rw [List.append_cons]
    exact ih (.block hu .nil) h
  | case7 => cases h
  | case8 d s ih =>
    rw [List.append_cons]
    exact ih hu.append_brace h
  | case9 d c s h₁ h₂ h₃ h₄ ih =>
    rw [List.append_cons]
    exact ih (hu.append_balanced (.char h₁ h₂ (ne_brace h₃ h₄) .nil)) h

theorem LeavesOpen.walk? (h : LeavesOpen d q s) : walk? 0 false s = some (d, q) := by
  induction h with
  | body hb => exact hb.walk? 0
  | block _ hb ih => rw [walk?_append ih, BuildScript.walk?, hb.walk?]
  | literal _ hl ih => rw [walk?_append ih, BuildScript.walk?, hl.walk?]

theorem walk?_eq_some_iff : walk? 0 false s = some (d, q) ↔ LeavesOpen d q s :=
  ⟨LeavesOpen.append_of_walk? (.body .nil), LeavesOpen.walk?⟩

theorem isBalanced_iff : IsBalanced s ↔ walk? 0 false s = some (0, false) := by
  constructor
  · intro h
    exact h.walk? 0
  · intro h
    cases walk?_eq_some_iff.1 h with
    | body hs => exact hs

instance : DecidablePred IsBalanced := fun _ => decidable_of_iff _ isBalanced_iff.symm

example : IsBalanced "a \x7b \"\x7d\\\"\" \x7d b" ∧ ¬ IsBalanced "\x7d\x7b" := by decide

/-- How a scan comes to an end: at the brace that closes the block, with the text, or at a backslash
in a literal that has no character to escape. -/
inductive ScanEnd (d : Nat) (q : Bool) (s : Text) : Prop where
  | closed {b r : Text} : walk? d q b = some (0, false) → s = b ++ '}' :: r → ScanEnd d q s
  | ended {d' : Nat} {q' : Bool} : walk? d q s = some (d', q') → ScanEnd d q s
  | escape {u : Text} {d' : Nat} : walk? d q u = some (d', true) → s = u ++ ['\\'] → ScanEnd d q s

theorem ScanEnd.append (hu : walk? d q u = some (d', q')) (hs : ScanEnd d' q' s) :
    ScanEnd d q (u ++ s) := by
  cases hs with
  | closed hb hs =>
    rw [hs, ← List.append_assoc]
    exact .closed ((walk?_append hu _).trans hb) rfl
  | ended hs => exact .ended ((walk?_append hu _).trans hs)
  | escape hv hs =>
    rw [hs, ← List.append_assoc]
    exact .escape ((walk?_append hu _).trans hv) rfl

/-- Every scan comes to an end. -/
theorem scan_ends (d : Nat) (q : Bool) (s : Text) : ScanEnd d q s := by
  fun_induction walk? d q s with
  | case1 d q => exact .ended rfl
  | case2 d => exact .escape (u := []) rfl rfl
  | case3 d c s ih => exact ih.append (u := ['\\', c]) rfl
  | case4 d c s h₁ h₂ ih =>
    exact ih.append (u := [c]) (walk?_literal_cons (ne_backslash h₁ h₂) d [])
  | case5 d s ih => exact ih.append (u := ['"']) rfl
  | case6 d s ih => exact ih.append (u := ['{']) rfl
  | case7 s => exact .closed (b := []) rfl rfl
  | case8 d s ih => exact ih.append (u := ['}']) rfl
  | case9 d c s h₁ h₂ h₃ h₄ ih =>
    exact ih.append (u := [c]) (walk?_cons h₁ h₂ (ne_brace h₃ h₄) d [])

/-- The text begins with a balanced body in braces. -/
def BeginsBlock (body s : Text) : Prop := IsBalanced body ∧ '{' :: (body ++ ['}']) <+: s

/-- What follows an opening brace that is never closed: the text is over while blocks or a literal
stand open, or at a backslash in a literal. -/
inductive IsUnclosed : Text → Prop where
  | ended {d : Nat} {q : Bool} {s : Text} : LeavesOpen d q s → IsUnclosed s
  | escape {d : Nat} {u : Text} : LeavesOpen d true u → IsUnclosed (u ++ ['\\'])

theorem BeginsBlock.body? (h : BeginsBlock b s) : body? s = some b := by
  obtain ⟨hb, r, rfl⟩ := h
  rw [List.cons_append, List.append_assoc]
  exact hb.body? r

theorem IsUnclosed.body? (h : IsUnclosed s) : body? ('{' :: s) = none := by
  cases h with
  | ended h =>
    rw [← List.append_nil s, BuildScript.body?, bodyFrom?_append h.walk?, bodyFrom?]
    rfl
  | escape h =>
    rw [BuildScript.body?, bodyFrom?_append h.walk?, bodyFrom?, bodyFrom?]
    rfl

theorem beginsBlock_or_isUnclosed (s : Text) :
    (∃ body, BeginsBlock body ('{' :: s)) ∨ IsUnclosed s := by
  cases scan_ends 0 false s with
  | @closed b r hb hs =>
    left
    refine ⟨b, isBalanced_iff.2 hb, r, ?_⟩
    rw [hs, List.cons_append, List.append_assoc]
    rfl
  | ended h => exact .inr (.ended (walk?_eq_some_iff.1 h))
  | escape h hs =>
    rw [hs]
    exact .inr (.escape (walk?_eq_some_iff.1 h))

theorem body?_eq_some_iff : body? ('{' :: s) = some b ↔ BeginsBlock b ('{' :: s) := by
  constructor
  · intro h
    rcases beginsBlock_or_isUnclosed s with ⟨c, hc⟩ | hs
    · cases h.symm.trans hc.body?
      exact hc
    · cases h.symm.trans hs.body?
  · exact BeginsBlock.body?

theorem BeginsBlock.unique (hs : BeginsBlock b s) (ht : BeginsBlock t s) : b = t :=
  Option.some.inj (hs.body?.symm.trans ht.body?)

theorem body?_eq_none_iff : body? ('{' :: s) = none ↔ IsUnclosed s := by
  constructor
  · intro h
    rcases beginsBlock_or_isUnclosed s with ⟨c, hc⟩ | hs
    · cases h.symm.trans hc.body?
    · exact hs
  · exact IsUnclosed.body?

theorem ofBody_ne_unterminated (body : Text) :
    Publication.ofBody body ≠ .error .unterminated := by
  have hvalue (name : Text) : valueOf body name ≠ .error .unterminated := by
    unfold valueOf
    split <;> exact nofun
  intro h
  rcases bind_eq_error.1 h with h | ⟨group, -, h⟩
  · exact hvalue _ h
  rcases bind_eq_error.1 h with h | ⟨artifact, -, h⟩
  · exact hvalue _ h
  rcases bind_eq_error.1 h with h | ⟨version, -, h⟩
  · exact hvalue _ h
  cases h

theorem read_eq_unterminated_iff (hs : publishing? true s = some t) :
    Publication.read s = .error .unterminated ↔ body? t = none := by
  cases hb : body? t with
  | none => simp [Publication.read, hs, hb]
  | some body =>
    rw [read_of_body? hs hb]
    exact iff_of_false (ofBody_ne_unterminated body) nofun

/-- At an opening brace the scan gives the balanced body before its closing brace, which is the only
one there. It gives none exactly where there is none: where the text leaves the block unclosed. If
the publishing block is such a one, the script is refused as unterminated, and only then. -/
theorem body?_exact {text : Text} {o : Nat} (hopen : text[o]? = some '{') :
    (∀ body, body? (text.drop o) = some body ↔ BeginsBlock body (text.drop o)) ∧
    (∀ body other, BeginsBlock body (text.drop o) → BeginsBlock other (text.drop o) →
      body = other) ∧
    (body? (text.drop o) = none ↔ ∀ body, ¬ BeginsBlock body (text.drop o)) ∧
    (body? (text.drop o) = none ↔ IsUnclosed (text.drop (o + 1))) ∧
    (publishing? true text = some (text.drop o) →
      (Publication.read text = .error .unterminated ↔
        ∀ body, ¬ BeginsBlock body (text.drop o))) := by
  have hdrop : text.drop o = '{' :: text.drop (o + 1) := by
    obtain ⟨ho, hbrace⟩ := List.getElem?_eq_some_iff.1 hopen
    rw [List.drop_eq_getElem_cons ho, hbrace]
  have hnone : body? (text.drop o) = none ↔ ∀ body, ¬ BeginsBlock body (text.drop o) := by
    rw [hdrop, Option.eq_none_iff_forall_ne_some]
    exact forall_congr' fun body => not_congr body?_eq_some_iff
  refine ⟨?_, ?_, hnone, ?_, ?_⟩
  · intro body
    rw [hdrop]
    exact body?_eq_some_iff
  · intro body other hbody hother
    exact hbody.unique hother
  · rw [hdrop]
    exact body?_eq_none_iff
  · intro hpublishing
    rw [read_eq_unterminated_iff hpublishing]
    exact hnone

def nestedBody : Text := " a = \"\x7d\\\"\x7b\" \x7b b \x7d "

def nestedScript : Text := "x\npublishing \x7b" ++ (nestedBody ++ "\x7d \x7d")

def cutScript : Text := "publishing \x7b a = \"b\" \x7b c = \"d\\"

theorem body?_exact_nested :
    nestedScript[13]? = some '{' ∧ body? (nestedScript.drop 13) = some nestedBody ∧
    cutScript[11]? = some '{' ∧ publishing? true cutScript = some (cutScript.drop 11) ∧
      body? (cutScript.drop 11) = none ∧ Publication.read cutScript = .error .unterminated := by
  have hnested : nestedScript[13]? = some '{' := by decide
  have hcut : cutScript[11]? = some '{' := by decide
  have hpublishing : publishing? true cutScript = some (cutScript.drop 11) := by decide
  have hblock : BeginsBlock nestedBody (nestedScript.drop 13) := ⟨by decide, by decide⟩
  have hopen : walk? 0 false " a = \"b\" \x7b c = \"d".toList = some (1, true) := by decide
  obtain ⟨hbody, -⟩ := body?_exact hnested
  obtain ⟨-, -, hnone, hunclosed, hread⟩ := body?_exact hcut
  have hend : body? (cutScript.drop 11) = none :=
    hunclosed.2 (.escape (walk?_eq_some_iff.1 hopen))
  exact ⟨hnested, (hbody nestedBody).2 hblock, hcut, hpublishing, hend,
    (hread hpublishing).2 (hnone.1 hend)⟩

end CrateScaffold.BuildScript
