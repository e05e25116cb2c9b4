import CrateScaffold.Proofs.Template.Skeleton
import CrateScaffold.Proofs.Text.Blank
import CrateScaffold.Proofs.Text.Break

/-!
The tokens of a skeleton. `Prints c ts s` says that tokens are texts and placeholders which together
make `s`; the tokens of a skeleton with uniform line breaks make the text that it stands for.
-/

namespace CrateScaffold.Template

inductive Prints (c : Coordinates) : List Token → Text → Prop
  | eof (line : Nat) : Prints c [⟨.eof, line⟩] []
  | text {ts : List Token} {s : Text} (u : Text) (line : Nat) :
      Prints c ts s → Prints c (⟨.text u, line⟩ :: ts) (u ++ s)
  | value {ts : List Token} {s : Text} (f : Field) (i j k : Nat) :
      Prints c ts s →
      Prints c (⟨.printBegin, i⟩ :: ⟨.name f.name, j⟩ :: ⟨.printEnd, k⟩ :: ts) (f.value c ++ s)

variable {c : Coordinates} {b : LineBreak} {n : Nat} {p : Place} {t s r : Text}

theorem untilTag_cons {a : Char} (h : opensTag (a :: t) = false) :
    untilTag (a :: t) = (a :: (untilTag t).1, (untilTag t).2) := by
  cases t with
  | nil => simp [untilTag]
  | cons b t =>
    rw [untilTag]
    all_goals
      rintro u rfl he
      obtain ⟨rfl, rfl⟩ := List.cons.inj he
      simp [opensTag] at h

/-- A skeleton is static text, or static text before a placeholder and a further skeleton. -/
theorem Fills.untilTag_eq (h : Fills c t s) :
    (untilTag t = (t, none) ∧ s = t) ∨
    ∃ run left f right rest out, left.all isGap = true ∧ right.all isGap = true ∧
      t = run ++ (placeholder left f right ++ rest) ∧ s = run ++ (f.value c ++ out) ∧
      untilTag t = (run, some (.print, inside left f right ++ rest)) ∧ Fills c rest out := by
  induction h with
  | nil => exact .inl ⟨rfl, rfl⟩
  | @static a t s ha _ ih =>
    rw [untilTag_cons ha]
    rcases ih with ⟨ht, rfl⟩ | ⟨run, left, f, right, rest, out, hl, hr, rfl, rfl, ht, ho⟩
    · exact .inl ⟨by rw [ht], rfl⟩
    · exact .inr ⟨a :: run, left, f, right, rest, out, hl, hr, rfl, rfl, by rw [ht], ho⟩
  | @value left right t s f hl hr hf _ =>
    exact .inr ⟨[], left, f, right, t, s, hl, hr, rfl, rfl, rfl, hf⟩

theorem untilTag_fst_beginning (t : Text) : (untilTag t).1 <+: t := by
  fun_induction untilTag t with
  | case1 => exact List.prefix_refl _
  | case2 | case3 | case4 => exact List.nil_prefix
  | case5 a t _ _ _ ih => exact (List.prefix_cons_inj a).2 ih

theorem opensTag_foldBreaks (t : Text) : opensTag (Text.foldBreaks t) = opensTag t := by
  fun_cases Text.foldBreaks t with
  | case1 => rfl
  | case2 s => simp [opensTag]
  | case3 a s ha =>
    by_cases hb : a = '{'
    · subst hb
      fun_cases Text.foldBreaks s with
      | case1 => rfl
      | case2 s => simp [opensTag]
      | case3 d s hd => by_cases hr : d = '\r' <;> simp [opensTag, hr]
    · have hn : (if a = '\r' then '\n' else a) ≠ '{' := by split <;> simp_all
      rw [opensTag_eq_false_of_head hb, opensTag_eq_false_of_head hn]

theorem eq_cons_of_opensTag {a : Char} (h : opensTag (a :: t) = true) :
    a = '{' ∧ ∃ x u, t = x :: u ∧ isOpenerEnd x = true := by
  unfold opensTag at h
  split at h
  · next x u he =>
    obtain ⟨rfl, rfl⟩ := List.cons.inj he
    exact ⟨rfl, x, u, rfl, h⟩
  · cases h

theorem isOpenerEnd_iff {x : Char} : isOpenerEnd x = true ↔ x = '{' ∨ x = '%' ∨ x = '#' := by
  simp [isOpenerEnd, or_assoc]

/-- Folding line breaks moves no opener. -/
theorem untilTag_foldBreaks (t : Text) : untilTag (Text.foldBreaks t) =
    (Text.foldBreaks (untilTag t).1, (untilTag t).2.map fun x => (x.1, Text.foldBreaks x.2)) := by
  fun_induction Text.foldBreaks t with
  | case1 => rfl
  | case2 s ih => simp [untilTag, Text.foldBreaks, ih]
  | case3 a s ha ih =>
    have hfold :
        Text.foldBreaks (a :: s) = (if a = '\r' then '\n' else a) :: Text.foldBreaks s := by
      rw [Text.foldBreaks]
      exact ha
    by_cases hopen : opensTag (a :: s) = true
    · obtain ⟨rfl, x, u, rfl, hx⟩ := eq_cons_of_opensTag hopen
      rcases isOpenerEnd_iff.1 hx with rfl | rfl | rfl <;> simp [Text.foldBreaks, untilTag]
    · have hclosed := Bool.eq_false_iff.2 hopen
      rw [← opensTag_foldBreaks, hfold] at hclosed
      rw [untilTag_cons hclosed, untilTag_cons (Bool.eq_false_iff.2 hopen), ih, Text.foldBreaks]
      -- the text before the opener begins as `s` does, so it brings no new `\r\n`
      intro u hr hu
      obtain ⟨v, hv⟩ := untilTag_fst_beginning s
      exact ha (u ++ v) hr (by rw [← hv, hu]; rfl)

def Place.InPrint (p : Place) : Prop := p.mode = .print ∧ p.closers = []

theorem textStep_print {t run : Text} (hp : p.mode = .text)
    (h : untilTag t = (run, some (.print, r))) (hr : signed r = (false, r)) :
    ∃ p' i, p'.InPrint ∧ step b n p t =
      (textTokens b p.line false run ++ [⟨.printBegin, i⟩], some (p', r)) := by
  refine ⟨⟨.print, [], lineAfter p.line t r, false⟩, lineAfter p.line t r, ⟨rfl, rfl⟩, ?_⟩
  rw [step, if_pos hp, textStep, h]
  simp only [hr]

theorem scan_step {ts : List Token} {p' : Place} (h : step b n p s = (ts, some (p', r)))
    (hr : r.length < s.length) : scan b n p s = ts ++ scan b n p' r := by
  have hs : s ≠ [] := by rintro rfl; exact Nat.not_lt_zero _ hr
  rw [scan, if_neg hs, h]
  simp only [hr, if_true]

theorem scan_nil : scan b n p [] = [⟨.eof, p.line⟩] := by
  rw [scan, if_pos rfl]

theorem step_blank (hp : p.InPrint) (h : printEnd? s = none)
    (hb : s.head?.any Text.isBlank = true) : ∃ p' : Place, p'.InPrint ∧
      step b n p s = ([], some (p', Text.trimLeft s)) := by
  refine ⟨{ p with line := lineAfter p.line s (Text.trimLeft s), afterDot := false }, hp, ?_⟩
  simp [step, tagStep, hp.1, hp.2, tagEnd?, h, hb]

theorem step_atom {a : Symbol} (hp : p.InPrint) (h : printEnd? s = none)
    (hb : s.head?.any Text.isBlank = false) (ha : atom? b p.afterDot s = some (a, r)) :
    ∃ p' : Place, p'.InPrint ∧ step b n p s = ([⟨a, p.line⟩], some (p', r)) := by
  refine ⟨{ p with line := lineAfter p.line s r, afterDot := false }, hp, ?_⟩
  simp [step, tagStep, hp.1, hp.2, tagEnd?, h, hb, ha]

theorem printEnd?_cons_eq_none {x : Char} (h : x ≠ '}' ∧ x ≠ '-') :
    printEnd? (x :: s) = none := by
  simp [printEnd?, h]

theorem scan_gap {g : Text} {x : Char} (hp : p.InPrint) (hg : g.all isGap = true)
    (hx : Text.isBlank x = false) :
    ∃ p' : Place, p'.InPrint ∧ scan b n p (g ++ x :: s) = scan b n p' (x :: s) := by
  cases g with
  | nil => exact ⟨p, hp, rfl⟩
  | cons y g =>
    have hblank : ∀ z ∈ y :: g, Text.isBlank z = true :=
      List.all_eq_true.1 (all_isBlank_of_isGap hg)
    have hy : y ≠ '}' ∧ y ≠ '-' := by
      rcases isGap_iff.1 (List.all_eq_true.1 hg y (by simp)) with rfl | rfl <;> decide
    have htrim : Text.trimLeft (y :: g ++ x :: s) = x :: s :=
      Text.trimLeft_append (all_isBlank_of_isGap hg) hx s
    obtain ⟨p', hp', hstep⟩ := step_blank (b := b) (n := n) hp
      (printEnd?_cons_eq_none (s := g ++ x :: s) hy) (by simp [hblank y])
    rw [← List.cons_append, htrim] at hstep
    exact ⟨p', hp', scan_step hstep (by simp only [List.length_append, List.length_cons]; omega)⟩

def endsName (x : Char) : Bool := !(Text.isWord x || Text.continuesIdentifier x)

theorem name?_append {u : Text} {x : Char} (hne : u ≠ []) (hu : u.all (!endsName ·) = true)
    (hx : endsName x = true) : name? (u ++ x :: s) = some (u, x :: s) := by
  have htake : (u ++ x :: s).takeWhile (fun c => Text.isWord c || Text.continuesIdentifier c) = u :=
    Text.takeWhile_run (by simpa [endsName] using hu) (by simpa [endsName] using hx) s
  unfold name?
  rw [htake]
  cases u with
  | nil => exact absurd rfl hne
  | cons y u => simp

theorem atom?_fieldName {x : Char} (f : Field) (afterDot : Bool) (hx : endsName x = true) :
    atom? b afterDot (f.name ++ x :: s) = some (.name f.name, x :: s) := by
  have hname : name? (f.name ++ x :: s) = some (f.name, x :: s) :=
    name?_append (by cases f <;> decide) (by cases f <;> decide) hx
  have hid : Text.isIdentifier f.name = true := by cases f <;> decide
  have hdigits : digits? (f.name ++ x :: s) = none := by cases f <;> rfl
  have hfloat : float? (f.name ++ x :: s) = none := by rw [float?, hdigits]
  have hint : integer? (f.name ++ x :: s) = none := by cases f <;> rfl
  simp [atom?, hname, hid, hfloat, hint]

theorem scan_name {x : Char} (f : Field) (hp : p.InPrint) (hx : endsName x = true) :
    ∃ p' : Place, p'.InPrint ∧ scan b n p (f.name ++ x :: s) =
      ⟨.name f.name, p.line⟩ :: scan b n p' (x :: s) := by
  have hend : printEnd? (f.name ++ x :: s) = none := by cases f <;> rfl
  have hblank : (f.name ++ x :: s).head?.any Text.isBlank = false := by cases f <;> rfl
  obtain ⟨p', hp', hstep⟩ := step_atom (n := n) hp hend hblank
    (atom?_fieldName f p.afterDot hx)
  have hpos : 0 < f.name.length := by cases f <;> decide
  exact ⟨p', hp', scan_step hstep (by rw [List.length_append]; omega)⟩

theorem scan_printEnd (hp : p.InPrint) : ∃ p' : Place, p'.mode = .text ∧
    scan b n p ('}' :: '}' :: s) = ⟨.printEnd, p.line⟩ :: scan b n p' s := by
  have hstep : step b n p ('}' :: '}' :: s) = ([⟨.printEnd, p.line⟩],
      some (⟨.text, [], lineAfter p.line ('}' :: '}' :: s) s, false⟩, s)) := by
    rw [step, tagStep, hp.1]
    simp [hp.2, tagEnd?, printEnd?]
  exact ⟨_, rfl, scan_step hstep (by simp only [List.length_cons]; omega)⟩

/-- A gap ends where a name or the closing braces begin. -/
theorem scan_inside {left right : Text} (f : Field) (hp : p.InPrint) (hl : left.all isGap = true)
    (hr : right.all isGap = true) : ∃ p' i j, p'.mode = .text ∧
      scan b n p (inside left f right ++ s) =
        ⟨.name f.name, i⟩ :: ⟨.printEnd, j⟩ :: scan b n p' s := by
  obtain ⟨x, u, hu, hx⟩ : ∃ x u, f.name = x :: u ∧ Text.isBlank x = false := by
    cases f <;> exact ⟨_, _, rfl, by decide⟩
  obtain ⟨p₁, hp₁, h₁⟩ := scan_gap (b := b) (n := n)
    (s := u ++ (right ++ '}' :: '}' :: s)) hp hl hx
  obtain ⟨y, r, hy, hend⟩ : ∃ y r, right ++ '}' :: '}' :: s = y :: r ∧ endsName y = true := by
    cases right with
    | nil => exact ⟨_, _, rfl, by decide⟩
    | cons y r =>
      refine ⟨y, _, rfl, ?_⟩
      rcases isGap_iff.1 (List.all_eq_true.1 hr y (by simp)) with rfl | rfl <;> decide
  obtain ⟨p₂, hp₂, h₂⟩ := scan_name (b := b) (n := n) (s := r) f hp₁ hend
  obtain ⟨p₃, hp₃, h₃⟩ := scan_gap (b := b) (n := n) (s := '}' :: s) hp₂ hr
    (by decide : Text.isBlank '}' = false)
  obtain ⟨p₄, hp₄, h₄⟩ := scan_printEnd (b := b) (n := n) (s := s) hp₃
  refine ⟨p₄, p₁.line, p₃.line, hp₄, ?_⟩
  calc
    scan b n p (inside left f right ++ s)
        = scan b n p (left ++ x :: (u ++ (right ++ '}' :: '}' :: s))) := by
          simp [inside, hu]
    _ = scan b n p₁ (f.name ++ (right ++ '}' :: '}' :: s)) := by rw [h₁, hu]; rfl
    _ = ⟨.name f.name, p₁.line⟩ :: scan b n p₂ (right ++ '}' :: '}' :: s) := by rw [hy, h₂]
    _ = ⟨.name f.name, p₁.line⟩ :: ⟨.printEnd, p₃.line⟩ :: scan b n p₄ s := by rw [h₃, h₄]

theorem Prints.textTokens {ts : List Token} {u : Text} (h : Prints c ts s)
    (hb : ∀ x ∈ Text.breaks u, x = b) (line : Nat) :
    Prints c (textTokens b line false (Text.foldBreaks u) ++ ts) (u ++ s) := by
  have hu := Text.unfold_foldBreaks hb
  by_cases he : Text.foldBreaks u = []
  · rw [he] at hu ⊢
    rw [← hu]
    exact h
  · simpa [Template.textTokens, he, hu] using Prints.text u line h

theorem signed_inside {left right : Text} (f : Field) (hl : left.all isGap = true)
    (hr : right.all isGap = true) (r : Text) :
    signed (inside left f right ++ r) = (false, inside left f right ++ r) := by
  obtain ⟨x, i, hi⟩ := List.exists_cons_of_ne_nil (inside_ne_nil left f right)
  have hx : (x != '-' && x != '+') = true :=
    forall_mem_inside (f := f) (p := fun x => x != '-' && x != '+') hl hr (by decide)
      (by cases f <;> decide) x (by simp [hi])
  simp only [Bool.and_eq_true, bne_iff_ne] at hx
  rw [hi]
  simp [signed, hx]

theorem unbroken_placeholder {left right : Text} (f : Field) (hl : left.all isGap = true)
    (hr : right.all isGap = true) : ∀ x ∈ placeholder left f right, x ≠ '\r' ∧ x ≠ '\n' := by
  have hi := forall_mem_inside (f := f) (p := fun x => x != '\r' && x != '\n') hl hr (by decide)
    (by cases f <;> decide)
  intro x hx
  rcases List.mem_cons.1 hx with rfl | hx
  · decide
  · rcases List.mem_cons.1 hx with rfl | hx
    · decide
    · simpa using hi x hx

theorem foldBreaks_placeholder {left right : Text} (f : Field) (hl : left.all isGap = true)
    (hr : right.all isGap = true) (run rest : Text) :
    Text.foldBreaks (run ++ (placeholder left f right ++ rest)) =
      Text.foldBreaks run ++ (placeholder left f right ++ Text.foldBreaks rest) := by
  have hopen := Text.foldBreaks_append (by decide : '{' ≠ '\n') run
    ('{' :: (inside left f right ++ rest))
  have hfold := Text.foldBreaks_append_of_unbroken (unbroken_placeholder f hl hr) rest
  rw [← hfold]
  exact hopen

theorem breaks_placeholder {left right : Text} (f : Field) (hl : left.all isGap = true)
    (hr : right.all isGap = true) (run rest : Text) :
    Text.breaks (run ++ (placeholder left f right ++ rest)) =
      Text.breaks run ++ Text.breaks rest := by
  have hopen := Text.breaks_append (by decide : '{' ≠ '\n') run
    ('{' :: (inside left f right ++ rest))
  rw [← Text.breaks_append_of_unbroken (unbroken_placeholder f hl hr) rest]
  exact hopen

/-- The tokens of a skeleton make the text that it stands for. -/
theorem prints_scan {p : Place} {t s : Text} (ht : Fills c t s) (hb : ∀ x ∈ Text.breaks t, x = b)
    (hp : p.mode = .text) : Prints c (scan b n p (Text.foldBreaks t)) s := by
  have huntil := untilTag_foldBreaks t
  rcases ht.untilTag_eq with
    ⟨hend, rfl⟩ | ⟨run, left, f, right, rest, out, hl, hr, he, rfl, hrun, ho⟩
  · rw [hend] at huntil
    by_cases hnil : Text.foldBreaks s = []
    · have hs := Text.unfold_foldBreaks hb
      rw [hnil] at hs ⊢
      rw [← hs, scan_nil]
      exact .eof p.line
    · have hstep : step b n p (Text.foldBreaks s) =
          (textTokens b p.line false (Text.foldBreaks s), some (p, [])) := by
        rw [step, if_pos hp, textStep, huntil]
        rfl
      rw [scan_step hstep (List.length_pos_iff.2 hnil), scan_nil]
      have h := (Prints.eof (c := c) p.line).textTokens hb p.line
      rwa [List.append_nil] at h
  · have hlt : rest.length < t.length := by
      rw [he]
      simp only [List.length_append, placeholder, List.length_cons]
      omega
    have hfold := foldBreaks_placeholder f hl hr run rest
    rw [he, breaks_placeholder f hl hr] at hb
    have hin : Text.foldBreaks (inside left f right ++ rest) =
        inside left f right ++ Text.foldBreaks rest := by
      refine Text.foldBreaks_append_of_unbroken (fun x hx => ?_) rest
      exact unbroken_placeholder f hl hr x (List.mem_cons_of_mem _ (List.mem_cons_of_mem _ hx))
    rw [hrun, Option.map_some, hin] at huntil
    obtain ⟨p₁, i, hp₁, hstep⟩ := textStep_print (b := b) (n := n) hp huntil
      (signed_inside f hl hr _)
    obtain ⟨p₂, j, k, hp₂, hscan⟩ := scan_inside (b := b) (n := n) (s := Text.foldBreaks rest)
      f hp₁ hl hr
    have hrest := prints_scan ho (fun x hx => hb x (List.mem_append_right _ hx)) hp₂
    have hshort : (inside left f right ++ Text.foldBreaks rest).length <
        (Text.foldBreaks t).length := by
      rw [he, hfold]
      simp [placeholder]
      omega
    rw [scan_step hstep hshort, hscan, List.append_assoc]
    exact (Prints.value f i j k hrest).textTokens
      (fun x hx => hb x (List.mem_append_left _ hx)) p.line
  termination_by t.length

end CrateScaffold.Template
