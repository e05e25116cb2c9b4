import CrateScaffold.Text.Lines

/-!
The line breaks of a text, as a list. Folding them to line feeds and writing the line feeds as the
detected break gives the text back just where they are all the same.
-/

namespace CrateScaffold.Text

def breaks : Text → List LineBreak
  | [] => []
  | '\r' :: '\n' :: s => .crlf :: breaks s
  | c :: s => (if c = '\r' then [.cr] else if c = '\n' then [.lf] else []) ++ breaks s

def UniformBreaks (s : Text) : Prop := ∃ b, ∀ x ∈ breaks s, x = b

theorem breaks_append {c : Char} (hc : c ≠ '\n') (s r : Text) :
    breaks (s ++ c :: r) = breaks s ++ breaks (c :: r) := by
  fun_induction breaks s with
  | case1 => rfl
  | case2 s ih => simp [breaks, ih]
  | case3 d s hd ih =>
    cases s with
    | nil => simp_all [breaks]
    | cons e s => simp_all [breaks]

theorem foldBreaks_append {c : Char} (hc : c ≠ '\n') (s r : Text) :
    foldBreaks (s ++ c :: r) = foldBreaks s ++ foldBreaks (c :: r) := by
  fun_induction foldBreaks s with
  | case1 => rfl
  | case2 s ih => simp [foldBreaks, ih]
  | case3 d s hd ih =>
    cases s with
    | nil => simp_all [foldBreaks]
    | cons e s => simp_all [foldBreaks]

theorem foldBreaks_cons {c : Char} (hc : c ≠ '\r') (s : Text) :
    foldBreaks (c :: s) = c :: foldBreaks s := by
  simp [foldBreaks, hc]

theorem foldBreaks_append_of_unbroken {s : Text} (h : ∀ c ∈ s, c ≠ '\r' ∧ c ≠ '\n') (r : Text) :
    foldBreaks (s ++ r) = s ++ foldBreaks r := by
  induction s with
  | nil => rfl
  | cons c s ih =>
    have hc := h c (List.mem_cons_self ..)
    rw [List.cons_append, foldBreaks_cons hc.1, ih fun x hx => h x (List.mem_cons_of_mem c hx)]
    rfl

theorem breaks_append_of_unbroken {s : Text} (h : ∀ c ∈ s, c ≠ '\r' ∧ c ≠ '\n') (r : Text) :
    breaks (s ++ r) = breaks r := by
  induction s with
  | nil => rfl
  | cons c s ih =>
    have hc := h c (List.mem_cons_self ..)
    rw [List.cons_append, breaks, ih fun x hx => h x (List.mem_cons_of_mem c hx)]
    · simp [hc.1, hc.2]
    · rintro _ rfl; exact absurd rfl hc.1

theorem mem_cr_iff (s : Text) : '\r' ∈ s ↔ .cr ∈ breaks s ∨ .crlf ∈ breaks s := by
  fun_induction breaks s with
  | case1 => simp
  | case2 s ih => simp
  | case3 c s hc ih =>
    by_cases h : c = '\r'
    · simp [h]
    · have h' : '\r' ≠ c := fun e => h e.symm
      split <;> simp_all

theorem contains_crlf_iff (s : Text) : contains s ['\r', '\n'] = true ↔ .crlf ∈ breaks s := by
  fun_induction breaks s with
  | case1 => simp [contains, cut?]
  | case2 s ih => simp [contains, cut?, after?]
  | case3 c s hc ih =>
    have ha : after? ['\r', '\n'] (c :: s) = none := by
      rw [Option.eq_none_iff_forall_ne_some]
      intro r hr
      obtain ⟨rfl, rfl⟩ := List.cons.inj (eq_append_of_after? hr)
      exact hc r rfl rfl
    have hs : contains (c :: s) ['\r', '\n'] = contains s ['\r', '\n'] := by
      simp [contains, cut?, ha]
    rw [hs, ih]
    by_cases hr : c = '\r'
    · simp [hr]
    · by_cases hn : c = '\n' <;> simp [hr, hn]

/-- A uniform text is written with the break that is detected in it. -/
theorem UniformBreaks.eq_detect {s : Text} (h : UniformBreaks s) :
    ∀ x ∈ breaks s, x = LineBreak.detect s := by
  intro x hx
  obtain ⟨b, hb⟩ := h
  have hxb := hb x hx
  subst hxb
  have hne {y : LineBreak} (hy : x ≠ y) : y ∉ breaks s := fun hm => hy (hb y hm).symm
  unfold LineBreak.detect
  cases x with
  | lf => rw [if_neg]; simp [mem_cr_iff, hne]
  | cr => rw [if_pos ((mem_cr_iff s).2 (.inl hx)), if_neg]; simp [contains_crlf_iff, hne]
  | crlf => rw [if_pos ((mem_cr_iff s).2 (.inr hx)), if_pos ((contains_crlf_iff s).2 hx)]

theorem unfold_cons (b : LineBreak) (c : Char) (s : Text) :
    b.unfold (c :: s) = (if c = '\n' then b.text else [c]) ++ b.unfold s := rfl

theorem unfold_foldBreaks {b : LineBreak} {s : Text} (h : ∀ x ∈ breaks s, x = b) :
    b.unfold (foldBreaks s) = s := by
  fun_induction foldBreaks s with
  | case1 => rfl
  | case2 s ih =>
    have hb : LineBreak.crlf = b := h .crlf (by simp [breaks])
    have hs := ih fun x hx => h x (by simp [breaks, hx])
    rw [unfold_cons, if_pos rfl, hs, ← hb]
    rfl
  | case3 c s hc ih =>
    rw [breaks] at h
    · have hs := ih fun x hx => h x (List.mem_append_right _ hx)
      rw [unfold_cons, hs]
      by_cases hr : c = '\r'
      · have hb : LineBreak.cr = b := h .cr (by simp [hr])
        simp [hr, ← hb, LineBreak.text]
      · by_cases hn : c = '\n'
        · have hb : LineBreak.lf = b := h .lf (by simp [hn])
          simp [hn, ← hb, LineBreak.text]
        · simp [hr, hn]
    · exact hc

theorem lf_not_mem_unfold_cr (s : Text) : '\n' ∉ LineBreak.cr.unfold s := by
  intro h
  obtain ⟨c, -, hc⟩ := List.mem_flatMap.1 h
  split at hc
  · exact absurd hc (by decide)
  · next hne => exact hne (List.mem_singleton.1 hc).symm

/-- What is written with one break all over has no other. -/
theorem eq_of_unfold_foldBreaks {b : LineBreak} {s : Text} (h : b.unfold (foldBreaks s) = s) :
    ∀ x ∈ breaks s, x = b := by
  fun_induction foldBreaks s with
  | case1 => simp [breaks]
  | case2 s ih =>
    rw [unfold_cons, if_pos rfl] at h
    cases b with
    | lf => simp [LineBreak.text] at h
    | cr =>
      have htail : LineBreak.cr.unfold (foldBreaks s) = '\n' :: s := (List.cons.inj h).2
      exact absurd (by rw [htail]; exact List.mem_cons_self) (lf_not_mem_unfold_cr (foldBreaks s))
    | crlf =>
      have hpieces : ['\r', '\n'] ++ LineBreak.crlf.unfold (foldBreaks s) = ['\r', '\n'] ++ s := h
      rw [breaks, List.forall_mem_cons]
      exact ⟨rfl, ih (List.append_cancel_left hpieces)⟩
  | case3 c s hc ih =>
    rw [unfold_cons] at h
    rw [breaks, List.forall_mem_append]
    · by_cases hr : c = '\r'
      · subst hr
        rw [if_pos rfl, if_pos rfl] at h
        cases b with
        | lf => simp [LineBreak.text] at h
        | cr => exact ⟨by simp, ih (List.cons.inj h).2⟩
        | crlf => exact absurd (List.cons.inj h).2.symm (hc _ rfl)
      · rw [if_neg hr] at h
        by_cases hn : c = '\n'
        · subst hn
          rw [if_pos rfl] at h
          cases b with
          | lf => exact ⟨by simp, ih (List.cons.inj h).2⟩
          | cr => simp [LineBreak.text] at h
          | crlf => simp [LineBreak.text] at h
        · rw [if_neg hn] at h
          exact ⟨by simp [hr, hn], ih (List.cons.inj h).2⟩
    · exact hc

theorem uniformBreaks_iff {s : Text} :
    UniformBreaks s ↔ (LineBreak.detect s).unfold (foldBreaks s) = s :=
  ⟨fun h => unfold_foldBreaks h.eq_detect, fun h => ⟨_, eq_of_unfold_foldBreaks h⟩⟩

end CrateScaffold.Text
