import CrateScaffold.Console.Table
import CrateScaffold.Proofs.Console.Layout

/-!
Which tables of bindings can be shown. All cells are taken for markup, but a text without brackets
opens and closes nothing, wherever it stands; so only the packages can keep a table from being
shown. Where the columns have room for more than their blanks, the markup of each package has to be
right; a style that cannot be shown does no harm where nothing of its text stays.
-/

namespace CrateScaffold.Console

variable {literals : Literals} {opened : List Tag} {s u v r tag : Text} {c : Char}
variable {n position length columns room : Nat} {ps : List Part}

def HasNoBrackets (s : Text) : Prop := '[' ∉ s ∧ ']' ∉ s

theorem HasNoBrackets.of_suffix (hv : HasNoBrackets v) (hu : u <:+ v) : HasNoBrackets u :=
  ⟨fun hm => hv.1 (hu.subset hm), fun hm => hv.2 (hu.subset hm)⟩

theorem tag?_of_hasNoBrackets (hv : HasNoBrackets v) : tag? v = none := by
  unfold tag?
  split
  · exact absurd List.mem_cons_self hv.1
  · rfl

theorem HasNoBrackets.closesNothing (hv : HasNoBrackets v) : ClosesNothing v := by
  have hdrop : (v.dropWhile fun d => d != '[' && d != ']') = [] := by
    refine List.dropWhile_eq_nil_iff.2 fun d hd => ?_
    have hopen : d ≠ '[' := fun he => hv.1 (he ▸ hd)
    have hclose : d ≠ ']' := fun he => hv.2 (he ▸ hd)
    simp [hopen, hclose]
  simp [ClosesNothing, hdrop]

/-- Without brackets nothing ends a tag that was opened before. -/
theorem escapedTag?_append_of_hasNoBrackets (hv : HasNoBrackets v) (u : Text) :
    escapedTag? (u ++ v) = (escapedTag? u).map fun x => (x.1, x.2.1, x.2.2 ++ v) := by
  by_cases hrest : u.dropWhile (· == '\\') = []
  · have hslashes : (u ++ v).dropWhile (· == '\\') = v.dropWhile (· == '\\') := by
      rw [List.dropWhile_append, hrest]
      rfl
    unfold escapedTag?
    rw [hslashes, tag?_of_hasNoBrackets (hv.of_suffix (List.dropWhile_suffix _)), hrest]
    rfl
  · exact escapedTag?_append hrest hv.closesNothing

theorem partsFrom_of_hasNoBrackets (position : Nat) (hv : HasNoBrackets v) :
    partsFrom position v = [.plain v] := by
  induction v generalizing position with
  | nil => rw [partsFrom]
  | cons c v ih =>
    have hrest : HasNoBrackets v := hv.of_suffix (List.suffix_cons c v)
    have hnone : escapedTag? (c :: v) = none := escapedTag?_append_of_hasNoBrackets hv []
    have hhead : v.head? ≠ some '[' := fun h => hrest.1 (List.mem_of_mem_head? h)
    rw [partsFrom_of_none hnone, if_neg fun h => hhead h.2, ih (position + 1) hrest]
    rfl

/-- A text without brackets only makes the last part longer. -/
theorem exists_partsFrom_append (position : Nat) (s : Text) :
    ∃ ps u, ∀ v, HasNoBrackets v → partsFrom position (s ++ v) = ps ++ [.plain (u ++ v)] := by
  induction hk : s.length using Nat.strong_induction_on generalizing s position with
  | _ k ih =>
    subst hk
    cases s with
    | nil => exact ⟨[], [], fun v hv => partsFrom_of_hasNoBrackets position hv⟩
    | cons c s =>
      cases htag : escapedTag? (c :: s) with
      | some x =>
        obtain ⟨n, tag, r⟩ := x
        obtain ⟨ps, u, hps⟩ :=
          ih r.length (length_lt_of_escapedTag? htag) (position + n + tag.length + 2) r rfl
        refine ⟨.plain [] :: .plain (List.replicate (n / 2) '\\') ::
          (if n % 2 = 1 then .plain ('[' :: tag ++ [']']) else .tag (position + n) tag) :: ps, u,
          fun v hv => ?_⟩
        have hcat := escapedTag?_append_of_hasNoBrackets hv (c :: s)
        rw [htag, List.cons_append] at hcat
        rw [List.cons_append, partsFrom_of_tag hcat, hps v hv]
        rfl
      | none =>
        obtain ⟨ps, u, hps⟩ := ih s.length (Nat.lt_succ_self _) (position + 1) s rfl
        have hcat : ∀ v, HasNoBrackets v → partsFrom position (c :: s ++ v) =
            if c = '\\' ∧ s.head? = some '[' then ps ++ [.plain (u ++ v)]
            else push c (ps ++ [.plain (u ++ v)]) := by
          intro v hv
          have hnone := escapedTag?_append_of_hasNoBrackets hv (c :: s)
          rw [htag, List.cons_append] at hnone
          have hhead : (s ++ v).head? = some '[' ↔ s.head? = some '[' := by
            cases s with
            | nil => simpa using fun hbracket => hv.1 (List.mem_of_mem_head? hbracket)
            | cons d s => rfl
          rw [List.cons_append, partsFrom_of_none hnone, hps v hv]
          simp only [hhead]
        -- The character goes, or joins the first part, which may be the last one too.
        by_cases hc : c = '\\' ∧ s.head? = some '['
        · exact ⟨ps, u, fun v hv => (hcat v hv).trans (if_pos hc)⟩
        · rcases ps with _ | ⟨w | ⟨m, w⟩, ps⟩
          · exact ⟨[], c :: u, fun v hv => (hcat v hv).trans (if_neg hc)⟩
          · exact ⟨.plain (c :: w) :: ps, u, fun v hv => (hcat v hv).trans (if_neg hc)⟩
          · exact ⟨.plain [c] :: .tag m w :: ps, u, fun v hv => (hcat v hv).trans (if_neg hc)⟩

theorem span_eq_nil_iff {t : Tag} {stop stop' : Nat} : t.span stop = [] ↔ t.span stop' = [] := by
  unfold Tag.span
  split <;> simp

def shows (literals : Literals) (s : Text) : Except Fault Bool :=
  (styled literals s).map (·.spans.isEmpty)

theorem showsFrom_concat (ps : List Part) (u v : Text) :
    (styledFrom literals length opened (ps ++ [.plain u])).map (·.spans.isEmpty) =
      (styledFrom literals length opened (ps ++ [.plain v])).map (·.spans.isEmpty) := by
  induction ps generalizing length opened with
  | nil =>
    have hspans : ∀ stop stop', (opened.flatMap (·.span stop)).isEmpty =
        (opened.flatMap (·.span stop')).isEmpty := by
      intro stop stop'
      rw [Bool.eq_iff_iff, List.isEmpty_iff, List.isEmpty_iff, List.flatMap_eq_nil_iff,
        List.flatMap_eq_nil_iff]
      exact forall₂_congr fun t _ => span_eq_nil_iff
    exact congrArg Except.ok (hspans _ _)
  | cons p ps ih =>
    cases p with
    | plain s =>
      have hplain : ∀ x : Except Fault Styled,
          (x.map fun t => { t with text := shown s ++ t.text }).map (·.spans.isEmpty) =
            x.map (·.spans.isEmpty) := fun x => by cases x <;> rfl
      simp only [List.cons_append, styledFrom, hplain]
      exact ih
    | tag position s =>
      simp only [List.cons_append, styledFrom]
      split
      · rfl
      · next opened spans _ =>
        have htag : ∀ x : Except Fault Styled,
            (x.map fun t => { t with spans := spans ++ t.spans }).map (·.spans.isEmpty) =
              (x.map (·.spans.isEmpty)).map (spans.isEmpty && ·) :=
          fun x => by cases x <;> cases spans <;> rfl
        rw [htag, htag, ih]

theorem shows_eq (literals : Literals) (s : Text) :
    shows literals s =
      (styledFrom literals 0 [] (partsFrom 0 s)).map (·.spans.isEmpty) := by
  unfold shows styled
  cases styledFrom literals 0 [] (partsFrom 0 s) with
  | error f => rfl
  | ok x =>
    have hempty : (x.spans.reverse.mergeSort fun x y => x.start ≤ y.start).isEmpty =
        x.spans.isEmpty := by
      rw [Bool.eq_iff_iff, List.isEmpty_iff, List.isEmpty_iff, ← List.length_eq_zero_iff,
        List.length_mergeSort, List.length_reverse, List.length_eq_zero_iff]
    exact congrArg Except.ok hempty

theorem shows_append (hv : HasNoBrackets v) (s : Text) :
    shows literals (s ++ v) = shows literals s := by
  obtain ⟨ps, u, hps⟩ := exists_partsFrom_append 0 s
  have hs := hps [] ⟨nofun, nofun⟩
  rw [List.append_nil] at hs
  rw [shows_eq, shows_eq, hps v hv, hs, showsFrom_concat]

theorem shows_of_hasNoBrackets (hv : HasNoBrackets v) : shows literals v = .ok true := by
  refine (shows_append hv []).trans ?_
  rw [shows_eq, partsFrom]
  rfl

theorem isOk_shows (literals : Literals) (s : Text) :
    (shows literals s).isOk = (styled literals s).isOk := isOk_map _ _

theorem shows_eq_ok_true : shows literals s = .ok true ↔
    ∃ x, styled literals s = .ok x ∧ x.spans = [] := by
  unfold shows
  cases styled literals s <;> simp [Except.map]

section Widths

theorem isOk_cellWidth : (cellWidth literals room s).isOk = true ↔
    room < 3 ∨ (styled literals s).isOk = true := by
  unfold cellWidth
  split
  · next h => exact iff_of_true rfl (.inl h)
  · next h => rw [isOk_map, or_iff_right h]

theorem isOk_columnWidth {cells : List Text} : (columnWidth literals room cells).isOk = true ↔
    room < 3 ∨ ∀ s ∈ cells, (styled literals s).isOk = true := by
  rw [columnWidth, isOk_map, isOk_mapM]
  simp only [isOk_cellWidth]
  by_cases h : room < 3
  · simp [h]
  · simp [h]

theorem foldl_max_le {m : Nat} {ws : List Nat} (h : ∀ w ∈ ws, w ≤ m) {n : Nat} (hn : n ≤ m) :
    ws.foldl max n ≤ m := by
  induction ws generalizing n with
  | nil => exact hn
  | cons w ws ih =>
    obtain ⟨hw, hws⟩ := List.forall_mem_cons.1 h
    exact ih hws (max_le hn hw)

theorem cellWidth_le {w : Nat} (h : cellWidth literals room s = .ok w) : w ≤ room := by
  unfold cellWidth at h
  split at h
  · exact (Except.ok.inj h).ge
  · obtain ⟨t, -, rfl⟩ := exists_of_map_eq_ok h
    exact Nat.min_le_right _ _

theorem columnWidth_le {cells : List Text} {w : Nat}
    (h : columnWidth literals room cells = .ok w) : w ≤ room := by
  obtain ⟨ws, hws, rfl⟩ := exists_of_map_eq_ok h
  refine foldl_max_le (fun w hw => ?_) (Nat.zero_le room)
  obtain ⟨s, -, hs⟩ := exists_of_mapM_eq_ok hws hw
  exact cellWidth_le hs

theorem le_of_mem_narrowEvenly {m top most excess count : Nat} {ws : List Nat}
    (h : ∀ w ∈ ws, w ≤ m) : ∀ w ∈ narrowEvenly top most excess count ws, w ≤ m := by
  fun_induction narrowEvenly top most excess count ws with
  | case1 => exact h
  | case2 excess count w ws _ taken ih =>
    obtain ⟨hw, hws⟩ := List.forall_mem_cons.1 h
    exact List.forall_mem_cons.2 ⟨(Nat.sub_le _ _).trans hw, ih hws⟩
  | case3 excess count w ws _ ih =>
    obtain ⟨hw, hws⟩ := List.forall_mem_cons.1 h
    exact List.forall_mem_cons.2 ⟨hw, ih hws⟩

theorem le_of_mem_narrow {m : Nat} {ws : List Nat} (h : ∀ w ∈ ws, w ≤ m) :
    ∀ w ∈ narrow room ws, w ≤ m := by
  fun_induction narrow room ws with
  | case1 ws _ _ ih => exact ih (le_of_mem_narrowEvenly h)
  | case2 => exact h

end Widths

/-- A cell can be shown when all its styles can, and where only its blanks have room. -/
theorem isOk_cellLines (h : columns < 3 ∨ shows literals s = .ok true) :
    (cellLines literals columns s).isOk = true := by
  unfold cellLines
  split
  · rfl
  · next hroom =>
    obtain ⟨x, hx, hspans⟩ := shows_eq_ok_true.1 (h.resolve_left hroom)
    have hlines : ∀ l ∈ (x.wrap (columns - 2) false).map (Styled.elide (columns - 2)),
        l.spans = [] := by
      intro l hl
      obtain ⟨y, hy, rfl⟩ := List.mem_map.1 hl
      exact Styled.spans_elide (Styled.spans_of_mem_wrap hspans hy) _
    rw [hx, ok_bind, texts_of_spans hlines]
    rfl

theorem isOk_row (bar : Char) (atFoot : Bool) {widths : List Nat} {cells : List Text}
    (h : ∀ c ∈ List.zip widths cells, c.1 < 3 ∨ shows literals c.2 = .ok true) :
    (row literals bar atFoot widths cells).isOk = true := by
  rw [row, isOk_map, isOk_mapM]
  exact fun c hc => isOk_cellLines (h c hc)

theorem isOk_boxLines {widths : List Nat} {headings : List Text} {rows : List (List Text)}
    (h : ∀ r ∈ headings :: rows, ∀ c ∈ List.zip widths r,
      c.1 < 3 ∨ shows literals c.2 = .ok true) :
    (boxLines literals widths headings rows).isOk = true := by
  obtain ⟨hhead, hrows⟩ := List.forall_mem_cons.1 h
  obtain ⟨head, hhead⟩ := isOk_iff.1 (isOk_row '┃' true hhead)
  obtain ⟨body, hbody⟩ := isOk_iff.1 (isOk_mapM.2 fun r hr =>
    isOk_row '│' false (hrows r hr))
  rw [boxLines, hhead, ok_bind, hbody]
  rfl

variable {title : Text} {headings : List Text} {rows : List (List Text)}

theorem shows_getD {r : List Text} (h : ∀ s ∈ r, shows literals s = .ok true) (i : Nat) :
    shows literals ((r[i]?).getD []) = .ok true := by
  cases hi : r[i]? with
  | none => exact shows_of_hasNoBrackets ⟨nofun, nofun⟩
  | some s => exact h s (List.mem_of_getElem? hi)

/-- A table can be shown when its cells can, and when its columns have no room for more than their
blanks. -/
theorem isOk_table (h : columns < headings.length + 4 ∨
    ∀ r ∈ headings :: rows, ∀ s ∈ r, shows literals s = .ok true) :
    (table literals columns title headings rows).isOk = true := by
  have hwidth : ∀ i : Nat, (columnWidth literals (columns - (headings.length + 1))
      ((headings :: rows).map fun r => (r[i]?).getD [])).isOk = true := by
    intro i
    rw [isOk_columnWidth]
    refine h.imp (fun hroom => by omega) fun hshows => ?_
    rintro _ hs
    obtain ⟨r, hr, rfl⟩ := List.mem_map.1 hs
    rw [← isOk_shows, shows_getD (hshows r hr)]
    rfl
  unfold table
  split
  · rfl
  obtain ⟨widths, hwidths⟩ := isOk_iff.1 (isOk_mapM.2 (List.forall_mem_map.2
    fun i (_ : i ∈ List.range headings.length) => hwidth i))
  have hle : ∀ w ∈ narrow (columns - (headings.length + 1)) widths,
      w ≤ columns - (headings.length + 1) := by
    refine le_of_mem_narrow fun w hw => ?_
    obtain ⟨cells, -, hcells⟩ := exists_of_mapM_eq_ok hwidths hw
    exact columnWidth_le hcells
  have hbox : (boxLines literals (narrow (columns - (headings.length + 1)) widths) headings
      rows).isOk = true := isOk_boxLines fun r hr c hc => by
      obtain ⟨hw, hs⟩ := List.of_mem_zip hc
      refine h.imp (fun hroom => ?_) fun hshows => hshows r hr c.2 hs
      have hcell := hle c.1 hw
      omega
  obtain ⟨box, hbox⟩ := isOk_iff.1 hbox
  exact isOk_bind.2 ⟨widths, hwidths, isOk_bind.2 ⟨box, hbox, rfl⟩⟩

/-- With room for more than their blanks, all cells of a table that can be shown are markup. -/
theorem isOk_of_isOk_table (hroom : headings.length + 4 ≤ columns)
    (h : (table literals columns title headings rows).isOk = true) {r : List Text} (hr : r ∈ rows)
    {i : Nat} (hi : i < headings.length) (hs : r[i]? = some s) :
    (styled literals s).isOk = true := by
  unfold table at h
  rw [if_neg (by omega)] at h
  obtain ⟨widths, hwidths, -⟩ := isOk_bind.1 h
  have hcolumn := isOk_mapM.1 (isOk_iff.2 ⟨widths, hwidths⟩) _
    (List.mem_map_of_mem (List.mem_range.2 hi))
  refine (isOk_columnWidth.1 hcolumn).resolve_left (by omega) s ?_
  exact List.mem_map.2 ⟨r, List.mem_cons_of_mem _ hr, by rw [hs]; rfl⟩

variable {bs : List Binding}

theorem isOk_bindingTable_of_narrow (h : columns < 7) :
    (bindingTable literals columns bs).isOk = true :=
  isOk_table (.inl h)

theorem isOk_bindingTable_of_shows (htypes : ∀ b ∈ bs, HasNoBrackets b.type)
    (h : ∀ b ∈ bs, shows literals b.package = .ok true) :
    (bindingTable literals columns bs).isOk = true := by
  refine isOk_table (.inr (List.forall_mem_cons.2 ⟨?_, List.forall_mem_map.2 fun b hb => ?_⟩))
  · have hheading : ∀ s ∈ (["Rust type", "Package", "JVM class"] : List Text),
        '[' ∉ s ∧ ']' ∉ s := by decide
    exact fun s hs => shows_of_hasNoBrackets (hheading s hs)
  · have hsuffix : HasNoBrackets ('.' :: b.type) :=
      ⟨by simpa using (htypes b hb).1, by simpa using (htypes b hb).2⟩
    simp only [bindingRow, List.forall_mem_cons]
    refine ⟨shows_of_hasNoBrackets (htypes b hb), h b hb, ?_,
      fun s hs => absurd hs List.not_mem_nil⟩
    rw [Binding.qualifiedName, shows_append hsuffix, h b hb]

theorem isOk_of_isOk_bindingTable (hcolumns : 7 ≤ columns)
    (h : (bindingTable literals columns bs).isOk = true) :
    ∀ b ∈ bs, (styled literals b.package).isOk = true := fun b hb =>
  isOk_of_isOk_table (i := 1) hcolumns h (List.mem_map_of_mem hb) (by decide) rfl

end CrateScaffold.Console
