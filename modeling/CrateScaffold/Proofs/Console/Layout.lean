import CrateScaffold.Proofs.Console.Markup
import CrateScaffold.Proofs.FileTree.PathText

/-!
Where the characters of a text end up when it is laid out. Breaking a line and folding a word take
nothing away; tabs, stripping and cropping only take characters away and add blanks. So what a
layout shows is in its text, a line of it never is too wide, and lines that fit are left alone.
-/

namespace CrateScaffold

namespace Text

theorem flatten_splitOn (sep : Char) (s : Text) :
    (splitOn sep s).flatten = s.filter (· != sep) := by
  induction s with
  | nil => rfl
  | cons c s ih =>
    rw [splitOn]
    split
    · next hc => simp [hc, ih]
    · next hc =>
      rw [List.filter_cons_of_pos (by simpa using hc), ← ih]
      cases splitOn sep s <;> rfl

theorem splitOn_of_not_mem {sep : Char} {s : Text} (h : sep ∉ s) : splitOn sep s = [s] := by
  rw [splitOn_eq]
  exact List.splitOn_eq_singleton h

theorem not_mem_of_mem_splitOn {sep : Char} {s w : Text} (hw : w ∈ splitOn sep s) : sep ∉ w := by
  intro hmem
  have hflat : sep ∈ (splitOn sep s).flatten := List.mem_flatten.2 ⟨w, hw, hmem⟩
  rw [flatten_splitOn] at hflat
  simpa using (List.mem_filter.1 hflat).2

/-- Lines without line feeds are read back from the text they make. -/
theorem splitOn_unlines {ls : List Text} (h : ∀ l ∈ ls, '\n' ∉ l) :
    splitOn '\n' (unlines ls) = ls ++ [[]] := by
  induction ls with
  | nil => rfl
  | cons l ls ih =>
    have hcons : unlines (l :: ls) = l ++ '\n' :: unlines ls := by simp [unlines]
    rw [hcons, splitOn_append_cons, splitOn_of_not_mem (h l List.mem_cons_self),
      ih fun m hm => h m (List.mem_cons_of_mem l hm)]
    rfl

theorem eq_splitOn_of_unlines {s : Text} {ls : List Text} (h : ∀ l ∈ ls, '\n' ∉ l)
    (hs : unlines ls = s ++ ['\n']) : ls = splitOn '\n' s := by
  have hsplit := splitOn_unlines h
  rw [hs, splitOn_append_cons] at hsplit
  exact (List.append_cancel_right hsplit).symm

theorem unlines_splitOn (s : Text) : unlines (splitOn '\n' s) = s ++ ['\n'] := by
  induction s with
  | nil => rfl
  | cons c s ih =>
    rw [splitOn]
    split
    · next hc =>
      rw [hc]
      change '\n' :: unlines (splitOn '\n' s) = _
      rw [ih]
      rfl
    · cases hs : splitOn '\n' s with
      | nil => simp [hs, unlines] at ih
      | cons w ws =>
        rw [hs] at ih
        change c :: unlines (w :: ws) = _
        rw [ih]
        rfl

end Text

namespace Console

def inked (s : Text) : Text := s.filter (· != ' ')

def stripText (columns : Nat) (s : Text) : Text := s.take (strippedLength columns s)

def fitText (columns : Nat) (s : Text) : Text :=
  if columns < Text.width s then crop columns s else s

def textLines (columns : Nat) (s : Text) : List Text :=
  (Text.splitOn '\n' s).flatMap fun l =>
    (pieces columns true (expandTabs l)).map fun p => fitText columns (stripText columns p)

variable {columns column used gap : Nat} {fold first : Bool} {s t l p : Text} {c : Char}
variable {ps ws : List Text} {x : Styled}

@[simp] theorem inked_append (s t : Text) : inked (s ++ t) = inked s ++ inked t :=
  List.filter_append ..

theorem inked_sublist (h : s.Sublist t) : (inked s).Sublist (inked t) := h.filter _

theorem marks_inked (s : Text) : marks (inked s) = marks s := by
  have hmark : ∀ c, (isMark c && c != ' ') = isMark c := by
    intro c
    by_cases hc : c = ' '
    · subst hc
      rfl
    · simp [hc]
  rw [inked, marks, List.countP_filter]
  exact List.countP_congr fun c _ => by rw [hmark]

theorem marks_le_of_inked (h : (inked s).Sublist (inked t)) : marks s ≤ marks t := by
  rw [← marks_inked s, ← marks_inked t]
  exact h.countP_le

theorem marks_splitOn (s : Text) : marks (Text.splitOn '\n' s).flatten = marks s := by
  have hmark : ∀ c, (isMark c && c != '\n') = isMark c := by
    intro c
    by_cases hc : c = '\n'
    · subst hc
      rfl
    · simp [hc]
  rw [Text.flatten_splitOn, marks, List.countP_filter]
  exact List.countP_congr fun c _ => by rw [hmark]

theorem mem_of_inked (h : (inked s).Sublist (inked t)) (hc : c ∈ s) (hne : c ≠ ' ') : c ∈ t :=
  (List.mem_filter.1 (h.subset (List.mem_filter.2 ⟨hc, by simpa using hne⟩))).1

theorem tab_not_mem_expandFrom (column : Nat) (s : Text) : '\t' ∉ expandFrom column s := by
  fun_induction expandFrom column s with
  | case1 => simp
  | case2 column s ih => simp [ih]
  | case3 column c s hc ih => simp [ih, Ne.symm hc]

theorem expandFrom_eq_self (column : Nat) (h : '\t' ∉ s) : expandFrom column s = s := by
  induction s generalizing column with
  | nil => rfl
  | cons c s ih =>
    obtain ⟨hc, hs⟩ := not_or.1 (List.mem_cons.not.1 h)
    rw [expandFrom, if_neg (Ne.symm hc), ih _ hs]

theorem inked_expandFrom (column : Nat) (s : Text) :
    (inked (expandFrom column s)).Sublist (inked s) := by
  fun_induction expandFrom column s with
  | case1 => exact List.Sublist.refl _
  | case2 column s ih =>
    have hblanks : inked (List.replicate (8 - column % 8) ' ') = [] :=
      List.filter_eq_nil_iff.2 fun d hd => by simp [List.eq_of_mem_replicate hd]
    rw [inked_append, hblanks]
    exact ih.trans (inked_sublist (List.sublist_cons_self _ _))
  | case3 column c s hc ih =>
    rw [← List.singleton_append, ← List.singleton_append (l := s), inked_append, inked_append]
    exact ih.append_left _

section Breaking

@[simp] theorem flatten_runs (s : Text) : (runs s).flatten = s := by
  fun_induction runs s with
  | case1 => rfl
  | case2 c s hnil ih =>
    rw [hnil] at ih
    simp [← ih]
  | case3 c s w ws hws _ ih =>
    rw [hws] at ih
    simp [← ih]
  | case4 c s w ws hws _ ih =>
    rw [hws] at ih
    simp [← ih]

@[simp] theorem flatten_wordsOf (s : Text) : (wordsOf s).flatten = s := by
  rw [wordsOf, Text.flatten_prepend, flatten_runs]
  exact List.takeWhile_append_dropWhile

@[simp] theorem flatten_chopFrom (columns used : Nat) (s : Text) :
    (chopFrom columns used s).flatten = s := by
  induction s generalizing used with
  | nil => rfl
  | cons c s ih =>
    rw [chopFrom]
    split <;> simp [ih]

@[simp] theorem flatten_breakUnless (first : Bool) (ps : List Text) :
    (breakUnless first ps).flatten = ps.flatten := by
  cases first <;> rfl

@[simp] theorem flatten_foldInto (first : Bool) (rest cs : List Text) :
    (foldInto first rest cs).flatten = cs.flatten ++ rest.flatten := by
  induction cs generalizing first with
  | nil => rfl
  | cons c cs ih => simp [foldInto, ih]

/-- A word stands in the pieces whole or folded. -/
theorem flatten_breakWords (columns : Nat) (fold first : Bool) (used : Nat) (ws : List Text) :
    (breakWords columns fold first used ws).flatten = ws.flatten := by
  induction ws generalizing first used with
  | nil => rfl
  | cons w ws ih =>
    -- The word joins the piece, is folded, goes over the edge, or begins a piece of its own.
    simp only [breakWords, List.flatten_cons]
    split
    · simp [ih]
    split
    · split
      · simp [ih, chop]
      · simp [ih]
    split <;> simp [ih]

@[simp] theorem flatten_pieces (columns : Nat) (fold : Bool) (s : Text) :
    (pieces columns fold s).flatten = s := by
  rw [pieces, flatten_breakWords, flatten_wordsOf]

theorem width_trimRight_le (s : Text) : Text.width (Text.trimRight s) ≤ Text.width s := by
  have hsplit : Text.trimRight s ++ (s.reverse.takeWhile Text.isBlank).reverse = s := by
    rw [Text.trimRight, ← List.reverse_append, List.takeWhile_append_dropWhile,
      List.reverse_reverse]
  calc Text.width (Text.trimRight s) ≤
        Text.width (Text.trimRight s ++ (s.reverse.takeWhile Text.isBlank).reverse) := by
        rw [Text.width_append]
        exact Nat.le_add_right _ _
    _ = Text.width s := by rw [hsplit]

/-- Words that fit are not broken. -/
theorem breakWords_of_fits (h : used + Text.width ws.flatten ≤ columns) :
    breakWords columns fold first used ws = [ws.flatten] := by
  induction ws generalizing first used with
  | nil => rfl
  | cons w ws ih =>
    rw [List.flatten_cons, Text.width_append] at h
    have htrim := width_trimRight_le w
    simp only [breakWords]
    rw [if_pos (by omega), ih (by omega)]
    rfl

theorem pieces_of_fits (h : Text.width s ≤ columns) : pieces columns fold s = [s] := by
  rw [pieces, breakWords_of_fits (by simpa using h), flatten_wordsOf]

end Breaking

section Cutting

theorem inked_stripText (columns : Nat) (s : Text) :
    (inked (stripText columns s)).Sublist (inked s) :=
  inked_sublist (List.take_sublist _ _)

theorem width_stripText_le (columns : Nat) (s : Text) :
    Text.width (stripText columns s) ≤ Text.width s := by
  have hsplit := Text.width_append (stripText columns s) (s.drop (strippedLength columns s))
  rw [stripText, List.take_append_drop] at hsplit
  rw [stripText, hsplit]
  exact Nat.le_add_right _ _

theorem inked_cropFrom (columns : Nat) (s : Text) (start stop : Nat) :
    (inked (cropFrom columns s start stop)).Sublist (inked s) := by
  have htake : ∀ n, (inked (s.take n)).Sublist (inked s) :=
    fun n => inked_sublist (List.take_sublist n s)
  fun_induction cropFrom columns s start stop with
  | case1 start stop before hwide =>
    have hblank : inked [' '] = [] := rfl
    rw [inked_append, hblank, List.append_nil]
    exact (inked_sublist (List.dropLast_sublist _)).trans (htake _)
  | case2 start stop before hwide hsame => exact htake _
  | case3 start stop before hwide hsame hlt hrest ih => exact ih
  | case4 => exact List.nil_sublist _
  | case5 start stop before hwide hsame hlt hrest ih => exact ih
  | case6 => exact htake _

theorem width_dropLast_add (h : s.getLast?.any (Text.charWidth · == 2) = true) :
    Text.width s.dropLast + 2 = Text.width s := by
  obtain ⟨c, hc, hwide⟩ := (Option.any_eq_true _ _).1 h
  obtain ⟨u, rfl⟩ := List.getLast?_eq_some_iff.1 hc
  have hc : Text.width [c] = 2 := beq_iff_eq.1 hwide
  rw [List.dropLast_concat, Text.width_append, hc]

theorem width_cropFrom_le (columns : Nat) (s : Text) (start stop : Nat) :
    Text.width (cropFrom columns s start stop) ≤ columns := by
  fun_induction cropFrom columns s start stop with
  | case1 start stop before hwide =>
    -- One column too many, of which the blank takes one back.
    have hhalf := width_dropLast_add hwide.2
    rw [Text.width_append]
    have hblank : Text.width [' '] = 1 := rfl
    omega
  | case2 start stop before hwide hsame => exact hsame.le
  | case3 start stop before hwide hsame hlt hrest ih => exact ih
  | case4 => exact Nat.zero_le _
  | case5 start stop before hwide hsame hlt hrest ih => exact ih
  | case6 start stop before hwide hsame hlt hrest =>
    omega

theorem inked_fitText (columns : Nat) (s : Text) :
    (inked (fitText columns s)).Sublist (inked s) := by
  unfold fitText crop
  split
  · split
    · exact List.nil_sublist _
    · exact inked_cropFrom columns s 0 s.length
  · exact List.Sublist.refl _

theorem width_fitText_le (columns : Nat) (s : Text) :
    Text.width (fitText columns s) ≤ columns := by
  unfold fitText crop
  split
  · split
    · exact Nat.zero_le _
    · exact width_cropFrom_le columns s 0 s.length
  · next h => exact Nat.le_of_not_lt h

end Cutting

section Lines

theorem inked_flatten_map (columns : Nat) (ps : List Text) :
    (inked (ps.map fun p => fitText columns (stripText columns p)).flatten).Sublist
      (inked ps.flatten) := by
  induction ps with
  | nil => exact List.Sublist.refl _
  | cons p ps ih =>
    simp only [List.map_cons, List.flatten_cons, inked_append]
    exact ((inked_fitText _ _).trans (inked_stripText _ _)).append ih

/-- A layout shows the characters of its text and blanks. -/
theorem inked_textLines (columns : Nat) (s : Text) :
    (inked (textLines columns s).flatten).Sublist (inked s) := by
  have hlines : ∀ ls : List Text, (inked (ls.flatMap fun l =>
      (pieces columns true (expandTabs l)).map fun p =>
        fitText columns (stripText columns p)).flatten).Sublist (inked ls.flatten) := by
    intro ls
    induction ls with
    | nil => exact List.Sublist.refl _
    | cons l ls ih =>
      simp only [List.flatMap_cons, List.flatten_append, List.flatten_cons, inked_append]
      refine (List.Sublist.trans (inked_flatten_map _ _) ?_).append ih
      rw [flatten_pieces]
      exact inked_expandFrom 0 l
  refine (hlines _).trans (inked_sublist ?_)
  rw [Text.flatten_splitOn]
  exact List.filter_sublist

theorem exists_of_mem_textLines (h : l ∈ textLines columns s) :
    Text.width l ≤ columns ∧
      ∃ w ∈ Text.splitOn '\n' s, (inked l).Sublist (inked (expandTabs w)) := by
  obtain ⟨w, hw, hl⟩ := List.mem_flatMap.1 h
  obtain ⟨p, hp, rfl⟩ := List.mem_map.1 hl
  refine ⟨width_fitText_le _ _, w, hw, ?_⟩
  refine ((inked_fitText _ _).trans (inked_stripText _ _)).trans (inked_sublist ?_)
  rw [← flatten_pieces columns true (expandTabs w)]
  exact List.sublist_flatten_of_mem hp

/-- Of lines that fit nothing goes but blanks that stand out behind characters without a column. -/
theorem textLines_of_fits (htab : '\t' ∉ s)
    (hfits : ∀ l ∈ Text.splitOn '\n' s, Text.width l ≤ columns) :
    textLines columns s = (Text.splitOn '\n' s).map (stripText columns) := by
  have hline : ∀ l ∈ Text.splitOn '\n' s, ((pieces columns true (expandTabs l)).map fun p =>
      fitText columns (stripText columns p)) = [stripText columns l] := by
    intro l hl
    have hwidth := hfits l hl
    have hexpand : expandTabs l = l :=
      expandFrom_eq_self 0 fun hmem => htab (Text.mem_of_mem_splitOn hl hmem)
    have hstrip := (width_stripText_le columns l).trans hwidth
    rw [hexpand, pieces_of_fits hwidth, List.map_singleton, fitText, if_neg (Nat.not_lt.2 hstrip)]
  rw [textLines, List.flatMap_congr hline, List.map_eq_flatMap]

end Lines

namespace Styled

theorem map_text_spread (gap : Nat) (spans : List Span) (start : Nat) (ps : List Text) :
    (spread gap spans start ps).map text = ps := by
  induction ps generalizing start with
  | nil => rfl
  | cons p ps ih => rw [spread, List.map_cons, ih]

theorem map_text_divide (h : ∀ p, ps = [p] → p = x.text) : (x.divide gap ps).map text = ps := by
  unfold divide
  split
  · next p => rw [List.map_singleton, h p rfl]
  · exact map_text_spread gap x.spans 0 ps

theorem text_expandTabs (x : Styled) : x.expandTabs.text = Console.expandTabs x.text := by
  unfold expandTabs
  split
  · rfl
  · next h => exact (expandFrom_eq_self 0 h).symm

theorem map_text_lines (x : Styled) : x.lines.map text = Text.splitOn '\n' x.text := by
  refine map_text_divide fun p hp => ?_
  have hline := Text.unlines_splitOn x.text
  rw [hp] at hline
  simpa [Text.unlines] using hline

theorem text_fit (columns : Nat) (x : Styled) : (x.fit columns).text = fitText columns x.text := by
  unfold fit fitText
  split <;> rfl

/-- The texts of the lines that are shown. -/
theorem map_text_shownLines (columns : Nat) (x : Styled) :
    (shownLines columns x).map text = textLines columns x.text := by
  have hline : ∀ l : Styled, (((l.expandTabs.divide 0
      (pieces columns true l.expandTabs.text)).map (stripEnd columns)).map (fit columns)).map text =
        (pieces columns true (Console.expandTabs l.text)).map fun p =>
          fitText columns (stripText columns p) := by
    intro l
    have hdivide : (l.expandTabs.divide 0 (pieces columns true l.expandTabs.text)).map text =
        pieces columns true (Console.expandTabs l.text) := by
      rw [map_text_divide, text_expandTabs]
      intro p hp
      rw [← flatten_pieces columns true l.expandTabs.text, hp, List.flatten_singleton]
    -- Stripping and fitting a piece do to its text what they do to texts.
    rw [← hdivide]
    simp only [List.map_map]
    exact List.map_congr_left fun y _ => text_fit columns (y.stripEnd columns)
  rw [textLines, ← map_text_lines, List.flatMap_map, shownLines, wrap, List.map_flatMap,
    List.map_flatMap]
  exact List.flatMap_congr fun l _ => hline l

theorem spans_of_mem_spread {y : Styled} {start : Nat} (hy : y ∈ spread gap [] start ps) :
    y.spans = [] := by
  induction ps generalizing start with
  | nil => cases hy
  | cons p ps ih =>
    rcases List.mem_cons.1 hy with rfl | hy
    · rfl
    · exact ih hy

theorem spans_of_mem_divide {y : Styled} (h : x.spans = []) (hy : y ∈ x.divide gap ps) :
    y.spans = [] := by
  unfold divide at hy
  split at hy
  · rwa [List.mem_singleton.1 hy]
  · rw [h] at hy
    exact spans_of_mem_spread hy

theorem spans_withText (h : x.spans = []) (t : Text) : (x.withText t).spans = [] := by
  unfold withText
  split <;> simp [h]

theorem spans_expandTabs (h : x.spans = []) : x.expandTabs.spans = [] := by
  unfold expandTabs
  split <;> simp [h]

theorem spans_fit (h : x.spans = []) (columns : Nat) : (x.fit columns).spans = [] := by
  unfold fit
  split
  · exact spans_withText h _
  · exact h

theorem spans_elide (h : x.spans = []) (columns : Nat) : (x.elide columns).spans = [] := by
  unfold elide
  split
  · exact spans_withText h _
  · exact h

theorem spans_of_mem_wrap {y : Styled} (h : x.spans = []) (hy : y ∈ x.wrap columns fold) :
    y.spans = [] := by
  obtain ⟨l, hl, hy⟩ := List.mem_flatMap.1 hy
  obtain ⟨z, hz, rfl⟩ := List.mem_map.1 hy
  exact spans_withText (spans_of_mem_divide (spans_expandTabs (spans_of_mem_divide h hl)) hz) _

end Styled

theorem texts_of_spans {ls : List Styled} (h : ∀ l ∈ ls, l.spans = []) :
    texts ls = .ok (ls.map Styled.text) := by
  unfold texts
  rw [List.flatMap_eq_nil_iff.2 h]

theorem eq_of_texts {ls : List Styled} {ts : List Text} (h : texts ls = .ok ts) :
    ts = ls.map Styled.text := by
  unfold texts at h
  split at h
  · cases h
  · cases h
    rfl

theorem texts_shownLines (columns : Nat) (h : x.spans = []) :
    texts (shownLines columns x) = .ok (textLines columns x.text) := by
  have hspans : ∀ l ∈ shownLines columns x, l.spans = [] := by
    intro l hl
    obtain ⟨y, hy, rfl⟩ := List.mem_map.1 hl
    exact Styled.spans_fit (Styled.spans_of_mem_wrap h hy) columns
  rw [texts_of_spans hspans, Styled.map_text_shownLines]

end Console

end CrateScaffold
