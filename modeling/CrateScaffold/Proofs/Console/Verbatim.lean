import CrateScaffold.Proofs.Console.Layout

/-!
Messages that the console shows as they are. Nothing in them is markup, the code of an emoji or
moves the cursor, and each of their lines fits on the console; whatever is done to any other
message, the characters with a meaning, the widths of its lines or its blanks give it away.
-/

namespace CrateScaffold.Console

def isVerbatim (s : Text) : Bool :=
  isPlain s && withEmojis s == s && s.all fun c => c != '\t' && !isCursorControl c

def fits (columns : Nat) (s : Text) : Bool :=
  0 < columns && (Text.splitOn '\n' s).all fun l =>
    Text.width l ≤ columns && stripText columns l == l

variable {literals : Literals} {columns : Nat} {tone : Tone} {s : Text} {x : Styled}

/-- What has its marks after markup is plain, and emojis would have taken marks away. -/
theorem styled_of_marks (hlast : s.getLast? ≠ some '\\')
    (h : styled literals (tone.wrap s) = .ok x) (hmarks : marks s ≤ marks x.text) :
    isPlain s = true ∧ withEmojis s = s ∧ x.text = s.filter (!isCursorControl ·) := by
  have hplain : isPlain s = true := by
    by_contra hnot
    have hlt := (marks_styled_wrap hlast h).2 (by simpa using hnot)
    omega
  rw [styled_wrap_of_isPlain hplain hlast] at h
  cases h
  have hemojis : withEmojis s = s := by
    refine (withEmojis_eq_or_lt s).resolve_right fun hlt => ?_
    have hle : marks (shown s) ≤ marks (withEmojis s) := marks_filter_le _ _
    exact absurd (hmarks.trans hle) (Nat.not_le.2 hlt)
  refine ⟨hplain, hemojis, ?_⟩
  rw [shown, hemojis]

/-- A message that is shown as it is is the text of its markup, laid out on its own lines. -/
theorem exists_of_message (h : message literals columns tone s = .ok (s ++ ['\n'])) :
    0 < columns ∧ ∃ x, styled literals (tone.wrap s) = .ok x ∧
      textLines columns x.text = Text.splitOn '\n' s := by
  obtain ⟨x, hx, h⟩ := bind_eq_ok.1 h
  have hcolumns : columns ≠ 0 := by
    rintro rfl
    have hnil : ([] : Text) = s ++ ['\n'] := Except.ok.inj h
    simp at hnil
  rw [if_neg hcolumns] at h
  obtain ⟨ts, hts, h⟩ := bind_eq_ok.1 h
  rw [eq_of_texts hts, Styled.map_text_shownLines] at h
  refine ⟨Nat.pos_of_ne_zero hcolumns, x, hx, Text.eq_splitOn_of_unlines (fun l hl hmem => ?_)
    (Except.ok.inj h)⟩
  obtain ⟨-, w, hw, hinked⟩ := exists_of_mem_textLines hl
  have hfeed := mem_of_inked (hinked.trans (inked_expandFrom 0 w)) hmem (by decide)
  exact Text.not_mem_of_mem_splitOn hw hfeed

theorem of_mem_textLines {l t : Text} {c : Char} (hl : l ∈ textLines columns t) (hc : c ∈ l)
    (hne : c ≠ ' ') : c ≠ '\t' ∧ c ∈ t := by
  obtain ⟨-, w, hw, hinked⟩ := exists_of_mem_textLines hl
  have hexpanded := mem_of_inked hinked hc hne
  refine ⟨fun htab => tab_not_mem_expandFrom 0 w (htab ▸ hexpanded), ?_⟩
  exact Text.mem_of_mem_splitOn hw (mem_of_inked (inked_expandFrom 0 w) hexpanded hne)

/-- Only a line feed stands between the lines, so nothing in them tells the characters of the
text from those of its layout. -/
theorem of_textLines_eq {t : Text} (h : textLines columns t = Text.splitOn '\n' s) :
    marks s ≤ marks t ∧ ∀ c ∈ s, c = ' ' ∨ c = '\n' ∨ c ≠ '\t' ∧ c ∈ t := by
  constructor
  · rw [← marks_splitOn s, ← h]
    exact marks_le_of_inked (inked_textLines columns t)
  · intro c hc
    refine or_iff_not_imp_left.2 fun hblank => or_iff_not_imp_left.2 fun hfeed => ?_
    have hmem : c ∈ (Text.splitOn '\n' s).flatten := by
      rw [Text.flatten_splitOn]
      exact List.mem_filter.2 ⟨hc, by simpa using hfeed⟩
    obtain ⟨l, hl, hcl⟩ := List.mem_flatten.1 hmem
    exact of_mem_textLines (h ▸ hl) hcl hblank

theorem isCursorControl_of_filter {t : Text} {c : Char} (h : c ∈ t.filter (!isCursorControl ·)) :
    isCursorControl c = false := by
  simpa using (List.mem_filter.1 h).2

/-- A message that does not end in a backslash is shown as it is just when nothing in it has a
meaning to the console and its lines fit. -/
theorem message_eq_iff (literals : Literals) (tone : Tone) (hlast : s.getLast? ≠ some '\\') :
    message literals columns tone s = .ok (s ++ ['\n']) ↔
      isVerbatim s = true ∧ fits columns s = true := by
  unfold isVerbatim fits
  simp only [Bool.and_eq_true, List.all_eq_true, beq_iff_eq, bne_iff_ne, decide_eq_true_eq,
    Bool.not_eq_true']
  constructor
  · intro h
    obtain ⟨hpos, x, hx, hlines⟩ := exists_of_message h
    obtain ⟨hmarks, hmem⟩ := of_textLines_eq hlines
    obtain ⟨hplain, hemojis, htext⟩ := styled_of_marks hlast hx hmarks
    have hall : ∀ c ∈ s, c ≠ '\t' ∧ isCursorControl c = false := by
      intro c hc
      rcases hmem c hc with rfl | rfl | ⟨htab, hcx⟩
      · exact ⟨by decide, rfl⟩
      · exact ⟨by decide, rfl⟩
      · exact ⟨htab, isCursorControl_of_filter (htext ▸ hcx)⟩
    have hself : s.filter (!isCursorControl ·) = s :=
      List.filter_eq_self.2 fun c hc => by simp [(hall c hc).2]
    rw [htext, hself] at hlines
    have hwidth : ∀ l ∈ Text.splitOn '\n' s, Text.width l ≤ columns :=
      fun l hl => (exists_of_mem_textLines (hlines ▸ hl)).1
    rw [textLines_of_fits (fun htab => (hall _ htab).1 rfl) hwidth] at hlines
    have hstrip : ∀ l ∈ Text.splitOn '\n' s, stripText columns l = l :=
      List.map_inj_left.1 (hlines.trans (List.map_id _).symm)
    exact ⟨⟨⟨hplain, hemojis⟩, hall⟩, hpos, fun l hl => ⟨hwidth l hl, hstrip l hl⟩⟩
  · rintro ⟨⟨⟨hplain, hemojis⟩, hall⟩, hpos, hfits⟩
    have hself : shown s = s := by
      rw [shown, hemojis]
      exact List.filter_eq_self.2 fun c hc => by simp [(hall c hc).2]
    have hlines := texts_shownLines columns (x := ⟨s, []⟩) rfl
    rw [textLines_of_fits (fun htab => (hall _ htab).1 rfl) fun l hl => (hfits l hl).1,
      List.map_congr_left fun l hl => (hfits l hl).2, List.map_id'] at hlines
    rw [message, styled_wrap_of_isPlain hplain hlast, hself, ok_bind, if_neg hpos.ne', hlines,
      ok_bind, Text.unlines_splitOn]
    rfl

end CrateScaffold.Console
