import CrateScaffold.Console.Message
import CrateScaffold.Proofs.World.Effect
import Mathlib.Data.List.TakeWhile

/-!
What becomes of markup as text. Markup takes tags away and backslashes before brackets, emojis take
the place of their codes, and neither adds a character with a meaning; of a text that is plain,
nothing goes but emoji codes and what would move the cursor.
-/

namespace CrateScaffold.Console

def isPlain : Text → Bool
  | [] => true
  | c :: s => (tag? (c :: s)).isNone && !(c == '\\' && s.head? == some '[') && isPlain s

def marks (s : Text) : Nat := s.countP isMark

def plainTexts : List Part → List Text
  | [] => []
  | .plain s :: ps => s :: plainTexts ps
  | .tag .. :: ps => plainTexts ps

def Tone.closing (tone : Tone) : Text := '[' :: ('/' :: tone.style ++ [']'])

variable {literals : Literals} {tone : Tone} {opened : List Tag} {s t u v r tag : Text} {c : Char}
variable {n position length : Nat} {ps : List Part} {x : Styled}

@[simp] theorem marks_nil : marks [] = 0 := rfl

@[simp] theorem marks_append (s t : Text) : marks (s ++ t) = marks s + marks t := List.countP_append

@[simp] theorem marks_cons (c : Char) (s : Text) :
    marks (c :: s) = marks s + if isMark c = true then 1 else 0 := List.countP_cons

@[simp] theorem marks_slashes (n : Nat) : marks (List.replicate n '\\') = n := by
  rw [marks, List.countP_replicate]
  rfl

theorem Emoji.isMark_eq_false {e : Emoji} (hc : c ∈ e.text) : isMark c = false := by
  simpa using List.any_eq_false.1 e.unmarked c hc

theorem marks_emoji (e : Emoji) : marks e.text = 0 :=
  List.countP_eq_zero.2 fun c hc hmark => absurd hmark (by simp [Emoji.isMark_eq_false hc])

theorem marks_presentation {p : Text × Text} (hp : p ∈ presentations) : marks p.2 = 0 := by
  revert p
  decide

/-- An emoji has fewer characters with a meaning than its code. -/
theorem withEmojis_eq_or_lt (s : Text) : withEmojis s = s ∨ marks (withEmojis s) < marks s := by
  fun_induction withEmojis s with
  | case1 => exact .inl rfl
  | case2 s hnone ih =>
    rcases ih with ih | ih
    · exact .inl (by rw [ih])
    · exact .inr (by simpa using ih)
  | case3 s name p r hcode _ e he ih =>
    obtain ⟨hp, hs⟩ := eq_of_code? hcode
    have hle : marks (withEmojis r) ≤ marks r := ih.elim (fun h => (congrArg marks h).le) le_of_lt
    refine .inr ?_
    rw [hs]
    simp only [marks_append, marks_cons, marks_emoji, marks_presentation hp]
    have hcolon : isMark ':' = true := rfl
    simp only [hcolon, if_true]
    omega
  | case4 s name p r hcode _ hnone ih =>
    obtain ⟨-, hs⟩ := eq_of_code? hcode
    rw [hs]
    rcases ih with ih | ih
    · exact .inl (by rw [ih]; simp)
    · refine .inr ?_
      simp only [marks_append, marks_cons, List.cons_append]
      omega
  | case5 c s hc ih =>
    rcases ih with ih | ih
    · exact .inl (by rw [ih])
    · exact .inr (by simpa using ih)

theorem marks_withEmojis_le (s : Text) : marks (withEmojis s) ≤ marks s :=
  (withEmojis_eq_or_lt s).elim (fun h => (congrArg marks h).le) le_of_lt

theorem marks_filter_le (p : Char → Bool) (s : Text) : marks (s.filter p) ≤ marks s :=
  (List.filter_sublist (p := p)).countP_le

theorem marks_shown_le (s : Text) : marks (shown s) ≤ marks s :=
  (marks_filter_le _ _).trans (marks_withEmojis_le s)

theorem marks_flatMap_shown_le (ts : List Text) :
    marks (ts.flatMap shown) ≤ marks ts.flatten := by
  induction ts with
  | nil => exact le_rfl
  | cons t ts ih =>
    rw [List.flatMap_cons, List.flatten_cons, marks_append, marks_append]
    exact Nat.add_le_add (marks_shown_le t) ih

@[simp] theorem shown_nil : shown [] = [] := by
  rw [shown, withEmojis]
  rfl

theorem eq_of_tag? (h : tag? u = some (tag, r)) : u = '[' :: tag ++ ']' :: r := by
  unfold tag? at h
  split at h
  · next c s =>
    split at h
    · split at h
      · next r' hr =>
        cases h
        have hs := List.takeWhile_append_dropWhile (p := fun d => d != '[' && d != ']') (l := s)
        rw [hr] at hs
        simp [hs]
      · cases h
    · cases h
  · cases h

theorem eq_of_escapedTag? (h : escapedTag? u = some (n, tag, r)) :
    u = List.replicate n '\\' ++ '[' :: tag ++ ']' :: r := by
  obtain ⟨⟨tag', r'⟩, htag, heq⟩ := Option.map_eq_some_iff.1 h
  cases heq
  have hslashes : u.takeWhile (· == '\\') =
      List.replicate (u.takeWhile (· == '\\')).length '\\' :=
    List.eq_replicate_iff.2 ⟨rfl, fun d hd => by
      simpa using List.all_eq_true.1 List.all_takeWhile d hd⟩
  calc u = u.takeWhile (· == '\\') ++ u.dropWhile (· == '\\') :=
        List.takeWhile_append_dropWhile.symm
    _ = _ := by
      rw [eq_of_tag? htag, ← hslashes]
      simp

theorem span_append {p : Char → Bool} (h : s.dropWhile p ≠ []) (t : Text) :
    (s ++ t).takeWhile p = s.takeWhile p ∧ (s ++ t).dropWhile p = s.dropWhile p ++ t := by
  have hlength := congrArg List.length (List.takeWhile_append_dropWhile (p := p) (l := s))
  have hpos := List.length_pos_iff.2 h
  rw [List.length_append] at hlength
  constructor
  · rw [List.takeWhile_append, if_neg (by omega)]
  · rw [List.dropWhile_append, if_neg (by simpa using h)]

def ClosesNothing (v : Text) : Prop :=
  (v.dropWhile fun d => d != '[' && d != ']').head? ≠ some ']'

theorem closesNothing_cons (v : Text) : ClosesNothing ('[' :: v) := by
  simp [ClosesNothing]

theorem tag?_opened (hv : ClosesNothing v) : tag? ('[' :: v) = none := by
  unfold tag?
  split
  · next c s heq =>
    cases heq
    split
    · next hstart =>
      -- what starts a tag is no bracket itself
      have hopen : c ≠ '[' := fun he => absurd (he ▸ hstart) (by decide)
      have hclose : c ≠ ']' := fun he => absurd (he ▸ hstart) (by decide)
      rw [ClosesNothing, List.dropWhile_cons_of_pos (by simp [hopen, hclose])] at hv
      split
      · next hrest => exact absurd (congrArg List.head? hrest) hv
      · rfl
    · rfl
  · rfl

/-- A tag ends before the next bracket opens, so what follows a text does not matter to it when it
closes nothing. -/
theorem tag?_append (hu : u ≠ []) (hv : ClosesNothing v) :
    tag? (u ++ v) = (tag? u).map fun x => (x.1, x.2 ++ v) := by
  obtain _ | ⟨c, _ | ⟨d, s⟩⟩ := u
  · exact absurd rfl hu
  · by_cases hc : c = '['
    · subst hc
      exact tag?_opened hv
    · simp [tag?, hc]
  · by_cases hc : c = '['
    · subst hc
      simp only [List.cons_append, tag?]
      split
      · cases hrest : s.dropWhile fun d => d != '[' && d != ']' with
        | nil =>
          simp only [List.dropWhile_append, hrest, List.isEmpty_nil, if_true, Option.map_none]
          split
          · next hclosed => exact absurd (congrArg List.head? hclosed) hv
          · rfl
        | cons b r =>
          obtain ⟨htake, hdrop⟩ := span_append (hrest ▸ List.cons_ne_nil b r) v
          rw [htake, hdrop, hrest]
          by_cases hb : b = ']'
          · simp [hb]
          · simp [hb]
      · rfl
    · simp [tag?, hc]

theorem escapedTag?_append (hrest : u.dropWhile (· == '\\') ≠ []) (hv : ClosesNothing v) :
    escapedTag? (u ++ v) = (escapedTag? u).map fun x => (x.1, x.2.1, x.2.2 ++ v) := by
  obtain ⟨htake, hdrop⟩ := span_append hrest v
  unfold escapedTag?
  rw [htake, hdrop, tag?_append hrest hv, Option.map_map, Option.map_map]
  rfl

theorem dropWhile_slash_ne_nil (hu : u ≠ []) (hlast : u.getLast? ≠ some '\\') :
    u.dropWhile (· == '\\') ≠ [] := by
  intro hnil
  have hall : ∀ d ∈ u, d = '\\' := fun d hd =>
    beq_iff_eq.1 (List.dropWhile_eq_nil_iff.1 hnil d hd)
  exact hlast (by rw [List.getLast?_eq_some_getLast hu, hall _ (List.getLast_mem hu)])

theorem tag?_eq_none_of_isPlain (h : isPlain s = true) (hu : u <:+ s) : tag? u = none := by
  induction s with
  | nil =>
    rw [List.suffix_nil.1 hu]
    rfl
  | cons c s ih =>
    simp only [isPlain, Bool.and_eq_true, Option.isNone_iff_eq_none] at h
    rcases List.suffix_cons_iff.1 hu with rfl | hu
    · exact h.1.1
    · exact ih h.2 hu

theorem escapedTag?_eq_none_of_isPlain (h : isPlain s = true) : escapedTag? s = none := by
  unfold escapedTag?
  rw [tag?_eq_none_of_isPlain h (List.dropWhile_suffix _)]
  rfl

theorem tag?_eq_none_of_escapedTag? (h : escapedTag? u = none) : tag? u = none := by
  cases htag : tag? u with
  | none => rfl
  | some x =>
    have hu : u = '[' :: x.1 ++ ']' :: x.2 := eq_of_tag? htag
    unfold escapedTag? at h
    rw [hu, List.cons_append, List.dropWhile_cons_of_neg (by decide), ← List.cons_append, ← hu,
      htag] at h
    cases h

theorem isPlain_cons (htag : escapedTag? (c :: s) = none)
    (hslash : ¬ (c = '\\' ∧ s.head? = some '[')) : isPlain (c :: s) = isPlain s := by
  have hnot : (c == '\\' && s.head? == some '[') = false := by
    rw [← Bool.not_eq_true, Bool.and_eq_true, beq_iff_eq, beq_iff_eq]
    exact hslash
  simp [isPlain, tag?_eq_none_of_escapedTag? htag, hnot]

theorem partsFrom_of_tag (h : escapedTag? (c :: t) = some (n, tag, r)) :
    partsFrom position (c :: t) = .plain [] :: .plain (List.replicate (n / 2) '\\') ::
      (if n % 2 = 1 then .plain ('[' :: tag ++ [']']) else .tag (position + n) tag) ::
      partsFrom (position + n + tag.length + 2) r := by
  rw [partsFrom]
  split
  · next hsome =>
    rw [h] at hsome
    cases hsome
    rfl
  · next hnone => exact absurd (h.symm.trans hnone) (by simp)

theorem partsFrom_of_none (h : escapedTag? (c :: t) = none) :
    partsFrom position (c :: t) =
      if c = '\\' ∧ t.head? = some '[' then partsFrom (position + 1) t
      else push c (partsFrom (position + 1) t) := by
  rw [partsFrom]
  split
  · next hsome => exact absurd (h.symm.trans hsome) (by simp)
  · rfl

@[simp] theorem flatten_plainTexts_push (c : Char) (ps : List Part) :
    (plainTexts (push c ps)).flatten = c :: (plainTexts ps).flatten := by
  rcases ps with _ | ⟨_ | _, ps⟩ <;> rfl

theorem foldr_push (s t : Text) (ps : List Part) :
    s.foldr push (.plain t :: ps) = .plain (s ++ t) :: ps := by
  induction s with
  | nil => rfl
  | cons c s ih =>
    rw [List.foldr_cons, ih]
    rfl

theorem getLast?_ne_of_append {d : Char} (h : (u ++ v).getLast? ≠ some d) :
    v.getLast? ≠ some d := by
  intro hv
  exact h (by rw [List.getLast?_append, hv]; rfl)

/-- Plain text is a part, with what follows it up to the next tag. -/
theorem partsFrom_append_of_isPlain (h : isPlain s = true) (hlast : s.getLast? ≠ some '\\')
    (v : Text) : partsFrom position (s ++ '[' :: v) =
      s.foldr push (partsFrom (position + s.length) ('[' :: v)) := by
  induction s generalizing position with
  | nil => rfl
  | cons c s ih =>
    have hnone : escapedTag? (c :: (s ++ '[' :: v)) = none := by
      rw [← List.cons_append, escapedTag?_append
        (dropWhile_slash_ne_nil (List.cons_ne_nil c s) hlast) (closesNothing_cons v),
        escapedTag?_eq_none_of_isPlain h]
      rfl
    simp only [isPlain, Bool.and_eq_true] at h
    obtain ⟨⟨-, hslash⟩, hs⟩ := h
    have hnot : ¬ (c = '\\' ∧ (s ++ '[' :: v).head? = some '[') := by
      rintro ⟨rfl, hhead⟩
      cases s with
      | nil => exact hlast rfl
      | cons d s => simp_all
    have hposition : position + 1 + s.length = position + (c :: s).length := by
      rw [List.length_cons]
      omega
    rw [List.cons_append, partsFrom_of_none hnone, if_neg hnot,
      ih hs (getLast?_ne_of_append (u := [c]) hlast), hposition]
    rfl

theorem partsFrom_closing (tone : Tone) (position : Nat) :
    partsFrom position tone.closing =
      [.plain [], .plain [], .tag position ('/' :: tone.style), .plain []] := by
  have htag : escapedTag? tone.closing = some (0, '/' :: tone.style, []) := by
    cases tone <;> rfl
  unfold Tone.closing at htag ⊢
  rw [partsFrom_of_tag htag, if_neg (by decide), partsFrom]
  rfl

/-- A tag is shown with fewer characters with a meaning, whatever stays of it. -/
theorem marks_lt_of_tag (position : Nat) {qs : List Part} (htag : escapedTag? s = some (n, tag, r))
    (hle : marks (plainTexts qs).flatten ≤ marks r) :
    marks (plainTexts (.plain [] :: .plain (List.replicate (n / 2) '\\') ::
      (if n % 2 = 1 then .plain ('[' :: tag ++ [']']) else .tag position tag) ::
      qs)).flatten < marks s := by
  have hbracket : isMark '[' = true := rfl
  have hmarks := congrArg marks (eq_of_escapedTag? htag)
  simp only [marks_append, marks_cons, marks_slashes, hbracket, if_true] at hmarks
  split
  · simp only [plainTexts, List.flatten_cons, List.nil_append, List.cons_append, marks_append,
      marks_cons, marks_slashes, hbracket, if_true, marks_nil] at hmarks ⊢
    omega
  · simp only [plainTexts, List.flatten_cons, List.nil_append, marks_append, marks_slashes]
    omega

/-- Markup adds no characters with a meaning, and takes some away when it is not plain. -/
theorem marks_partsFrom (tone : Tone) (position : Nat) (hlast : s.getLast? ≠ some '\\') :
    marks (plainTexts (partsFrom position (s ++ tone.closing))).flatten ≤ marks s ∧
      (isPlain s = false →
        marks (plainTexts (partsFrom position (s ++ tone.closing))).flatten < marks s) := by
  -- A tag takes several characters at once, so the induction is on the length.
  induction hk : s.length using Nat.strong_induction_on generalizing s position with
  | _ k ih =>
    subst hk
    cases s with
    | nil => exact ⟨by rw [List.nil_append, partsFrom_closing]; exact le_rfl, nofun⟩
    | cons c s =>
      have hcat : escapedTag? (c :: (s ++ tone.closing)) =
          (escapedTag? (c :: s)).map fun x => (x.1, x.2.1, x.2.2 ++ tone.closing) :=
        escapedTag?_append (dropWhile_slash_ne_nil (List.cons_ne_nil c s) hlast)
          (closesNothing_cons _)
      cases htag : escapedTag? (c :: s) with
      | some x =>
        obtain ⟨n, tag, r⟩ := x
        rw [htag] at hcat
        have hr : r.getLast? ≠ some '\\' := by
          rw [eq_of_escapedTag? htag, List.append_cons] at hlast
          exact getLast?_ne_of_append hlast
        have hlt := marks_lt_of_tag (position + n) htag
          (ih r.length (length_lt_of_escapedTag? htag) (position + n + tag.length + 2) hr rfl).1
        rw [List.cons_append, partsFrom_of_tag hcat]
        exact ⟨hlt.le, fun _ => hlt⟩
      | none =>
        rw [htag] at hcat
        obtain ⟨hle, hlt⟩ := ih s.length (by simp) (position + 1)
          (getLast?_ne_of_append (u := [c]) hlast) rfl
        rw [List.cons_append, partsFrom_of_none hcat]
        split
        · next hc =>
          have hmark : isMark c = true := hc.1 ▸ rfl
          simp only [marks_cons, hmark, if_true]
          exact ⟨by omega, fun _ => by omega⟩
        · next hc =>
          -- The character stays, so the text is plain just when the rest of it is.
          have hnot : ¬ (c = '\\' ∧ s.head? = some '[') := fun hslash =>
            hc ⟨hslash.1, by rw [List.head?_append, hslash.2]; rfl⟩
          rw [flatten_plainTexts_push, marks_cons, marks_cons, isPlain_cons htag hnot]
          exact ⟨by omega, fun hplain => Nat.add_lt_add_right (hlt hplain) _⟩

/-- Tags have no part in the text. -/
theorem text_styledFrom (h : styledFrom literals length opened ps = .ok x) :
    x.text = (plainTexts ps).flatMap shown := by
  induction ps generalizing length opened x with
  | nil =>
    cases h
    rfl
  | cons p ps ih =>
    cases p with
    | plain s =>
      obtain ⟨y, hy, rfl⟩ := exists_of_map_eq_ok h
      change shown s ++ y.text = _
      rw [ih hy]
      rfl
    | tag position s =>
      rw [styledFrom] at h
      split at h
      · cases h
      · obtain ⟨y, hy, rfl⟩ := exists_of_map_eq_ok h
        exact ih (x := y) hy

theorem text_styled (h : styled literals s = .ok x) :
    x.text = (plainTexts (partsFrom 0 s)).flatMap shown := by
  obtain ⟨y, hy, rfl⟩ := exists_of_map_eq_ok h
  exact text_styledFrom (x := y) hy

theorem partsFrom_wrap (tone : Tone) (s : Text) : partsFrom 0 (tone.wrap s) =
    .plain [] :: .plain [] :: .tag 0 tone.style ::
      partsFrom (tone.style.length + 2) (s ++ tone.closing) := by
  have hwrap : tone.wrap s = '[' :: (tone.style ++ ']' :: (s ++ tone.closing)) := by
    simp [Tone.wrap, Tone.closing]
  have htag : ∀ r, escapedTag? ('[' :: (tone.style ++ ']' :: r)) = some (0, tone.style, r) := by
    cases tone <;> exact fun _ => rfl
  rw [hwrap, partsFrom_of_tag (htag _), if_neg (by decide)]
  simp

theorem marks_styled_wrap (hlast : s.getLast? ≠ some '\\')
    (h : styled literals (tone.wrap s) = .ok x) :
    marks x.text ≤ marks s ∧ (isPlain s = false → marks x.text < marks s) := by
  obtain ⟨hle, hlt⟩ := marks_partsFrom tone (tone.style.length + 2) hlast
  have hshown : marks x.text ≤
      marks (plainTexts (partsFrom (tone.style.length + 2) (s ++ tone.closing))).flatten := by
    rw [text_styled h, partsFrom_wrap]
    exact marks_flatMap_shown_le _
  exact ⟨hshown.trans hle, fun hplain => hshown.trans_lt (hlt hplain)⟩

theorem Tone.normalForm_style (tone : Tone) : ∃ name, Style.normalForm tone.style = .ok name ∧
    (Style.read name).isOk = true ∧ name.head? ≠ some '@' := by
  cases tone with
  | error => exact ⟨"bold red", by decide +kernel, by decide +kernel, by decide⟩
  | success => exact ⟨"green", by decide +kernel, by decide +kernel, by decide⟩
  | warning => exact ⟨"yellow", by decide +kernel, by decide +kernel, by decide⟩

theorem afterTag_style {name : Text} (hname : Style.normalForm tone.style = .ok name) :
    afterTag literals length opened position tone.style =
      .ok (⟨length, name, none⟩ :: opened, []) := by
  have hcut : Tag.cut tone.style = (tone.style, none) := by cases tone <;> rfl
  unfold afterTag
  rw [hcut]
  split
  · next hslash => cases tone <;> cases hslash
  · next heq =>
    cases heq
    rw [hname]

/-- The closing tag of a tone ends its own tag, which leaves nothing. -/
theorem afterTag_closing {name : Text} (hname : Style.normalForm tone.style = .ok name)
    (hread : (Style.read name).isOk = true) (hhandler : name.head? ≠ some '@') (start : Nat) :
    afterTag literals length [⟨start, name, none⟩] position ('/' :: tone.style) =
      .ok ([], []) := by
  have hcut : Tag.cut ('/' :: tone.style) = ('/' :: tone.style, none) := by cases tone <;> rfl
  have htake : take? tone.style [⟨start, name, none⟩] = .ok (some (⟨start, name, none⟩, [])) := by
    have htrim : Text.trim tone.style = tone.style := by cases tone <;> decide
    have hne : tone.style ≠ [] := by cases tone <;> decide
    simp [take?, htrim, hne, hname, Except.map]
  obtain ⟨style, hstyle⟩ := isOk_iff.1 hread
  unfold afterTag
  simp only [hcut, htake]
  simp [Tag.close, Tag.isHandler, Tag.span, hhandler, hstyle, Except.map]

/-- Of plain text nothing but emoji codes and what would move the cursor is lost. -/
theorem styled_wrap_of_isPlain (h : isPlain s = true) (hlast : s.getLast? ≠ some '\\') :
    styled literals (tone.wrap s) = .ok ⟨shown s, []⟩ := by
  have hparts : partsFrom (tone.style.length + 2) (s ++ tone.closing) =
      [.plain s, .plain [], .tag (tone.style.length + 2 + s.length) ('/' :: tone.style),
        .plain []] := by
    refine (partsFrom_append_of_isPlain h hlast _).trans ?_
    change s.foldr push (partsFrom _ tone.closing) = _
    rw [partsFrom_closing, foldr_push, List.append_nil]
  obtain ⟨name, hname, hread, hhandler⟩ := tone.normalForm_style
  unfold styled
  rw [partsFrom_wrap, hparts]
  simp [styledFrom, afterTag_style hname, afterTag_closing hname hread hhandler, Except.map]

end CrateScaffold.Console
