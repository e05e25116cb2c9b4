import CrateScaffold.Proofs.Template.Piece
import CrateScaffold.Proofs.Template.SkeletonParse

/-!
Templates without tags. Whatever the context holds, such a template is rendered, and nothing in it
is changed but its line breaks: they all become the one that was detected. So it is reproduced just
when all of them are the same.
-/

namespace CrateScaffold.Template

def openers : List Text := [['{', '{'], ['{', '%'], ['{', '#']]

/-- No tag begins in the text. -/
def HasNoTags (t : Text) : Prop := ∀ o ∈ openers, Text.contains t o = false

variable {b : LineBreak} {t p : Text} {a : Char} {c : Context} {l : Library} {site : Site}
variable {name source : Text} {value : Text → Text}

theorem contains_cons_eq_false : Text.contains (a :: t) p = false ↔
    Text.after? p (a :: t) = none ∧ Text.contains t p = false := by
  simp only [Text.contains, Text.cut?]
  cases Text.after? p (a :: t) <;> simp

namespace HasNoTags

theorem tail (h : HasNoTags (a :: t)) : HasNoTags t := fun o ho =>
  (contains_cons_eq_false.1 (h o ho)).2

theorem opensTag_eq_false (h : HasNoTags (a :: t)) : opensTag (a :: t) = false := by
  by_contra hopen
  obtain ⟨rfl, x, u, rfl, hx⟩ := eq_cons_of_opensTag (by simpa using hopen)
  have hmem : ['{', x] ∈ openers := by
    rcases isOpenerEnd_iff.1 hx with rfl | rfl | rfl <;> decide
  have hnone := (contains_cons_eq_false.1 (h _ hmem)).1
  have hfound : Text.after? ['{', x] ('{' :: x :: u) = some u := Text.after?_append ['{', x] u
  exact absurd (hnone.symm.trans hfound) nofun

theorem untilTag_eq (h : HasNoTags t) : untilTag t = (t, none) := by
  induction t with
  | nil => rfl
  | cons a t ih => rw [untilTag_cons h.opensTag_eq_false, ih h.tail]

/-- All of the text is one token, if there is any text. -/
theorem tokens_eq (h : HasNoTags t) (b : LineBreak) : tokens b (Text.foldBreaks t) =
    textTokens b 1 false (Text.foldBreaks t) ++ [⟨.eof, 1⟩] := by
  have huntil := untilTag_foldBreaks t
  rw [h.untilTag_eq] at huntil
  by_cases hnil : Text.foldBreaks t = []
  · rw [hnil, tokens, scan_nil]
    rfl
  · have hstep : step b (Text.foldBreaks t).length ⟨.text, [], 1, false⟩ (Text.foldBreaks t) =
        (textTokens b 1 false (Text.foldBreaks t), some (⟨.text, [], 1, false⟩, [])) := by
      rw [step, if_pos rfl, textStep, huntil]
      rfl
    rw [tokens, scan_step hstep (List.length_pos_iff.2 hnil), scan_nil]

/-- The nodes of the text, and the pieces that they are. -/
theorem exists_read (h : HasNoTags t) : ∃ ns ps, read t = .ok ns ∧ AreMadeOf ns ps ∧
    (∀ n, .name n ∉ ps) ∧
    ∀ value, ps.flatMap (Piece.shown value) = (LineBreak.detect t).unfold (Text.foldBreaks t) := by
  have htokens := h.tokens_eq (LineBreak.detect t)
  by_cases hnil : Text.foldBreaks t = []
  · have hparse : parse (LineBreak.detect t) (Text.foldBreaks t) = .ok [] := by
      unfold parse
      rw [htokens, hnil]
      rfl
    refine ⟨[], [], ?_, .nil, by simp, fun value => ?_⟩
    · rw [read_of_parse hparse]
      rfl
    · rw [hnil]
      rfl
  · have htext : textTokens (LineBreak.detect t) 1 false (Text.foldBreaks t) =
        [⟨.text ((LineBreak.detect t).unfold (Text.foldBreaks t)), 1⟩] := by
      simp [textTokens, hnil]
    rw [htext] at htokens
    generalize hu : (LineBreak.detect t).unfold (Text.foldBreaks t) = u at htokens ⊢
    have hparse : parse (LineBreak.detect t) (Text.foldBreaks t) = .ok [.text u] := by
      unfold parse
      rw [htokens]
      rfl
    refine ⟨[.text u], [.text u], ?_, .cons rfl .nil, by simp, fun value => ?_⟩
    · rw [read_of_parse hparse]
      rfl
    · simp [Piece.shown]

end HasNoTags

theorem render_of_hasNoTags (hl : l.load site.files name = .ok source)
    (hsource : HasNoTags source) (hself : c.lookup "self".toList = none) :
    (l.render name c site).2 =
      .ok ((LineBreak.detect source).unfold (Text.foldBreaks source)) := by
  obtain ⟨ns, ps, hread, hmade, hnames, hshown⟩ := hsource.exists_read
  have hvalues : ∀ n, .name n ∈ ps → c.lookup n = some (.text []) :=
    fun n hn => absurd hn (hnames n)
  have hrendered := Library.render_of_areMadeOf hl hread hmade hself hvalues
  rwa [hshown] at hrendered

/-- A template without tags is always rendered, to its text with every line break written as the
detected one; that is the template itself just when all its line breaks are the same. -/
theorem render_untagged_iff (l : Library) (site : Site) (name source : Text) (c : Context)
    (hl : l.load site.files name = .ok source) (hsource : HasNoTags source)
    (hself : c.lookup "self".toList = none) :
    (l.render name c site).2 =
        .ok ((LineBreak.detect source).unfold (Text.foldBreaks source)) ∧
      ((l.render name c site).2 = .ok source ↔ Text.UniformBreaks source) := by
  have hrendered := render_of_hasNoTags hl hsource hself
  refine ⟨hrendered, ?_⟩
  rw [hrendered, Text.uniformBreaks_iff, Except.ok.injEq]

def withProperties (content : Text) : Site :=
  ⟨[([".jni-cli"], .dir), ([".jni-cli", "templates"], .dir),
    ([".jni-cli", "templates", "gradle"], .dir),
    ([".jni-cli", "templates", "gradle", "gradle.properties"],
      .file (Utf8.encode content) false)], "linux", .refusing⟩

def returning : Text := "\r\x7b \x7d\x7d\r\r%\x7b\r"

theorem load_returning : (Library.project Path.here).load (withProperties returning).files
    "gradle/gradle.properties" = .ok returning := by
  decide +kernel

theorem render_untagged_iff_returning :
    HasNoTags returning ∧ Text.UniformBreaks returning ∧
      ((Library.project Path.here).render "gradle/gradle.properties" [("x", .int 1)]
        (withProperties returning)).2 = .ok returning := by
  have hnotags : HasNoTags returning := by
    unfold HasNoTags
    decide
  have huniform : Text.UniformBreaks returning := ⟨.cr, by decide⟩
  have hrendered := render_untagged_iff _ _ _ _ [("x", .int 1)] load_returning hnotags rfl
  exact ⟨hnotags, huniform, hrendered.2.2 huniform⟩

def twoEndings : Text := "a\r\nb\n"

/-- The second line comes out with the ending of the first. -/
theorem render_untagged_changes_ending :
    (Library.project Path.here).load (withProperties twoEndings).files
        "gradle/gradle.properties" = .ok twoEndings ∧
      HasNoTags twoEndings ∧
      ((Library.project Path.here).render "gradle/gradle.properties" []
        (withProperties twoEndings)).2 = .ok "a\r\nb\r\n" ∧
      twoEndings ≠ "a\r\nb\r\n" := by
  have hl : (Library.project Path.here).load (withProperties twoEndings).files
      "gradle/gradle.properties" = .ok twoEndings := by
    decide +kernel
  have hnotags : HasNoTags twoEndings := by
    unfold HasNoTags
    decide
  have hrendered := render_of_hasNoTags (c := []) hl hnotags rfl
  have hchanged : (LineBreak.detect twoEndings).unfold (Text.foldBreaks twoEndings) =
      "a\r\nb\r\n" := by
    decide
  rw [hchanged] at hrendered
  exact ⟨hl, hnotags, hrendered, by decide⟩

end CrateScaffold.Template
