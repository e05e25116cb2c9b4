import CrateScaffold.Binding.Annotation
import CrateScaffold.Proofs.Binding.Comment
import CrateScaffold.Proofs.Text.Blank

/-!
How an annotated implementation is written: a list of tokens with blanks before each of them. When
nothing in it nests, the scanner reads it back, whatever the blanks, the package, the attributes and
the generics are; and so it reads back a source that is made of such declarations.
-/

namespace CrateScaffold.Source

inductive Spaced : List Text → Text → Prop where
  | nil : Spaced [] []
  | cons {w ws gap s} : gap.all Text.isBlank = true → Spaced ws s →
      Spaced (w :: ws) (gap ++ (w ++ s))

def annotationTokens (package : Text) : List Text :=
  ["java_class", ['('], '"' :: (package ++ ['"']), [')'], [']']]

structure Declaration where
  package : Text
  attributes : List Text
  generics : Option Text
  type : Text

def IsTypeName (s : Text) : Prop :=
  ∃ c t, s = c :: t ∧ isTypeStart c = true ∧ t.all isTypeRest = true

namespace Declaration

def attributeToken (a : Text) : Text := '#' :: '[' :: (a ++ [']'])

def genericsToken (g : Text) : Text := '<' :: (g ++ ['>'])

def binding (d : Declaration) : Binding := ⟨d.type, d.package⟩

def implementation (d : Declaration) : List Text :=
  "impl" :: (d.generics.toList.map genericsToken ++ [d.type])

def tokens (d : Declaration) : List Text :=
  annotationTokens d.package ++ (d.attributes.map attributeToken ++ d.implementation)

/-- The text is the declaration, with any blanks between its tokens. -/
def Writes (d : Declaration) (s : Text) : Prop := ∃ r, s = '#' :: '[' :: r ∧ Spaced d.tokens r

structure IsWellFormed (d : Declaration) : Prop where
  package : '"' ∉ d.package
  generics : ∀ g ∈ d.generics, '{' ∉ g
  type : IsTypeName d.type

structure IsFlat (d : Declaration) : Prop where
  attributes : ∀ a ∈ d.attributes, ']' ∉ a
  generics : ∀ g ∈ d.generics, '>' ∉ g

end Declaration

/-- The declarations of the bindings in order. After each comes text that neither begins another one
nor continues its type. -/
inductive Written : List Binding → Text → Prop where
  | nil : Written [] []
  | cons {d : Declaration} {s filler bs t} : d.IsWellFormed → d.IsFlat → d.Writes s →
      '#' ∉ filler → (∀ c ∈ filler.head?, isTypeRest c = false) → Written bs t →
      Written (d.binding :: bs) (s ++ (filler ++ t))

variable {d : Declaration} {s r rest w u : Text} {ws : List Text} {c : Char} {b : Binding}
variable {bs : List Binding}

theorem Spaced.uncons (h : Spaced (w :: ws) r) :
    ∃ gap s, gap.all Text.isBlank = true ∧ r = gap ++ (w ++ s) ∧ Spaced ws s := by
  cases h with
  | cons hgap hs => exact ⟨_, _, hgap, rfl, hs⟩

theorem trimLeft_of_blank {gap : Text} (hgap : gap.all Text.isBlank = true)
    (hw : ∃ c ∈ w.head?, Text.isBlank c = false) (s : Text) :
    Text.trimLeft (gap ++ (w ++ s)) = w ++ s := by
  obtain ⟨c, hw, hc⟩ := hw
  cases w with
  | nil => cases hw
  | cons d w =>
    cases hw
    exact Text.trimLeft_append hgap hc (w ++ s)

theorem spaced_flatten (ws : List Text) : Spaced ws ws.flatten := by
  induction ws with
  | nil => exact .nil
  | cons w ws ih =>
    have hnone : ([] : Text).all Text.isBlank = true := rfl
    exact .cons hnone ih

theorem Spaced.append {ws' : List Text} {s' : Text} (h : Spaced ws s) (h' : Spaced ws' s') :
    Spaced (ws ++ ws') (s ++ s') := by
  induction h with
  | nil => exact h'
  | cons hgap _ ih =>
    rw [List.append_assoc, List.append_assoc]
    exact .cons hgap ih

theorem Spaced.token? {p : Text} (h : Spaced ((p ++ u) :: ws) r)
    (hp : ∃ c ∈ p.head?, Text.isBlank c = false) :
    ∃ s, Spaced ws s ∧ ∀ rest, Source.token? p (r ++ rest) = some (u ++ (s ++ rest)) := by
  obtain ⟨gap, s, hgap, rfl, hs⟩ := h.uncons
  refine ⟨s, hs, fun rest => ?_⟩
  have htrim := trimLeft_of_blank hgap hp (u ++ (s ++ rest))
  simp only [List.append_assoc]
  rw [Source.token?, htrim, Text.after?_append]

theorem Spaced.token?_whole (h : Spaced (w :: ws) r) (hw : ∃ c ∈ w.head?, Text.isBlank c = false) :
    ∃ s, Spaced ws s ∧ ∀ rest, Source.token? w (r ++ rest) = some (s ++ rest) := by
  rw [← List.append_nil w] at h
  exact h.token? hw

/-- The annotation is read, and its package is the literal's. -/
theorem annotation?_of_spaced {p : Text} (h : Spaced (annotationTokens p ++ ws) r) (hp : '"' ∉ p) :
    ∃ s, Spaced ws s ∧ ∀ rest, annotation? ('#' :: '[' :: (r ++ rest)) = some (p, s ++ rest) := by
  obtain ⟨s₁, h, hword⟩ := h.token?_whole ⟨'j', rfl, by decide⟩
  obtain ⟨s₂, h, hopen⟩ := h.token?_whole ⟨'(', rfl, by decide⟩
  obtain ⟨s₃, h, hquote⟩ := Spaced.token? (p := ['"']) (u := p ++ ['"']) h ⟨'"', rfl, by decide⟩
  obtain ⟨s₄, h, hclose⟩ := h.token?_whole ⟨')', rfl, by decide⟩
  obtain ⟨s₅, h, hend⟩ := h.token?_whole ⟨']', rfl, by decide⟩
  refine ⟨s₅, h, fun rest => ?_⟩
  have hcut : Text.cut? ['"'] (p ++ ['"'] ++ (s₃ ++ rest)) = some (p, s₃ ++ rest) := by
    rw [List.append_assoc]
    exact Text.cut?_char hp _
  have hhead : Text.after? ['#', '['] ('#' :: '[' :: (r ++ rest)) = some (r ++ rest) :=
    Text.after?_append ['#', '['] _
  simp only [annotation?, hhead, hword, hopen, hquote, hcut, hclose, hend, bind, Option.bind, pure]

theorem afterAttribute?_of_spaced {a : Text} (h : Spaced (Declaration.attributeToken a :: ws) r)
    (ha : ']' ∉ a) : ∃ s, Spaced ws s ∧ ∀ rest, afterAttribute? (r ++ rest) = some (s ++ rest) := by
  obtain ⟨s, hs, htoken⟩ :=
    Spaced.token? (p := ['#', '[']) (u := a ++ [']']) h ⟨'#', rfl, by decide⟩
  refine ⟨s, hs, fun rest => ?_⟩
  have hcut : Text.cut? [']'] (a ++ [']'] ++ (s ++ rest)) = some (a, s ++ rest) := by
    rw [List.append_assoc]
    exact Text.cut?_char ha _
  simp only [afterAttribute?, htoken, hcut, Option.map_some]

theorem afterAttributes_of_some (h : afterAttribute? s = some r) :
    afterAttributes s = afterAttributes r := by
  rw [afterAttributes]
  split
  · next hn => exact absurd (h.symm.trans hn) (Option.some_ne_none _)
  · next t ht => rw [Option.some.inj (h.symm.trans ht)]

theorem afterAttributes_of_none (h : afterAttribute? s = none) : afterAttributes s = s := by
  rw [afterAttributes]
  split
  · rfl
  · next t ht => exact absurd (ht.symm.trans h) (Option.some_ne_none _)

/-- No attribute begins with a token that does not begin like one. -/
theorem afterAttribute?_eq_none (h : Spaced (w :: ws) r)
    (hw : ∃ c ∈ w.head?, Text.isBlank c = false ∧ c ≠ '#') (rest : Text) :
    afterAttribute? (r ++ rest) = none := by
  obtain ⟨gap, s, hgap, rfl, -⟩ := h.uncons
  obtain ⟨c, hc, hblank, hne⟩ := hw
  have htrim := trimLeft_of_blank hgap ⟨c, hc, hblank⟩ (s ++ rest)
  have hnot : ¬ ['#', '['] <+: w ++ (s ++ rest) := by
    cases w with
    | nil => cases hc
    | cons x w =>
      cases hc
      exact fun hpre => hne (List.cons_prefix_cons.1 hpre).1.symm
  simp only [List.append_assoc, afterAttribute?, token?, htrim, Text.after?_eq_none_iff.2 hnot]

theorem afterAttributes_of_spaced {as : List Text}
    (h : Spaced (as.map Declaration.attributeToken ++ w :: ws) r) (has : ∀ a ∈ as, ']' ∉ a)
    (hw : ∃ c ∈ w.head?, Text.isBlank c = false ∧ c ≠ '#') :
    ∃ s, Spaced (w :: ws) s ∧ ∀ rest, afterAttributes (r ++ rest) = s ++ rest := by
  induction as generalizing r with
  | nil =>
    exact ⟨r, h, fun rest => afterAttributes_of_none (afterAttribute?_eq_none h hw rest)⟩
  | cons a as ih =>
    obtain ⟨ha, has⟩ := List.forall_mem_cons.1 has
    obtain ⟨s, hs, hone⟩ := afterAttribute?_of_spaced h ha
    obtain ⟨t, ht, hall⟩ := ih hs has
    exact ⟨t, ht, fun rest => (afterAttributes_of_some (hone rest)).trans (hall rest)⟩

theorem isBlank_of_isTypeStart (hc : isTypeStart c = true) : Text.isBlank c = false := by
  have hletter : c.isAlpha = (decide (65 ≤ c.val ∧ c.val ≤ 90) ||
      decide (97 ≤ c.val) && decide (c.val ≤ 122)) := rfl
  simp only [isTypeStart, hletter, Bool.or_eq_true, Bool.and_eq_true, decide_eq_true_eq,
    beq_iff_eq] at hc
  simp only [Text.isBlank, Char.within, Text.blankRanges, List.any_cons, List.any_nil,
    Bool.or_false, Bool.or_eq_false_iff, Bool.and_eq_false_iff, decide_eq_false_iff_not]
  rcases hc with (⟨hlow, hhigh⟩ | ⟨hlow, hhigh⟩) | rfl
  · have hlow : 65 ≤ c.toNat := hlow
    have hhigh : c.toNat ≤ 90 := hhigh
    omega
  · have hlow : 97 ≤ c.toNat := hlow
    have hhigh : c.toNat ≤ 122 := hhigh
    omega
  · decide

/-- A type name is read up to the first character that cannot go on with it. -/
theorem typeName?_append (h : IsTypeName w) (hrest : ∀ c ∈ rest.head?, isTypeRest c = false) :
    typeName? (w ++ rest) = some (w, rest) := by
  obtain ⟨c, t, rfl, hc, ht⟩ := h
  have hnone : rest.takeWhile isTypeRest = [] ∧ rest.dropWhile isTypeRest = rest := by
    cases rest with
    | nil => exact ⟨rfl, rfl⟩
    | cons x rest =>
      have hx := hrest x rfl
      exact ⟨by rw [List.takeWhile_cons, hx]; rfl, by rw [List.dropWhile_cons, hx]; rfl⟩
  rw [List.cons_append, typeName?, if_pos hc, List.takeWhile_append_of_pos (List.all_eq_true.1 ht),
    List.dropWhile_append_of_pos (List.all_eq_true.1 ht), hnone.1, hnone.2, List.append_nil]

/-- Generics end at the first closing bracket. -/
theorem afterGenerics?_append {gap : Text} (hgap : gap.all Text.isBlank = true) (hu : '>' ∉ u)
    (hu' : '{' ∉ u) (s : Text) :
    afterGenerics? (gap ++ '<' :: (u ++ '>' :: s)) = some (Text.trimLeft s) := by
  have hall : u.all (fun c => c != '>' && c != '{') = true := by
    refine List.all_eq_true.2 fun c hc => ?_
    have hne : c ≠ '>' := fun he => hu (he ▸ hc)
    have hne' : c ≠ '{' := fun he => hu' (he ▸ hc)
    simp [hne, hne']
  have hdrop := Text.dropWhile_run hall (x := '>') (by decide) s
  simp only [afterGenerics?, Text.trimLeft_append hgap (x := '<') (by decide), hdrop]

theorem afterGenerics?_of_type {gap : Text} (hgap : gap.all Text.isBlank = true) (hw : IsTypeName w)
    (s : Text) : afterGenerics? (gap ++ (w ++ s)) = some (w ++ s) := by
  obtain ⟨c, t, rfl, hc, -⟩ := hw
  have hne : c ≠ '<' := by
    rintro rfl
    exact absurd hc (by decide)
  rw [afterGenerics?, List.cons_append, Text.trimLeft_append hgap (isBlank_of_isTypeStart hc)]
  split
  · next he => exact absurd (List.cons.inj he).1 hne
  · rfl

theorem IsTypeName.trimLeft_append {gap : Text} (hw : IsTypeName w)
    (hgap : gap.all Text.isBlank = true) (s : Text) : Text.trimLeft (gap ++ (w ++ s)) = w ++ s := by
  obtain ⟨c, t, rfl, hc, -⟩ := hw
  exact trimLeft_of_blank hgap ⟨c, rfl, isBlank_of_isTypeStart hc⟩ s

theorem afterGenerics?_of_spaced {o : Option Text}
    (h : Spaced (o.toList.map Declaration.genericsToken ++ [w]) r) (hw : IsTypeName w)
    (ho : ∀ g ∈ o, '>' ∉ g) (ho' : ∀ g ∈ o, '{' ∉ g) (rest : Text) :
    afterGenerics? (r ++ rest) = some (w ++ rest) := by
  cases o with
  | none =>
    obtain ⟨gap, s, hgap, rfl, hs⟩ := Spaced.uncons h
    cases hs
    have hread := afterGenerics?_of_type hgap hw rest
    simpa using hread
  | some g =>
    obtain ⟨gap, s, hgap, rfl, hs⟩ := Spaced.uncons h
    obtain ⟨gap', t, hgap', rfl, ht⟩ := hs.uncons
    cases ht
    have hread := afterGenerics?_append hgap (ho g rfl) (ho' g rfl) (gap' ++ (w ++ rest))
    rw [hw.trimLeft_append hgap'] at hread
    simpa [Declaration.genericsToken] using hread

theorem implemented?_of_spaced {as : List Text}
    (h : Spaced (as.map Declaration.attributeToken ++ ("impl" : Text) :: ws) r)
    (has : ∀ a ∈ as, ']' ∉ a) :
    ∃ s, Spaced ws s ∧
      ∀ rest, implemented? (r ++ rest) = (afterGenerics? (s ++ rest)).bind typeName? := by
  obtain ⟨s₁, h₁, hattributes⟩ := afterAttributes_of_spaced h has ⟨'i', rfl, by decide⟩
  obtain ⟨s₂, h₂, himpl⟩ := h₁.token?_whole ⟨'i', rfl, by decide⟩
  refine ⟨s₂, h₂, fun rest => ?_⟩
  simp only [implemented?, hattributes, himpl, bind, Option.bind_some]

theorem binding?_of_annotation? {p : Text} (h : annotation? s = some (p, r)) :
    binding? s = (implemented? r).map fun x => (⟨x.1, p⟩, x.2) := by
  rw [binding?, h]
  exact Option.map_eq_bind.symm

/-- What a declaration holds is read, and nothing of what follows it. -/
theorem binding?_of_writes (hd : d.IsWellFormed) (hflat : d.IsFlat) (h : d.Writes s)
    (hrest : ∀ c ∈ rest.head?, isTypeRest c = false) :
    binding? (s ++ rest) = some (d.binding, rest) := by
  obtain ⟨r, rfl, hr⟩ := h
  obtain ⟨s₁, h₁, hpackage⟩ := annotation?_of_spaced hr hd.package
  obtain ⟨s₂, h₂, himplemented⟩ := implemented?_of_spaced h₁ hflat.attributes
  have hgenerics := afterGenerics?_of_spaced h₂ hd.type hflat.generics hd.generics rest
  have himpl : implemented? (s₁ ++ rest) = some (d.type, rest) := by
    rw [himplemented, hgenerics, Option.bind_some, typeName?_append hd.type hrest]
  rw [List.cons_append, List.cons_append, binding?_of_annotation? (hpackage rest), himpl]
  rfl

/-! The scan from left to right -/

theorem scan_of_some (h : binding? s = some (b, r)) : scan s = b :: scan r := by
  cases s with
  | nil => cases h
  | cons c s =>
    rw [scan]
    split
    · next b' r' h' =>
      obtain ⟨rfl, rfl⟩ := Prod.mk.inj (Option.some.inj (h.symm.trans h'))
      rfl
    · next hn => exact absurd (h.symm.trans hn) (Option.some_ne_none _)

theorem scan_of_none (h : binding? (c :: s) = none) : scan (c :: s) = scan s := by
  rw [scan]
  split
  · next b' r' h' => exact absurd (h'.symm.trans h) (Option.some_ne_none _)
  · rfl

theorem binding?_eq_none (hc : c ≠ '#') (s : Text) : binding? (c :: s) = none := by
  have hnone : Text.after? ['#', '['] (c :: s) = none :=
    Text.after?_eq_none_iff.2 fun hpre => hc (List.cons_prefix_cons.1 hpre).1.symm
  simp only [binding?, annotation?, hnone, bind, Option.bind]

theorem scan_append (hu : '#' ∉ u) (s : Text) : scan (u ++ s) = scan s := by
  induction u with
  | nil => rfl
  | cons c u ih =>
    obtain ⟨hc, hu⟩ := List.ne_and_not_mem_of_not_mem_cons hu
    rw [List.cons_append, scan_of_none (binding?_eq_none (Ne.symm hc) _), ih hu]

theorem Written.head?_ne (h : Written bs s) : ∀ c ∈ s.head?, isTypeRest c = false := by
  cases h with
  | nil => nofun
  | cons _ _ hs =>
    obtain ⟨r, rfl, -⟩ := hs
    rintro c ⟨⟩
    decide

theorem scan_written (h : Written bs s) : scan s = bs := by
  induction h with
  | nil => rw [scan]
  | @cons d s filler bs t hd hflat hs hfiller hhead ht ih =>
    have hrest : ∀ c ∈ (filler ++ t).head?, isTypeRest c = false := by
      cases filler with
      | nil => exact ht.head?_ne
      | cons x filler => exact hhead
    rw [scan_of_some (binding?_of_writes hd hflat hs hrest), scan_append hfiller, ih]

/-- A source made of declarations without nested brackets yields their bindings in order, with
repetitions, whatever stands before them and between them. -/
theorem bindings_written {front : Text} (hfront : '#' ∉ front) (h : Written bs s)
    (hcomments : HasNoComments (front ++ s)) : bindings (front ++ s) = bs := by
  rw [bindings, hcomments.withoutComments_eq, scan_append hfront, scan_written h]

theorem spaced_flatMap (ps : List (Text × Text)) (h : ∀ p ∈ ps, p.1.all Text.isBlank = true) :
    Spaced (ps.map (·.2)) (ps.flatMap fun p => p.1 ++ p.2) := by
  induction ps with
  | nil => exact .nil
  | cons p ps ih =>
    obtain ⟨hp, hps⟩ := List.forall_mem_cons.1 h
    rw [List.flatMap_cons, List.append_assoc]
    exact .cons hp (ih hps)

def wrapper : Declaration :=
  ⟨"a/b c", ["java_class(\"x\")", "doc[#"], some "'a, T: Into<", "Wrapper_1"⟩

def wrapperTokens : List (Text × Text) :=
  [([' '], "java_class"), (['\t', '\u3000'], ['(']), (['\n'], "\"a/b c\""), ([], [')']),
    ([' '], [']']), (['\n'], "#[java_class(\"x\")]"), ([], "#[doc[#]"), ([], "impl"),
    ([' '], "<'a, T: Into<>"), ([' '], "Wrapper_1")]

def wrapperText : Text := '#' :: '[' :: wrapperTokens.flatMap fun p => p.1 ++ p.2

theorem writes_wrapper : wrapper.Writes wrapperText := by
  refine ⟨_, rfl, ?_⟩
  have htokens : wrapperTokens.map (·.2) = wrapper.tokens := by decide
  exact htokens ▸ spaced_flatMap wrapperTokens (by decide)

def twoWrappers : Text :=
  wrapperText ++ ((" \x7b\x7d\n" : Text) ++ (wrapperText ++ (("<T> \x7b\x7d" : Text) ++ [])))

theorem written_twoWrappers :
    Written [⟨"Wrapper_1", "a/b c"⟩, ⟨"Wrapper_1", "a/b c"⟩] twoWrappers := by
  have hformed : wrapper.IsWellFormed :=
    ⟨by decide, by decide, 'W', "rapper_1", rfl, by decide, by decide⟩
  have hflat : wrapper.IsFlat := ⟨by decide, by decide⟩
  exact .cons hformed hflat writes_wrapper (by decide) (by rintro _ ⟨⟩; decide)
    (.cons hformed hflat writes_wrapper (by decide) (by rintro _ ⟨⟩; decide) .nil)

theorem bindings_written_twoWrappers :
    '#' ∉ "mod a;\n".toList ∧ HasNoComments ("mod a;\n" ++ twoWrappers) ∧
      Written [⟨"Wrapper_1", "a/b c"⟩, ⟨"Wrapper_1", "a/b c"⟩] twoWrappers ∧
      bindings ("mod a;\n" ++ twoWrappers) =
        [⟨"Wrapper_1", "a/b c"⟩, ⟨"Wrapper_1", "a/b c"⟩] :=
  have hfront : '#' ∉ "mod a;\n".toList := by decide
  have hcomments : HasNoComments ("mod a;\n" ++ twoWrappers) :=
    ⟨by decide +kernel, by decide +kernel⟩
  ⟨hfront, hcomments, written_twoWrappers,
    bindings_written hfront written_twoWrappers hcomments⟩

end CrateScaffold.Source
