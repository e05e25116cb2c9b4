import CrateScaffold.Proofs.Binding.Declaration
import Mathlib.Data.List.Infix

/-!
Declarations with nested brackets. The scanner ends an attribute and a list of generics at the first
closing bracket. So a binding whose attributes nest is missed, and one whose generics nest is missed
or has the name for its type that happens to stand after that bracket.
-/

namespace CrateScaffold.Source

def bracket? (o c : Char) (n : Nat) (x : Char) : Option Nat :=
  if x = o then some (n + 1)
  else if x = c then
    match n with
    | 0 => none
    | n + 1 => some n
  else some n

def depth? (o c : Char) (n : Nat) (s : Text) : Option Nat := s.foldlM (bracket? o c) n

def IsNested (o c : Char) (s : Text) : Prop := depth? o c 0 s = some 0

instance (o c : Char) (s : Text) : Decidable (IsNested o c s) :=
  inferInstanceAs (Decidable (depth? o c 0 s = some 0))

def IsClosed (o c : Char) (s : Text) : Prop := ∃ n, depth? o c n s = some 0

/-- No text occurs again after it has occurred. -/
def OccursOnce (p s : Text) : Prop := ∀ x y, s = x ++ (p ++ y) → ¬ p <:+: y

/-- The name follows the first closing bracket inside the generics. -/
def FollowsBracket (name generics : Text) : Prop :=
  ∃ u gap v, generics = u ++ '>' :: (gap ++ (name ++ v)) ∧ '>' ∉ u ∧
    gap.all Text.isBlank = true ∧ ∀ c ∈ v.head?, isTypeRest c = false

/-- An implementation follows a closing bracket inside the attribute. -/
def HoldsImplementation (a : Text) : Prop :=
  ∃ u gap v, a = u ++ ']' :: (gap ++ ("impl" ++ v)) ∧ gap.all Text.isBlank = true

variable {s t r u v w y rest : Text} {ws as : List Text} {n : Nat} {c o : Char} {b : Binding}
variable {a : Text} {d : Declaration}

/-! What a match takes off is at the beginning -/

theorem suffix_of_after? {p : Text} (h : Text.after? p s = some r) : r <:+ s :=
  ⟨p, (Text.eq_append_of_after? h).symm⟩

theorem suffix_of_token? {p : Text} (h : token? p s = some r) : r <:+ s :=
  (suffix_of_after? h).trans (List.dropWhile_suffix _)

theorem suffix_of_cut? {p : Text} (h : Text.cut? p s = some (u, r)) : r <:+ s :=
  ⟨u ++ p, (Text.eq_of_cut? h).symm⟩

theorem suffix_of_afterAttribute? (h : afterAttribute? s = some r) : r <:+ s := by
  unfold afterAttribute? at h
  split at h
  · cases h
  · next t ht =>
    obtain ⟨⟨a, q⟩, hcut, rfl⟩ := Option.map_eq_some_iff.1 h
    exact (suffix_of_cut? hcut).trans (suffix_of_token? ht)

theorem afterAttributes_suffix (s : Text) : afterAttributes s <:+ s := by
  fun_induction afterAttributes s with
  | case1 => exact List.suffix_refl _
  | case2 s r h _ ih => exact ih.trans (suffix_of_afterAttribute? h)

theorem suffix_of_afterGenerics? (h : afterGenerics? s = some r) : r <:+ s := by
  have htrim : Text.trimLeft s <:+ s := List.dropWhile_suffix _
  unfold afterGenerics? at h
  split at h
  · next t ht =>
    split at h
    · next q hq =>
      cases h
      have hdrop : '>' :: q <:+ t := hq ▸ List.dropWhile_suffix _
      have hall := (List.dropWhile_suffix Text.isBlank).trans ((List.suffix_cons '>' q).trans hdrop)
      exact hall.trans ((List.suffix_cons '<' t).trans (ht ▸ htrim))
    · cases h
  · cases h
    exact htrim

theorem typeName?_eq_some_iff : typeName? s = some (t, r) ↔
    IsTypeName t ∧ s = t ++ r ∧ ∀ c ∈ r.head?, isTypeRest c = false := by
  constructor
  · intro h
    cases s with
    | nil => cases h
    | cons c s =>
      rw [typeName?] at h
      split at h
      · next hc =>
        cases h
        refine ⟨⟨c, _, rfl, hc, List.all_takeWhile⟩, ?_, fun d hd => ?_⟩
        · rw [List.cons_append, List.takeWhile_append_dropWhile]
        · have hne : s.dropWhile isTypeRest ≠ [] := fun hnil => by rw [hnil] at hd; cases hd
          rw [List.head?_eq_some_head hne] at hd
          cases hd
          exact List.head_dropWhile_not isTypeRest hne
      · cases h
  · rintro ⟨ht, rfl, hr⟩
    exact typeName?_append ht hr

/-- An annotation is read from its name on. -/
theorem exists_name_of_annotation? {p : Text} (h : annotation? s = some (p, r)) :
    ∃ x y, s = x ++ ("java_class" ++ y) ∧ r <:+ y := by
  simp only [annotation?, bind, Option.bind_eq_some_iff] at h
  obtain ⟨s₁, h₁, s₂, h₂, s₃, h₃, s₄, h₄, ⟨q, s₅⟩, h₅, s₆, h₆, s₇, h₇, h⟩ := h
  cases h
  have hname := Text.eq_append_of_after? h₂
  have hsplit : s₁ = s₁.takeWhile Text.isBlank ++ Text.trimLeft s₁ :=
    List.takeWhile_append_dropWhile.symm
  refine ⟨['#', '['] ++ s₁.takeWhile Text.isBlank, s₂, ?_, ?_⟩
  · rw [Text.eq_append_of_after? h₁, List.append_assoc]
    exact congrArg _ (hsplit.trans (congrArg _ hname))
  · exact (suffix_of_token? h₇).trans ((suffix_of_token? h₆).trans ((suffix_of_cut? h₅).trans
      ((suffix_of_token? h₄).trans (suffix_of_token? h₃))))

theorem exists_name_of_binding? (h : binding? s = some (b, r)) :
    ∃ x y, s = x ++ ("java_class" ++ y) ∧ r <:+ y := by
  simp only [binding?, implemented?, bind, Option.bind_eq_some_iff] at h
  obtain ⟨⟨p, s₁⟩, h₁, ⟨t, s₂⟩, ⟨s₃, h₃, s₄, h₄, h₅⟩, h⟩ := h
  obtain ⟨-, rfl⟩ := Prod.mk.inj (Option.some.inj h)
  obtain ⟨x, y, hs, hy⟩ := exists_name_of_annotation? h₁
  have htype : s₂ <:+ s₄ := by
    rw [(typeName?_eq_some_iff.1 h₅).2.1]
    exact List.suffix_append t s₂
  have himpl := (suffix_of_afterGenerics? h₄).trans ((suffix_of_token? h₃).trans
    (afterAttributes_suffix s₁))
  exact ⟨x, y, hs, htype.trans (himpl.trans hy)⟩

theorem scan_eq_nil (h : ¬ ("java_class" : Text) <:+: s) : scan s = [] := by
  induction s with
  | nil => rw [scan]
  | cons c s ih =>
    cases hb : binding? (c :: s) with
    | none => rw [scan_of_none hb, ih (Text.not_infix_tail h)]
    | some x =>
      obtain ⟨b, r⟩ := x
      obtain ⟨x, y, hs, -⟩ := exists_name_of_binding? hb
      exact absurd ⟨x, y, by rw [hs, List.append_assoc]⟩ h

theorem not_mem_of_blank {gap : Text} (hgap : gap.all Text.isBlank = true)
    (hc : Text.isBlank c = false) : c ∉ gap := fun hmem =>
  absurd (List.all_eq_true.1 hgap c hmem) (by rw [hc]; decide)

/-- Where the name of annotations occurs once, a declaration at the beginning is all that can be
found. -/
theorem scan_of_writes (hs : d.Writes s) (h : OccursOnce "java_class" (s ++ rest)) :
    scan (s ++ rest) = ((binding? (s ++ rest)).map (·.1)).toList := by
  cases hb : binding? (s ++ rest) with
  | some x =>
    obtain ⟨b, r⟩ := x
    obtain ⟨x, y, hsplit, hr⟩ := exists_name_of_binding? hb
    rw [scan_of_some hb, scan_eq_nil fun hin => h x y hsplit (hin.trans hr.isInfix)]
    rfl
  | none =>
    obtain ⟨r, rfl, hr⟩ := hs
    obtain ⟨gap, y, hgap, rfl, -⟩ := Spaced.uncons hr
    have hbefore : '#' ∉ '[' :: (gap ++ ("java_class" : Text)) := by
      simp only [List.mem_cons, List.mem_append, not_or]
      exact ⟨by decide, not_mem_of_blank hgap (by decide), by decide⟩
    have hafter : ¬ ("java_class" : Text) <:+: y ++ rest :=
      h ('#' :: '[' :: gap) (y ++ rest) (by simp only [List.cons_append, List.append_assoc])
    calc scan ('#' :: '[' :: (gap ++ ("java_class" ++ y)) ++ rest)
        = scan ('[' :: (gap ++ ("java_class" ++ y)) ++ rest) := scan_of_none hb
      _ = scan ('[' :: (gap ++ ("java_class" : Text)) ++ (y ++ rest)) := by
          simp only [List.cons_append, List.append_assoc]
      _ = [] := by rw [scan_append hbefore, scan_eq_nil hafter]

/-! Inside an attribute that nests -/

theorem IsClosed.of_suffix (h : IsClosed o c s) (hr : r <:+ s) : IsClosed o c r := by
  obtain ⟨u, rfl⟩ := hr
  obtain ⟨n, h⟩ := h
  rw [depth?, List.foldlM_append] at h
  obtain ⟨m, -, hm⟩ := Option.bind_eq_some_iff.1 h
  exact ⟨m, hm⟩

theorem depth?_cons (x : Char) (s : Text) :
    depth? o c n (x :: s) = (bracket? o c n x).bind fun m => depth? o c m s :=
  rfl

theorem mem_of_depth? (h : depth? o c (n + 1) s = some 0) : c ∈ s := by
  induction s generalizing n with
  | nil => cases h
  | cons x s ih =>
    rw [depth?_cons] at h
    unfold bracket? at h
    split at h
    · exact List.mem_cons_of_mem x (ih h)
    · split at h
      · next hx => exact hx ▸ List.mem_cons_self
      · exact List.mem_cons_of_mem x (ih h)

theorem IsClosed.mem (h : IsClosed o c (o :: s)) : c ∈ s := by
  obtain ⟨n, h⟩ := h
  have hopen : bracket? o c n o = some (n + 1) := if_pos rfl
  rw [depth?_cons, hopen, Option.bind_some] at h
  exact mem_of_depth? h

/-- An attribute inside another one ends inside it, at the latest with a bracket that it opens. -/
theorem suffix_of_afterAttribute?_of_isClosed (h : IsClosed '[' ']' y)
    (hr : afterAttribute? (y ++ ']' :: w) = some r) :
    ∃ z, ']' :: z <:+ y ∧ r = z ++ ']' :: w := by
  have hblank : Text.isBlank ']' = false := by decide
  rw [afterAttribute?, token?, Text.trimLeft_append_cons hblank] at hr
  split at hr
  · cases hr
  · next t ht =>
    obtain ⟨v, hv⟩ := Text.prefix_of_prefix_append (by decide)
      ⟨t, (Text.eq_append_of_after? ht).symm⟩
    have hsuffix : '[' :: v <:+ y := by
      have htrim : Text.trimLeft y <:+ y := List.dropWhile_suffix _
      rw [← hv] at htrim
      exact (List.suffix_cons '#' _).trans htrim
    obtain ⟨u, z, rfl, hu⟩ := List.eq_append_cons_of_mem (h.of_suffix hsuffix).mem
    rw [← hv, List.append_assoc, Text.after?_append] at ht
    cases ht
    rw [List.append_assoc, List.cons_append, Text.cut?_char hu, Option.map_some] at hr
    refine ⟨z, ?_, (Option.some.inj hr).symm⟩
    exact (List.suffix_append u _).trans ((List.suffix_cons '[' _).trans hsuffix)

/-- The scanner that has left an attribute at a bracket inside it stays behind such a bracket. -/
theorem afterAttributes_of_isClosed (h : IsClosed '[' ']' y) (hy : ']' :: y <:+ a) (w : Text) :
    ∃ z, ']' :: z <:+ a ∧ afterAttributes (y ++ ']' :: w) = z ++ ']' :: w := by
  generalize hs : y ++ ']' :: w = s
  fun_induction afterAttributes s generalizing y with
  | case1 => exact ⟨y, hy, hs.symm⟩
  | case2 s r hr _ ih =>
    obtain ⟨z, hz, rfl⟩ := suffix_of_afterAttribute?_of_isClosed h (hs ▸ hr)
    exact ih (h.of_suffix ((List.suffix_cons ']' z).trans hz))
      (hz.trans ((List.suffix_cons ']' y).trans hy)) rfl

theorem afterAttributes_of_nested (h : Spaced (as.map Declaration.attributeToken ++ ws) r)
    (has : ∀ a ∈ as, IsNested '[' ']' a) (hnest : ∃ a ∈ as, ']' ∈ a) (rest : Text) :
    ∃ a ∈ as, ∃ z w, ']' :: z <:+ a ∧ afterAttributes (r ++ rest) = z ++ ']' :: w := by
  induction as generalizing r with
  | nil =>
    obtain ⟨a, ha, -⟩ := hnest
    cases ha
  | cons a as ih =>
    obtain ⟨ha, has⟩ := List.forall_mem_cons.1 has
    by_cases hmem : ']' ∈ a
    · obtain ⟨s, -, htoken⟩ :=
        Spaced.token? (p := ['#', '[']) (u := a ++ [']']) h ⟨'#', rfl, by decide⟩
      obtain ⟨u, v, rfl, hu⟩ := List.eq_append_cons_of_mem hmem
      have hsuffix : ']' :: v <:+ u ++ ']' :: v := List.suffix_append u _
      have hclosed : IsClosed '[' ']' v :=
        IsClosed.of_suffix ⟨0, ha⟩ ((List.suffix_cons ']' v).trans hsuffix)
      have hone : afterAttribute? (r ++ rest) = some (v ++ ']' :: (s ++ rest)) := by
        have hcut := Text.cut?_char hu (v ++ ']' :: (s ++ rest))
        simpa [afterAttribute?, htoken] using ⟨u, hcut⟩
      obtain ⟨z, hz, hend⟩ := afterAttributes_of_isClosed hclosed hsuffix (s ++ rest)
      exact ⟨_, List.mem_cons_self, z, s ++ rest, hz, (afterAttributes_of_some hone).trans hend⟩
    · obtain ⟨s, hs, hone⟩ := afterAttribute?_of_spaced h hmem
      obtain ⟨b, hb, hbmem⟩ := hnest
      have hb : b ∈ as := (List.mem_cons.1 hb).resolve_left fun he => hmem (he ▸ hbmem)
      obtain ⟨a', ha', z, w, hz, hend⟩ := ih hs has ⟨b, hb, hbmem⟩
      exact ⟨a', List.mem_cons_of_mem a ha', z, w, hz,
        (afterAttributes_of_some (hone rest)).trans hend⟩

/-- Behind a bracket inside an attribute there is nothing to implement. -/
theorem implemented?_of_nested (h : Spaced (as.map Declaration.attributeToken ++ ws) r)
    (has : ∀ a ∈ as, IsNested '[' ']' a) (himpl : ∀ a ∈ as, ¬ HoldsImplementation a)
    (hnest : ∃ a ∈ as, ']' ∈ a) (rest : Text) : implemented? (r ++ rest) = none := by
  obtain ⟨_, ha, z, w, ⟨u, rfl⟩, hend⟩ := afterAttributes_of_nested h has hnest rest
  have hnot : ¬ ("impl" : Text) <+: Text.trimLeft z ++ ']' :: w := by
    intro hpre
    obtain ⟨v, hv⟩ := Text.prefix_of_prefix_append (by decide) hpre
    refine himpl _ ha ⟨u, z.takeWhile Text.isBlank, v, ?_, List.all_takeWhile⟩
    rw [hv, Text.trimLeft, List.takeWhile_append_dropWhile]
  have htoken : token? "impl" (z ++ ']' :: w) = none := by
    rw [token?, Text.trimLeft_append_cons (by decide), Text.after?_eq_none_iff]
    exact hnot
  simp only [implemented?, hend, htoken, bind, Option.bind_none]

/-! After generics that nest -/

theorem typeName?_append_bracket (s q : Text) :
    typeName? (s ++ '>' :: q) = (typeName? s).map fun x => (x.1, x.2 ++ '>' :: q) := by
  cases h : typeName? s with
  | some x =>
    obtain ⟨t, r⟩ := x
    obtain ⟨ht, rfl, hr⟩ := typeName?_eq_some_iff.1 h
    rw [List.append_assoc, Option.map_some]
    refine typeName?_append ht ?_
    cases r with
    | nil => rintro c ⟨⟩; decide
    | cons d r => exact hr
  | none =>
    cases s with
    | nil => rw [List.nil_append, typeName?, if_neg (by decide), Option.map_none]
    | cons c s =>
      have hc : ¬ isTypeStart c = true := fun hc => by rw [typeName?, if_pos hc] at h; cases h
      exact if_neg hc

theorem followsBracket_iff (ht : IsTypeName t) (hu : '>' ∉ u) :
    FollowsBracket t (u ++ '>' :: v) ↔ ∃ r, typeName? (Text.trimLeft v) = some (t, r) := by
  constructor
  · rintro ⟨u', gap, v', hsplit, hu', hgap, hv'⟩
    have hcut := Text.cut?_char hu v
    rw [hsplit, Text.cut?_char hu'] at hcut
    obtain ⟨-, rfl⟩ := Prod.mk.inj (Option.some.inj hcut)
    exact ⟨v', by rw [ht.trimLeft_append hgap, typeName?_append ht hv']⟩
  · rintro ⟨r, hr⟩
    obtain ⟨-, htrim, hr⟩ := typeName?_eq_some_iff.1 hr
    refine ⟨u, v.takeWhile Text.isBlank, r, ?_, hu, List.all_takeWhile, hr⟩
    rw [← htrim, Text.trimLeft, List.takeWhile_append_dropWhile]

theorem implemented?_of_bracket (h : Spaced (as.map Declaration.attributeToken ++
      [("impl" : Text), Declaration.genericsToken (u ++ '>' :: v), t]) r)
    (has : ∀ a ∈ as, ']' ∉ a) (hu : '>' ∉ u) (hu' : '{' ∉ u) (rest : Text) :
    ∃ q, implemented? (r ++ rest) = (typeName? (Text.trimLeft v)).map fun x => (x.1, x.2 ++ q) := by
  obtain ⟨s, hs, hread⟩ := implemented?_of_spaced h has
  obtain ⟨gap, y, hgap, rfl, -⟩ := hs.uncons
  have hgenerics :
      afterGenerics? (gap ++ (Declaration.genericsToken (u ++ '>' :: v) ++ y) ++ rest) =
        some (Text.trimLeft v ++ '>' :: (y ++ rest)) := by
    rw [← Text.trimLeft_append_cons (by decide), ← afterGenerics?_append hgap hu hu']
    simp [Declaration.genericsToken]
  refine ⟨'>' :: (y ++ rest), ?_⟩
  rw [hread, hgenerics, Option.bind_some, typeName?_append_bracket]

/-- When the implementation that is written is the one that is read. -/
theorem implemented?_iff {g : Text} (h : Spaced (as.map Declaration.attributeToken ++
      [("impl" : Text), Declaration.genericsToken g, t]) r)
    (hg : '{' ∉ g) (ht : IsTypeName t) (has : ∀ a ∈ as, IsNested '[' ']' a)
    (himpl : ∀ a ∈ as, ¬ HoldsImplementation a) (hrest : ∀ c ∈ rest.head?, isTypeRest c = false) :
    (implemented? (r ++ rest)).map (·.1) = some t ↔
      (∀ a ∈ as, ']' ∉ a) ∧ ('>' ∉ g ∨ FollowsBracket t g) := by
  by_cases hflat : ∀ a ∈ as, ']' ∉ a
  · rw [and_iff_right hflat]
    by_cases hmem : '>' ∈ g
    · obtain ⟨u, v, rfl, hu⟩ := List.eq_append_cons_of_mem hmem
      have hu' : '{' ∉ u := fun hin => hg (List.mem_append_left _ hin)
      obtain ⟨q, hq⟩ := implemented?_of_bracket h hflat hu hu' rest
      rw [hq, or_iff_right (not_not_intro hmem), followsBracket_iff ht hu]
      cases typeName? (Text.trimLeft v) with
      | none => simp
      | some x => simp [Prod.ext_iff]
    · obtain ⟨s, hs, hread⟩ := implemented?_of_spaced h hflat
      have hgenerics := afterGenerics?_of_spaced (o := some g) hs ht (by rintro _ ⟨⟩; exact hmem)
        (by rintro _ ⟨⟩; exact hg) rest
      rw [hread, hgenerics, Option.bind_some, typeName?_append ht hrest]
      exact iff_of_true rfl (.inl hmem)
  · have hnest : ∃ a ∈ as, ']' ∈ a := by simpa using hflat
    rw [implemented?_of_nested h has himpl hnest]
    exact iff_of_false nofun fun h => hflat h.1

/-- A declaration without nested brackets is found, whatever it holds. One that nests is found with
its type only if no attribute nests, and if the first bracket that closes in the generics happens to
be followed by the name of the type. -/
theorem bindings_nested_iff {p g : Text} (hp : '"' ∉ p) (hg : '{' ∉ g) (ht : IsTypeName t)
    (has : ∀ a ∈ as, IsNested '[' ']' a) (h : Declaration.Writes ⟨p, as, some g, t⟩ s)
    (hcomments : HasNoComments (s ++ " \x7b")) :
    ((∀ a ∈ as, ']' ∉ a) → '>' ∉ g → bindings (s ++ " \x7b") = [⟨t, p⟩]) ∧
      (OccursOnce "java_class" (s ++ " \x7b") → (∀ a ∈ as, ¬ HoldsImplementation a) →
        (bindings (s ++ " \x7b") = [⟨t, p⟩] ↔
          (∀ a ∈ as, ']' ∉ a) ∧ ('>' ∉ g ∨ FollowsBracket t g))) := by
  have hrest : ∀ c ∈ (" \x7b" : Text).head?, isTypeRest c = false := by
    rintro _ ⟨⟩
    decide
  have hform : Declaration.IsWellFormed ⟨p, as, some g, t⟩ := ⟨hp, by rintro _ ⟨⟩; exact hg, ht⟩
  rw [bindings, hcomments.withoutComments_eq]
  refine ⟨fun hflat hflat' => ?_, fun honce himpl => ?_⟩
  · have hb := binding?_of_writes hform ⟨hflat, by rintro _ ⟨⟩; exact hflat'⟩ h hrest
    rw [scan_of_some hb, scan_eq_nil (s := " \x7b") (by decide)]
    rfl
  · rw [scan_of_writes h honce]
    obtain ⟨r, rfl, hr⟩ := h
    obtain ⟨s, hs, hpackage⟩ := annotation?_of_spaced hr hp
    have hiff := implemented?_iff hs hg ht has himpl hrest
    rw [← hiff, List.cons_append, List.cons_append, binding?_of_annotation? (hpackage _)]
    cases implemented? (s ++ " \x7b") with
    | none => simp
    | some x => simp

def nestingText (p : Text) (as : List Text) (g t : Text) : Text :=
  '#' :: '[' :: ((annotationTokens p ++ (as.map Declaration.attributeToken ++
    [("impl" : Text), Declaration.genericsToken g])).flatten ++ ' ' :: t)

theorem writes_nestingText (p : Text) (as : List Text) (g t : Text) :
    Declaration.Writes ⟨p, as, some g, t⟩ (nestingText p as g t) := by
  have htype : Spaced [t] (' ' :: t) := by
    have hblank : [' '].all Text.isBlank = true := by decide
    have h := Spaced.cons (w := t) hblank .nil
    rwa [List.append_nil] at h
  have htokens := (spaced_flatten (annotationTokens p ++ (as.map Declaration.attributeToken ++
    [("impl" : Text), Declaration.genericsToken g]))).append htype
  refine ⟨_, rfl, ?_⟩
  simpa [Declaration.tokens, Declaration.implementation] using htokens

theorem occursOnce_iff {p : Text} :
    OccursOnce p s ↔ ∀ t ∈ s.tails, ∀ y ∈ Text.after? p t, ¬ p <:+: y := by
  constructor
  · intro h t ht y hy
    obtain ⟨x, rfl⟩ := (List.mem_tails _ _).1 ht
    exact h x y (by rw [Text.eq_append_of_after? hy])
  · rintro h x y rfl
    exact h _ ((List.mem_tails _ _).2 (List.suffix_append x _)) y (Text.after?_append p y)

theorem HoldsImplementation.infix (h : HoldsImplementation a) : ("impl" : Text) <:+: a := by
  obtain ⟨u, gap, v, rfl, -⟩ := h
  exact ⟨u ++ ']' :: gap, v, by simp⟩

def bracketedAttributes : List Text := ["cfg(x)", "doc = \"[b]\""]

/-- Generics that nest are no obstacle when the type's name follows their first bracket; attributes
that nest are one for every type. -/
theorem bindings_nested_iff_bracketed :
    ('"' ∉ "a".toList ∧ '{' ∉ "T: Into<W> W".toList ∧ IsTypeName "W" ∧
      (∀ a ∈ bracketedAttributes, IsNested '[' ']' a) ∧
      HasNoComments (nestingText "a" [] "T: Into<W> W" "W" ++ " \x7b") ∧
      HasNoComments (nestingText "a" bracketedAttributes "T: Into<W> W" "W" ++ " \x7b")) ∧
    bindings (nestingText "a" [] "T: Into<W> W" "W" ++ " \x7b") = [⟨"W", "a"⟩] ∧
    bindings (nestingText "a" bracketedAttributes "T: Into<W> W" "W" ++ " \x7b") ≠
      [⟨"W", "a"⟩] := by
  have hp : '"' ∉ "a".toList := by decide
  have hg : '{' ∉ "T: Into<W> W".toList := by decide
  have ht : IsTypeName "W" := ⟨'W', [], rfl, by decide, by decide⟩
  have has : ∀ a ∈ bracketedAttributes, IsNested '[' ']' a := by decide
  have hcomments (as : List Text) (h : as ∈ [[], bracketedAttributes]) :
      HasNoComments (nestingText "a" as "T: Into<W> W" "W" ++ " \x7b") ∧
        OccursOnce "java_class" (nestingText "a" as "T: Into<W> W" "W" ++ " \x7b") := by
    rw [occursOnce_iff]
    rcases List.mem_pair.1 h with rfl | rfl
    · exact ⟨⟨by decide +kernel, by decide +kernel⟩, by decide +kernel⟩
    · exact ⟨⟨by decide +kernel, by decide +kernel⟩, by decide +kernel⟩
  obtain ⟨hplain, honce⟩ := hcomments [] (by simp)
  obtain ⟨hplain', honce'⟩ := hcomments bracketedAttributes (by simp)
  have himpl : ∀ a ∈ bracketedAttributes, ¬ ("impl" : Text) <:+: a := by decide
  have hflat : ¬ ∀ a ∈ bracketedAttributes, ']' ∉ a := by decide
  have hfollows : FollowsBracket "W" "T: Into<W> W" :=
    ⟨"T: Into<W", [' '], [], rfl, by decide, by decide, by rintro _ ⟨⟩⟩
  have hfound := (bindings_nested_iff hp hg ht (List.forall_mem_nil _) (writes_nestingText ..)
    hplain).2 honce (List.forall_mem_nil _)
  have hmissed := (bindings_nested_iff hp hg ht has (writes_nestingText ..) hplain').2 honce'
    fun a ha h => himpl a ha h.infix
  exact ⟨⟨hp, hg, ht, has, hplain, hplain'⟩, hfound.2 ⟨List.forall_mem_nil _, .inr hfollows⟩,
    fun h => hflat (hmissed.1 h).1⟩

/-- What a declaration may hold when its brackets are balanced. -/
structure Nests (p : Text) (as : List Text) (g t : Text) : Prop where
  package : '"' ∉ p
  attributes : ∀ a ∈ as, IsNested '[' ']' a
  generics : IsNested '<' '>' g
  brace : '{' ∉ g
  arrow : ¬ ("->" : Text) <:+: g
  type : IsTypeName t
  comments : HasNoComments (nestingText p as g t ++ " \x7b")

/-- Attributes that nest and generics that nest hide the declaration; a lifetime bound gives it
another type. -/
theorem bindings_nested_missed :
    (Nests "a" ["cfg(any[x])"] "T" "W" ∧
      bindings (nestingText "a" ["cfg(any[x])"] "T" "W" ++ " \x7b") = []) ∧
    (Nests "a" [] "T: Into<String>" "W" ∧
      bindings (nestingText "a" [] "T: Into<String>" "W" ++ " \x7b") = []) ∧
    (Nests "a" [] "F: for<'a> Fn(&'a str)" "W" ∧
      bindings (nestingText "a" [] "F: for<'a> Fn(&'a str)" "W" ++ " \x7b") = [⟨"Fn", "a"⟩]) := by
  have ht : IsTypeName "W" := ⟨'W', [], rfl, by decide, by decide⟩
  refine ⟨⟨⟨?_, ?_, ?_, ?_, ?_, ht, ?_, ?_⟩, ?_⟩, ⟨⟨?_, ?_, ?_, ?_, ?_, ht, ?_, ?_⟩, ?_⟩,
    ⟨?_, ?_, ?_, ?_, ?_, ht, ?_, ?_⟩, ?_⟩
  all_goals decide +kernel

end CrateScaffold.Source
