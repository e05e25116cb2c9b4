import CrateScaffold.Proofs.Binding.Declaration
import Mathlib.Tactic.ByContra

/-!
Sources in which code and comments alternate. Blocks are removed before lines, so comments are
transparent as long as every line comment keeps its two slashes when blocks are removed and no block
that begins in it ends after it. A line comment that fails in this hides a binding that stands after
it, or breaks the one around it.
-/

namespace CrateScaffold.Source

inductive Piece where
  | code (s : Text)
  | line (s : Text)
  | block (s : Text)

namespace Piece

def text : Piece → Text
  | code s => s
  | line s => '/' :: '/' :: (s ++ ['\n'])
  | block s => '/' :: '*' :: (s ++ ['*', '/'])

def kept : Piece → Text
  | code s => s
  | line _ => ['\n']
  | block _ => []

inductive IsValid : Piece → Prop where
  | code {s} : HasNoComments s → s.getLast? ≠ some '/' → IsValid (.code s)
  | line {s} : '\n' ∉ s → IsValid (.line s)
  | block {s} : ¬ ['/', '*'] <:+: s → ¬ ['*', '/'] <:+: s → s.getLast? ≠ some '/' →
      IsValid (.block s)

end Piece

def textOf (ps : List Piece) : Text := ps.flatMap Piece.text

def codeOf (ps : List Piece) : Text := ps.flatMap Piece.kept

/-- Once the blocks that end in a text are removed, the second text is left of it up to the first
block that does not end in it, and the third one begins with that block. -/
inductive Strips : Text → Text → Text → Prop where
  | nil : Strips [] [] []
  | unclosed {s} : ¬ ['*', '/'] <:+: s → Strips ('/' :: '*' :: s) [] ('/' :: '*' :: s)
  | char {c s k r} : ¬ ['/', '*'] <+: c :: s → Strips s k r → Strips (c :: s) (c :: k) r
  | block {b s k r} : ¬ ['*', '/'] <:+: b → Strips s k r →
      Strips ('/' :: '*' :: (b ++ '*' :: '/' :: s)) k r

/-- Every block that begins in the text ends in it. -/
def ClosesBlocks (s : Text) : Prop := ∃ k, Strips s k []

/-- The line comment is still one when the blocks in it are removed. -/
def StaysLine (s : Text) : Prop := ['/', '/'] <+: withoutBlocks ('/' :: '/' :: s)

def LinesStay : List Piece → Prop
  | [] => True
  | .line s :: ps => StaysLine s ∧
      (ClosesBlocks ('/' :: '/' :: s) ∨ ¬ ['*', '/'] <:+: textOf ps) ∧ LinesStay ps
  | _ :: ps => LinesStay ps

variable {s t k r u : Text} {c : Char} {ps : List Piece}

/-! Blocks -/

theorem afterBlock?_cons (s : Text) :
    afterBlock? ('/' :: '*' :: s) = (Text.cut? ['*', '/'] s).map (·.2) := by
  have hafter : Text.after? ['/', '*'] ('/' :: '*' :: s) = some s := Text.after?_append ['/', '*'] s
  simp only [afterBlock?, hafter]

theorem afterBlock?_append (h : ¬ ['*', '/'] <:+: t) (s : Text) :
    afterBlock? ('/' :: '*' :: (t ++ '*' :: '/' :: s)) = some s := by
  rw [afterBlock?_cons, Text.cut?_pair (by decide) h, Option.map_some]

theorem afterBlock?_of_unclosed (h : ¬ ['*', '/'] <:+: s) :
    afterBlock? ('/' :: '*' :: s) = none := by
  rw [afterBlock?_cons, (Text.cut?_eq_none_iff (List.cons_ne_nil _ _)).2 h, Option.map_none]

theorem suffix_of_afterBlock? (h : afterBlock? s = some t) : t <:+ s := by
  by_cases hpre : ['/', '*'] <+: s
  · obtain ⟨u, rfl⟩ := hpre
    obtain ⟨⟨b, v⟩, hcut, rfl⟩ := Option.map_eq_some_iff.1 ((afterBlock?_cons u).symm.trans h)
    rw [Text.eq_of_cut? hcut]
    exact (List.suffix_append _ v).trans (List.suffix_append ['/', '*'] _)
  · rw [afterBlock?_eq_none hpre] at h
    cases h

theorem mem_of_mem_withoutBlocks (h : c ∈ withoutBlocks s) : c ∈ s := by
  fun_induction withoutBlocks s with
  | case1 => exact h
  | case2 d s r hr _ ih => exact (suffix_of_afterBlock? hr).subset (ih h)
  | case3 d s _ ih =>
    rcases List.mem_cons.1 h with rfl | h
    · exact List.mem_cons_self
    · exact List.mem_cons_of_mem d (ih h)

theorem withoutBlocks_cons_of_ne (hc : c ≠ '/') (s : Text) :
    withoutBlocks (c :: s) = c :: withoutBlocks s :=
  withoutBlocks_cons (afterBlock?_eq_none fun hin => hc (Text.pair_prefix_cons_iff.1 hin).1.symm)

/-- No block is removed where none ends. -/
theorem withoutBlocks_of_unclosed (h : ¬ ['*', '/'] <:+: s) : withoutBlocks s = s := by
  induction s with
  | nil => rw [withoutBlocks]
  | cons c s ih =>
    have hnone : afterBlock? (c :: s) = none := by
      by_cases hpre : ['/', '*'] <+: c :: s
      · obtain ⟨u, hu⟩ := hpre
        rw [← hu] at h ⊢
        exact afterBlock?_of_unclosed (Text.not_infix_tail (Text.not_infix_tail h))
      · exact afterBlock?_eq_none hpre
    rw [withoutBlocks_cons hnone, ih (Text.not_infix_tail h)]

theorem withoutBlocks_opener (h : ¬ ['*', '/'] <:+: s) :
    withoutBlocks ('/' :: '*' :: s) = '/' :: '*' :: s := by
  rw [withoutBlocks_cons (afterBlock?_of_unclosed h), withoutBlocks_cons_of_ne (by decide),
    withoutBlocks_of_unclosed h]

/-! What the blocks of a text leave of it -/

theorem exists_strips (s : Text) : ∃ k r, Strips s k r := by
  match s with
  | [] => exact ⟨[], [], .nil⟩
  | c :: t =>
    by_cases hpre : ['/', '*'] <+: c :: t
    · obtain ⟨u, hu⟩ := hpre
      cases hcut : Text.cut? ['*', '/'] u with
      | none =>
        have hnot := (Text.cut?_eq_none_iff (List.cons_ne_nil _ _)).1 hcut
        rw [← hu]
        exact ⟨_, _, .unclosed hnot⟩
      | some x =>
        obtain ⟨b, v⟩ := x
        have hnot := Text.not_infix_of_cut? (List.cons_ne_nil _ _) hcut
        have hsplit := Text.eq_of_cut? hcut
        have : v.length < (c :: t).length := by
          rw [← hu, hsplit]
          simp only [List.length_append, List.length_cons]
          omega
        obtain ⟨k, r, h⟩ := exists_strips v
        refine ⟨k, r, ?_⟩
        rw [← hu, hsplit, List.append_assoc]
        exact .block hnot h
    · obtain ⟨k, r, h⟩ := exists_strips t
      exact ⟨c :: k, r, .char hpre h⟩
  termination_by s.length
  decreasing_by
  · exact this
  · exact Nat.lt_succ_self t.length

namespace Strips

theorem rest_eq (h : Strips u k r) : r = [] ∨ ∃ s, r = '/' :: '*' :: s ∧ ¬ ['*', '/'] <:+: s := by
  induction h with
  | nil => exact .inl rfl
  | unclosed hs => exact .inr ⟨_, rfl, hs⟩
  | char _ _ ih => exact ih
  | block _ _ ih => exact ih

theorem withoutBlocks_append (h : Strips u k r) (hs : s.head? ≠ some '*') :
    withoutBlocks (u ++ s) = k ++ withoutBlocks (r ++ s) := by
  induction h with
  | nil => rfl
  | unclosed => rfl
  | @char c u k r hpre _ ih =>
    have hnot : ¬ ['/', '*'] <+: c :: (u ++ s) := by
      rw [Text.pair_prefix_cons_iff] at hpre ⊢
      cases u with
      | nil => exact fun hin => hs hin.2
      | cons d u => exact hpre
    rw [List.cons_append, withoutBlocks_cons (afterBlock?_eq_none hnot), ih, List.cons_append]
  | @block b u k r hb _ ih =>
    have hafter := withoutBlocks_of_afterBlock? (afterBlock?_append hb (u ++ s))
    rw [← ih, ← hafter]
    simp

theorem withoutBlocks_eq (h : Strips u k r) : withoutBlocks u = k ++ r := by
  have happend := h.withoutBlocks_append (s := []) (by simp)
  rw [List.append_nil, List.append_nil] at happend
  rw [happend]
  rcases h.rest_eq with rfl | ⟨s, rfl, hs⟩
  · rw [withoutBlocks]
  · rw [withoutBlocks_opener hs]

end Strips

/-- Before a line feed, blocks are removed from a text on its own when they end in it, or when none
ends after it. -/
theorem withoutBlocks_append_lf (h : ClosesBlocks u ∨ ¬ ['*', '/'] <:+: s) :
    withoutBlocks (u ++ '\n' :: s) = withoutBlocks u ++ '\n' :: withoutBlocks s := by
  have hlf : withoutBlocks ('\n' :: s) = '\n' :: withoutBlocks s :=
    withoutBlocks_cons_of_ne (by decide) s
  rcases h with ⟨k, h⟩ | hs
  · rw [h.withoutBlocks_append (s := '\n' :: s) (by simp), h.withoutBlocks_eq, List.nil_append, hlf,
      List.append_nil]
  · obtain ⟨k, r, h⟩ := exists_strips u
    rw [h.withoutBlocks_append (s := '\n' :: s) (by simp), h.withoutBlocks_eq, List.append_assoc]
    congr 1
    rcases h.rest_eq with rfl | ⟨o, rfl, ho⟩
    · exact hlf
    · have hboth : ¬ ['*', '/'] <:+: o ++ '\n' :: s := by
        refine Text.not_pair_infix_append ho (fun hin => ?_) (by simp)
        rcases List.infix_cons_iff.1 hin with hin | hin
        · exact absurd (Text.pair_prefix_cons_iff.1 hin).1 (by decide)
        · exact hs hin
      rw [List.cons_append, List.cons_append, withoutBlocks_opener hboth,
        withoutBlocks_of_unclosed hs]
      rfl

/-! Lines -/

theorem withoutLines_marker (s : Text) :
    withoutLines false ('/' :: '/' :: s) = withoutLines true s := by
  simp [withoutLines]

theorem withoutLines_inside (h : '\n' ∉ s) (t : Text) :
    withoutLines true (s ++ '\n' :: t) = '\n' :: withoutLines false t := by
  induction s with
  | nil => simp [withoutLines]
  | cons c s ih =>
    obtain ⟨hc, hs⟩ := List.ne_and_not_mem_of_not_mem_cons h
    rw [List.cons_append, withoutLines, if_pos rfl, if_neg (Ne.symm hc), ih hs]

theorem withoutLines_unended (h : '\n' ∉ s) : withoutLines true s = [] := by
  induction s with
  | nil => rfl
  | cons c s ih =>
    obtain ⟨hc, hs⟩ := List.ne_and_not_mem_of_not_mem_cons h
    rw [withoutLines, if_pos rfl, if_neg (Ne.symm hc), ih hs]

/-! Whole sources -/

theorem textOf_cons (p : Piece) (ps : List Piece) : textOf (p :: ps) = p.text ++ textOf ps :=
  List.flatMap_cons

theorem codeOf_cons (p : Piece) (ps : List Piece) : codeOf (p :: ps) = p.kept ++ codeOf ps :=
  List.flatMap_cons

def Piece.blockless : Piece → Text
  | .code s => s
  | .line s => withoutBlocks ('/' :: '/' :: s) ++ ['\n']
  | .block _ => []

theorem withoutBlocks_textOf (hvalid : ∀ p ∈ ps, p.IsValid) (hstay : LinesStay ps) :
    withoutBlocks (textOf ps) = ps.flatMap Piece.blockless := by
  induction ps with
  | nil => exact withoutBlocks_of_unclosed (s := []) (by decide)
  | cons p ps ih =>
    obtain ⟨hp, hps⟩ := List.forall_mem_cons.1 hvalid
    rw [textOf_cons, List.flatMap_cons]
    cases hp with
    | @code s hs hlast =>
      have happend := withoutBlocks_append (s := textOf ps) hs.block fun he => absurd he hlast
      rw [Piece.text, Piece.blockless, happend, ih hps hstay]
    | @line s hs =>
      obtain ⟨-, hclosed, hrest⟩ := hstay
      have happend := withoutBlocks_append_lf hclosed
      rw [← ih hps hrest]
      simpa [Piece.text, Piece.blockless] using happend
    | @block s _ hs _ =>
      have hafter := withoutBlocks_of_afterBlock? (afterBlock?_append hs (textOf ps))
      rw [ih hps hstay] at hafter
      simpa [Piece.text, Piece.blockless] using hafter

theorem withoutLines_blockless (hvalid : ∀ p ∈ ps, p.IsValid) (hstay : LinesStay ps) :
    withoutLines false (ps.flatMap Piece.blockless) = codeOf ps := by
  induction ps with
  | nil => rfl
  | cons p ps ih =>
    obtain ⟨hp, hps⟩ := List.forall_mem_cons.1 hvalid
    rw [codeOf_cons, List.flatMap_cons]
    cases hp with
    | @code s hs hlast =>
      have happend := withoutLines_append (s := ps.flatMap Piece.blockless) hs.line
        fun he => absurd he hlast
      rw [Piece.blockless, Piece.kept, happend, ih hps hstay]
    | @line s hs =>
      obtain ⟨⟨u, hu⟩, -, hrest⟩ := hstay
      have hlf : '\n' ∉ u := by
        intro hin
        have hmem := mem_of_mem_withoutBlocks (hu ▸ List.mem_append_right ['/', '/'] hin)
        simp [hs] at hmem
      have hline := withoutLines_inside hlf (ps.flatMap Piece.blockless)
      rw [ih hps hrest, ← withoutLines_marker] at hline
      rw [Piece.blockless, Piece.kept, ← hu]
      simpa using hline
    | block => exact ih hps hstay

theorem withoutComments_textOf (hvalid : ∀ p ∈ ps, p.IsValid) (hstay : LinesStay ps) :
    withoutComments (textOf ps) = codeOf ps := by
  rw [withoutComments, withoutBlocks_textOf hvalid hstay, withoutLines_blockless hvalid hstay]

theorem Piece.IsValid.code_kept {p : Piece} (h : p.IsValid) : (Piece.code p.kept).IsValid := by
  cases h with
  | code hs hlast => exact .code hs hlast
  | line =>
    rw [Piece.kept]
    exact .code ⟨by decide, by decide⟩ (by decide)
  | block =>
    rw [Piece.kept]
    exact .code ⟨by decide, by decide⟩ (by decide)

/-- What is kept of the pieces is code without comments again. -/
theorem withoutComments_codeOf (hvalid : ∀ p ∈ ps, p.IsValid) :
    withoutComments (codeOf ps) = codeOf ps := by
  have htext : textOf (ps.map fun p => .code p.kept) = codeOf ps := by
    rw [textOf, List.flatMap_map]
    rfl
  have hcode : codeOf (ps.map fun p => .code p.kept) = codeOf ps := by
    rw [codeOf, List.flatMap_map]
    rfl
  have hstay : LinesStay (ps.map fun p => .code p.kept) := by
    clear hvalid htext hcode
    induction ps with
    | nil => trivial
    | cons p ps ih => exact ih
  have hpieces : ∀ q ∈ ps.map fun p => Piece.code p.kept, q.IsValid := by
    intro q hq
    obtain ⟨p, hp, rfl⟩ := List.mem_map.1 hq
    exact (hvalid p hp).code_kept
  have hkept := withoutComments_textOf hpieces hstay
  rwa [htext, hcode] at hkept

theorem bindings_textOf (hvalid : ∀ p ∈ ps, p.IsValid) (hstay : LinesStay ps) :
    bindings (textOf ps) = bindings (codeOf ps) := by
  rw [bindings, bindings, withoutComments_textOf hvalid hstay, withoutComments_codeOf hvalid]

/-! Line comments that do not stay -/

def untyped (package : Text) : Text :=
  '#' :: '[' :: (annotationTokens package ++ [("impl" : Text)]).flatten

theorem untyped_eq (package : Text) : untyped package =
    ['#', '[', 'j', 'a', 'v', 'a', '_', 'c', 'l', 'a', 's', 's', '(', '"'] ++ package ++
      ['"', ')', ']', 'i', 'm', 'p', 'l'] := by
  rw [untyped, annotationTokens, String.toList_ofList, String.toList_ofList]
  simp

/-- What stands between the annotation and the type hides the binding. -/
theorem scan_untyped {package : Text} (hp : '"' ∉ package) (hhash : '#' ∉ (untyped package).tail)
    (s : Text) : scan (untyped package ++ '/' :: s) = scan s := by
  obtain ⟨s₁, h₁, hpackage⟩ :=
    annotation?_of_spaced (spaced_flatten (annotationTokens package ++ [("impl" : Text)])) hp
  have hattributes :
      Spaced (([] : List Text).map Declaration.attributeToken ++ [("impl" : Text)]) s₁ := h₁
  obtain ⟨s₂, h₂, hread⟩ := implemented?_of_spaced hattributes nofun
  cases h₂
  have himplemented : implemented? (s₁ ++ '/' :: s) = none := by
    rw [hread]
    rfl
  have hnone : binding? (untyped package ++ '/' :: s) = none := by
    rw [untyped, List.cons_append, List.cons_append, binding?_of_annotation? (hpackage _),
      himplemented, Option.map_none]
  have htail := scan_append (u := (untyped package).tail ++ ['/']) (s := s) (by simpa using hhash)
  rw [untyped, List.cons_append] at hnone ⊢
  rw [scan_of_none hnone, ← htail]
  simp [untyped]

/-- The part of a comment that lost a slash is all that is searched, whatever the package is. -/
theorem bindings_lost {package w : Text} (hp : '"' ∉ package)
    (hhash : '#' ∉ (untyped package).tail) (hcode : (Piece.code (untyped package)).IsValid)
    (hw : withoutBlocks ('/' :: '/' :: s) = '/' :: w) (hhead : w.head? ≠ some '/') :
    bindings (textOf [.code (untyped package), .line s, .code ['T']]) =
      scan (withoutLines false (w ++ ['\n', 'T'])) := by
  cases hcode with
  | code hnone hlast =>
    have hblocks : withoutBlocks ('/' :: '/' :: s ++ '\n' :: ['T']) =
        '/' :: (w ++ ['\n', 'T']) := by
      rw [withoutBlocks_append_lf (.inr (by decide)),
        withoutBlocks_of_unclosed (s := ['T']) (by decide), hw]
      rfl
    have hfirst := withoutBlocks_append (s := '/' :: '/' :: s ++ '\n' :: ['T']) hnone.block
      fun he => absurd he hlast
    have hline : ¬ ['/', '/'] <:+: untyped package ++ ['/'] :=
      Text.not_pair_infix_append hnone.line (fun hin => by simpa using hin.length_le)
        fun he => absurd he hlast
    have hsecond := withoutLines_append (s := w ++ ['\n', 'T']) hline fun _ => by
      cases w with
      | nil => decide
      | cons x w => exact hhead
    have htext : textOf [.code (untyped package), .line s, .code ['T']] =
        untyped package ++ ('/' :: '/' :: s ++ '\n' :: ['T']) := by
      simp [textOf, Piece.text]
    rw [List.append_assoc, List.append_assoc] at hsecond
    rw [htext, bindings, withoutComments, hfirst, hblocks]
    exact (congrArg scan hsecond).trans (scan_untyped hp hhash _)

theorem isValid_untyped {package : Text} (h : package ∈ [['a'], ['b']]) :
    (Piece.code (untyped package)).IsValid := by
  have hcases : ∀ p ∈ [['a'], ['b']], ¬ ['/', '/'] <:+: untyped p ∧ ¬ ['/', '*'] <:+: untyped p ∧
      (untyped p).getLast? ≠ some '/' := by
    simp only [untyped_eq]
    decide
  obtain ⟨hline, hblock, hlast⟩ := hcases package h
  exact .code ⟨hline, hblock⟩ hlast

/-- A line comment that loses a slash hides the binding around it. -/
theorem exists_ne_of_not_staysLine (h : ¬ StaysLine s) : ∃ package ∈ [['a'], ['b']],
    bindings (textOf [.code (untyped package), .line s, .code ['T']]) ≠
      bindings (codeOf [.code (untyped package), .line s, .code ['T']]) := by
  have hslash : withoutBlocks ('/' :: '/' :: s) = '/' :: withoutBlocks ('/' :: s) :=
    withoutBlocks_cons (afterBlock?_eq_none fun hin =>
      absurd (Text.pair_prefix_cons_iff.1 hin).2 (by simp))
  have hhead : (withoutBlocks ('/' :: s)).head? ≠ some '/' := by
    rw [StaysLine, hslash, Text.pair_prefix_cons_iff] at h
    exact fun he => h ⟨rfl, he⟩
  have hkept (package : Text) : codeOf [.code (untyped package), .line s, .code ['T']] =
      untyped package ++ ['\n', 'T'] := rfl
  have hcode : ∀ p ∈ [['a'], ['b']], '"' ∉ p ∧ '#' ∉ (untyped p).tail ∧
      bindings (untyped p ++ ['\n', 'T']) = [⟨['T'], p⟩] := by decide +kernel
  -- were the bindings right for both packages, the packages would be the same
  by_contra hall
  have heq (p : Text) (hp : p ∈ [['a'], ['b']]) :
      scan (withoutLines false (withoutBlocks ('/' :: s) ++ ['\n', 'T'])) = [⟨['T'], p⟩] := by
    obtain ⟨hquote, hhash, hfound⟩ := hcode p hp
    have hsame := not_ne_iff.1 fun hne => hall ⟨p, hp, hne⟩
    rwa [hkept, hfound, bindings_lost hquote hhash (isValid_untyped hp) hslash hhead] at hsame
  exact absurd ((heq ['a'] (by simp)).symm.trans (heq ['b'] (by simp))) (by decide)

def bound : Text := untyped ['a'] ++ [' ', 'T']

theorem isValid_bound : (Piece.code bound).IsValid := by
  rw [bound, untyped_eq]
  exact .code ⟨by decide, by decide⟩ (by decide)

/-- The block that is still open after a line ends with the next one that begins and ends. -/
theorem withoutBlocks_still_open {o : Text} (h : Strips u k ('/' :: '*' :: o))
    (ho : ¬ ['*', '/'] <:+: o) (ht : ¬ ['*', '/'] <:+: '\n' :: (t ++ ['/', '*'])) :
    withoutBlocks (u ++ '\n' :: (t ++ ['/', '*', '*', '/'])) = k := by
  have hboth : ¬ ['*', '/'] <:+: o ++ '\n' :: (t ++ ['/', '*']) :=
    Text.not_pair_infix_append ho ht (by simp)
  have hclosed := withoutBlocks_of_afterBlock? (afterBlock?_append hboth [])
  have happend := h.withoutBlocks_append (s := '\n' :: (t ++ ['/', '*', '*', '/'])) (by simp)
  have hrest : '/' :: '*' :: o ++ '\n' :: (t ++ ['/', '*', '*', '/']) =
      '/' :: '*' :: (o ++ '\n' :: (t ++ ['/', '*']) ++ ['*', '/']) := by
    simp
  rw [happend, hrest, hclosed, withoutBlocks, List.append_nil]

/-- Up to a block that is still open, a line comment is removed but for a slash at most. -/
theorem withoutLines_still_open (hlf : '\n' ∉ s) (hs : StaysLine s)
    (h : Strips ('/' :: '/' :: s) k r) :
    withoutLines false k = [] ∨ withoutLines false k = ['/'] := by
  have hkept := h.withoutBlocks_eq
  rw [StaysLine, hkept] at hs
  cases k with
  | nil => exact .inl rfl
  | cons c k =>
    obtain ⟨rfl, hd⟩ := Text.pair_prefix_cons_iff.1 hs
    cases k with
    | nil => exact .inr rfl
    | cons d k =>
      cases hd
      have hlfk : '\n' ∉ k := by
        intro hin
        have hmem : '\n' ∈ withoutBlocks ('/' :: '/' :: s) := by
          rw [hkept]
          simp [hin]
        simpa [hlf] using mem_of_mem_withoutBlocks hmem
      rw [withoutLines_marker, withoutLines_unended hlfk]
      exact .inl rfl

/-- A line comment that opens a block hides the binding after it. -/
theorem ne_of_not_closesBlocks (hlf : '\n' ∉ s) (hs : StaysLine s)
    (h : ¬ ClosesBlocks ('/' :: '/' :: s)) :
    bindings (textOf [.line s, .code bound, .block []]) ≠
      bindings (codeOf [.line s, .code bound, .block []]) := by
  have hcode : bindings (codeOf [.line s, .code bound, .block []]) = [⟨['T'], ['a']⟩] := by
    have hkept : codeOf [.line s, .code bound, .block []] = '\n' :: bound := rfl
    rw [hkept]
    decide +kernel
  obtain ⟨k, r, hstrips⟩ := exists_strips ('/' :: '/' :: s)
  have hopen : ∃ o, r = '/' :: '*' :: o ∧ ¬ ['*', '/'] <:+: o :=
    hstrips.rest_eq.resolve_left fun hr => h ⟨k, hr ▸ hstrips⟩
  obtain ⟨o, rfl, ho⟩ := hopen
  have htext : textOf [.line s, .code bound, .block []] =
      '/' :: '/' :: s ++ '\n' :: (bound ++ ['/', '*', '*', '/']) := by
    simp [textOf, Piece.text]
  rw [hcode, bindings, withoutComments, htext,
    withoutBlocks_still_open hstrips ho (by decide +kernel)]
  rcases withoutLines_still_open hlf hs hstrips with hk | hk
  · rw [hk]
    decide +kernel
  · rw [hk]
    decide +kernel

/-- Code and blocks only. -/
def HasNoLines (ps : List Piece) : Prop := ∀ p ∈ ps, p.IsValid ∧ ∀ s, p ≠ .line s

/-- Comments are transparent wherever each line comment stays one and opens no block that ends after
it. Both are needed: around every other line comment there is code that is read wrongly. -/
theorem comments_transparent (hvalid : ∀ p ∈ ps, p.IsValid) :
    (LinesStay ps → bindings (textOf ps) = bindings (codeOf ps)) ∧
    ∀ s, .line s ∈ ps → ¬ (StaysLine s ∧ ClosesBlocks ('/' :: '/' :: s)) →
      ∃ before after, HasNoLines before ∧ HasNoLines after ∧
        bindings (textOf (before ++ .line s :: after)) ≠
          bindings (codeOf (before ++ .line s :: after)) := by
  refine ⟨bindings_textOf hvalid, fun s hmem h => ?_⟩
  have hlf : '\n' ∉ s := by
    cases hvalid _ hmem with
    | line hlf => exact hlf
  by_cases hs : StaysLine s
  · have hopen : ¬ ClosesBlocks ('/' :: '/' :: s) := fun hc => h ⟨hs, hc⟩
    have hempty : (Piece.block []).IsValid := .block (by decide) (by decide) (by decide)
    refine ⟨[], [.code bound, .block []], nofun, ?_, ne_of_not_closesBlocks hlf hs hopen⟩
    exact List.forall_mem_cons.2
      ⟨⟨isValid_bound, nofun⟩, List.forall_mem_singleton.2 ⟨hempty, nofun⟩⟩
  · obtain ⟨package, hp, hne⟩ := exists_ne_of_not_staysLine hs
    have htype : (Piece.code ['T']).IsValid := .code ⟨by decide, by decide⟩ (by decide)
    exact ⟨[.code (untyped package)], [.code ['T']],
      List.forall_mem_singleton.2 ⟨isValid_untyped hp, nofun⟩,
      List.forall_mem_singleton.2 ⟨htype, nofun⟩, hne⟩

theorem strips_self (h : ¬ ['/', '*'] <:+: s) : Strips s s [] := by
  induction s with
  | nil => exact .nil
  | cons c s ih => exact .char (fun hpre => h hpre.isInfix) (ih (Text.not_infix_tail h))

theorem staysLine_of_strips (h : Strips ('/' :: '/' :: s) ('/' :: '/' :: k) r) : StaysLine s := by
  rw [StaysLine, h.withoutBlocks_eq]
  exact List.prefix_append ['/', '/'] (k ++ r)

def mixed : List Piece :=
  [.line ['/', '*', ' ', '*', '/'], .code "#[java_class(\"a\")]", .block " // ", .code "impl T;",
    .line bound]

def losing : List Piece := [.line [' ', '/', '*'], .code bound, .block []]

def finding : List Piece := [.line ('*' :: '*' :: '/' :: bound)]

theorem isValid_mixed : ∀ p ∈ mixed, p.IsValid := by
  simp only [mixed, bound, untyped_eq, List.forall_mem_cons]
  rw [String.toList_ofList, String.toList_ofList, String.toList_ofList]
  exact ⟨.line (by decide), .code ⟨by decide, by decide⟩ (by decide),
    .block (by decide) (by decide) (by decide), .code ⟨by decide, by decide⟩ (by decide),
    .line (by decide), nofun⟩

theorem linesStay_mixed : LinesStay mixed := by
  have hfirst : Strips ['/', '/', '/', '*', ' ', '*', '/'] ['/', '/'] [] :=
    .char (by decide) (.char (by decide) (.block (b := [' ']) (by decide) .nil))
  have hlast : Strips ('/' :: '/' :: bound) ('/' :: '/' :: bound) [] :=
    strips_self (by rw [bound, untyped_eq]; decide)
  exact ⟨staysLine_of_strips hfirst, .inl ⟨_, hfirst⟩, staysLine_of_strips hlast, .inl ⟨_, hlast⟩,
    trivial⟩

theorem isValid_losing : ∀ p ∈ losing, p.IsValid := by
  simp only [losing, List.forall_mem_cons]
  exact ⟨.line (by decide), isValid_bound, .block (by decide) (by decide) (by decide), nofun⟩

theorem bindings_misread : (bindings (textOf losing) = [] ∧
    bindings (codeOf losing) = [⟨['T'], ['a']⟩]) ∧
      bindings (textOf finding) = [⟨['T'], ['a']⟩] ∧ bindings (codeOf finding) = [] := by
  decide +kernel

theorem comments_transparent_mixed : (∀ p ∈ mixed, p.IsValid) ∧ LinesStay mixed ∧
    bindings (textOf mixed) = bindings (codeOf mixed) ∧ (∀ p ∈ losing, p.IsValid) ∧
    ¬ (StaysLine [' ', '/', '*'] ∧ ClosesBlocks ['/', '/', ' ', '/', '*']) ∧
    ∃ before after, HasNoLines before ∧ HasNoLines after ∧
      bindings (textOf (before ++ .line [' ', '/', '*'] :: after)) ≠
        bindings (codeOf (before ++ .line [' ', '/', '*'] :: after)) := by
  have hfails : ¬ (StaysLine [' ', '/', '*'] ∧ ClosesBlocks ['/', '/', ' ', '/', '*']) := by
    rintro ⟨hs, hc⟩
    have hsame := bindings_textOf isValid_losing ⟨hs, .inl hc, trivial⟩
    rw [bindings_misread.1.1, bindings_misread.1.2] at hsame
    cases hsame
  exact ⟨isValid_mixed, linesStay_mixed, (comments_transparent isValid_mixed).1 linesStay_mixed,
    isValid_losing, hfails,
    (comments_transparent isValid_losing).2 [' ', '/', '*'] List.mem_cons_self hfails⟩

/-- A binding outside of comments is lost, and one in a comment is found. -/
theorem comments_not_transparent :
    ¬ ((∀ p ∈ losing, p.IsValid) → bindings (textOf losing) = bindings (codeOf losing)) ∧
      ¬ ((∀ p ∈ finding, p.IsValid) → bindings (textOf finding) = bindings (codeOf finding)) := by
  have hvalid : ∀ p ∈ finding, p.IsValid := by
    simp only [finding, List.forall_mem_cons]
    exact ⟨.line (by rw [bound, untyped_eq]; decide), nofun⟩
  obtain ⟨⟨htext, hcode⟩, htext', hcode'⟩ := bindings_misread
  constructor
  · intro h
    exact absurd (htext.symm.trans ((h isValid_losing).trans hcode)) nofun
  · intro h
    exact absurd (htext'.symm.trans ((h hvalid).trans hcode')) nofun

end CrateScaffold.Source
