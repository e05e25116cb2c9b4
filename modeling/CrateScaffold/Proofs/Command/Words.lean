import CrateScaffold.Proofs.Command.Line
import CrateScaffold.Proofs.FileTree.PathText

/-!
Where the values of a command line come from, and how a line that is not accepted ends the program.
A path comes from a word or is the usual one, and only a null character in it is not reported; so
every line of words without one ends with an exit code or is accepted.
-/

namespace CrateScaffold.Command

variable {t : FileTree} {environment : Environment} {c : Option Command} {ps : List Parameter}
variable {w v spelling : Text} {ws : List Text} {next : Option Text} {taken on anywhere : Bool}
variable {l : Line} {o : Occurrence} {os : List Occurrence} {p : Parameter} {s : Stop}

structure IsFromWord (ps : List Parameter) (w : Text) (next : Option Text) (o : Occurrence) :
    Prop where
  parameter : o.parameter ∈ ps
  value : ∀ v, o.given = .value v → v ⊆ w ∨ next = some v

theorem mem_of_spelled? (h : spelled? ps v = some (p, on)) : p ∈ ps := by
  unfold spelled? at h
  split at h
  · next hfind =>
    cases h
    exact List.mem_of_find?_eq_some hfind
  · cases h

theorem isFromWord_of_takeNext (hp : p ∈ ps) (h : takeNext p spelling next = .ok (o, taken)) :
    IsFromWord ps w next o := by
  unfold takeNext at h
  split at h
  · cases h
    refine ⟨hp, fun v hv => .inr ?_⟩
    cases hv
    rfl
  · cases h

theorem isFromWord_of_readLetters (h : readLetters ps next v = .ok (os, taken)) (hv : v ⊆ w)
    (ho : o ∈ os) : IsFromWord ps w next o := by
  induction v generalizing os taken with
  | nil =>
    cases h
    cases ho
  | cons d v ih =>
    have hrest : v ⊆ w := fun e he => hv (List.mem_cons_of_mem d he)
    rw [readLetters] at h
    split at h
    · cases h
    · next q on hq =>
      have hmem := mem_of_spelled? hq
      split at h
      · obtain ⟨⟨os', taken'⟩, hread, hpure⟩ := bind_eq_ok.1 h
        cases hpure
        rcases List.mem_cons.1 ho with rfl | ho
        · refine ⟨hmem, fun u hu => ?_⟩
          cases on <;> cases hu
        · exact ih hread hrest ho
      · split at h
        · cases htake : takeNext q ['-', d] next with
          | error f =>
            rw [htake] at h
            cases h
          | ok x =>
            rw [htake] at h
            cases h
            rw [List.mem_singleton.1 ho]
            exact isFromWord_of_takeNext hmem htake
        · cases h
          rw [List.mem_singleton.1 ho]
          refine ⟨hmem, fun u hu => .inl ?_⟩
          cases hu
          exact hrest

theorem isFromWord_of_readLong {value : Option Text} (hp : p ∈ ps)
    (hvalue : ∀ v, value = some v → v ⊆ w)
    (h : readLong p on spelling value next = .ok (o, taken)) : IsFromWord ps w next o := by
  unfold readLong at h
  split at h
  · cases h
    refine ⟨hp, fun u hu => ?_⟩
    cases on <;> cases hu
  · cases h
  · cases h
    refine ⟨hp, fun u hu => .inl ?_⟩
    cases hu
    exact hvalue _ rfl
  · exact isFromWord_of_takeNext hp h

theorem subset_of_splitValue (h : (splitValue w).2 = some v) : v ⊆ w := by
  unfold splitValue at h
  split at h
  · next before after hcut =>
    cases h
    rw [Text.eq_of_cut? hcut]
    exact List.subset_append_right _ _
  · cases h

theorem isFromWord_of_readWord (h : readWord ps w next = .ok (os, taken)) (ho : o ∈ os) :
    IsFromWord ps w next o := by
  unfold readWord at h
  simp only at h
  split at h
  · next q on hq =>
    have hmem : q ∈ ps := by
      split at hq
      · exact mem_of_spelled? hq
      · cases hq
    cases hlong : readLong q on (splitValue w).1 (splitValue w).2 next with
    | error f =>
      rw [hlong] at h
      cases h
    | ok x =>
      rw [hlong] at h
      cases h
      rw [List.mem_singleton.1 ho]
      exact isFromWord_of_readLong hmem (fun v => subset_of_splitValue) hlong
  · split at h
    · cases h
    · exact isFromWord_of_readLetters h (List.drop_subset 1 w) ho

structure Line.IsFrom (l : Line) (ps : List Parameter) (ws : List Text) : Prop where
  parameters : ∀ o ∈ l.given, o.parameter ∈ ps
  values : ∀ o ∈ l.given, ∀ v, o.given = .value v → ∃ w ∈ ws, v ⊆ w
  words : l.words ⊆ ws

theorem Line.IsFrom.add (h : l.IsFrom ps ws) (hos : ∀ o ∈ os, IsFromWord ps w next o)
    {all : List Text} (hw : w ∈ all) (hws : ws ⊆ all) (hnext : ∀ v, next = some v → v ∈ all) :
    (l.add os).IsFrom ps all := by
  refine ⟨fun o ho => ?_, fun o ho v hv => ?_, fun u hu => hws (h.words hu)⟩
  · rcases List.mem_append.1 ho with ho | ho
    · exact (hos o ho).parameter
    · exact h.parameters o ho
  · rcases List.mem_append.1 ho with ho | ho
    · rcases (hos o ho).value v hv with hsub | hsome
      · exact ⟨w, hw, hsub⟩
      · exact ⟨v, hnext v hsome, List.Subset.refl v⟩
    · obtain ⟨u, hu, hsub⟩ := h.values o ho v hv
      exact ⟨u, hws hu, hsub⟩

theorem Line.isFrom_of_read (h : Line.read ps anywhere ws = .ok l) : l.IsFrom ps ws := by
  fun_induction Line.read ps anywhere ws generalizing l with
  | case1 =>
    cases h
    exact ⟨by simp, by simp, List.Subset.refl _⟩
  | case2 ws =>
    cases h
    exact ⟨by simp, by simp, List.subset_cons_self _ _⟩
  | case3 w ws hdashes hparameter f hword => cases h
  | case4 w hdashes hparameter os v ws hword ih =>
    obtain ⟨l', hread, rfl⟩ := exists_of_map_eq_ok h
    refine (ih hread).add (fun o => isFromWord_of_readWord hword) List.mem_cons_self ?_ ?_
    · exact fun u hu => List.mem_cons_of_mem w (List.mem_cons_of_mem v hu)
    · rintro u ⟨⟩
      exact List.mem_cons_of_mem w List.mem_cons_self
  | case5 w hdashes hparameter os taken ws hrest hword ih =>
    obtain ⟨l', hread, rfl⟩ := exists_of_map_eq_ok h
    refine (ih hread).add (fun o => isFromWord_of_readWord hword) List.mem_cons_self
      (List.subset_cons_self w ws) fun u hu => ?_
    exact List.mem_cons_of_mem w (List.mem_of_mem_head? hu)
  | case6 w ws hdashes hparameter hanywhere ih =>
    obtain ⟨l', hread, rfl⟩ := exists_of_map_eq_ok h
    obtain ⟨hparameters, hvalues, hwords⟩ := ih hread
    refine ⟨hparameters, fun o ho v hv => ?_, List.cons_subset_cons w hwords⟩
    obtain ⟨u, hu, hsub⟩ := hvalues o ho v hv
    exact ⟨u, List.mem_cons_of_mem w hu, hsub⟩
  | case7 w ws hdashes hparameter hanywhere =>
    cases h
    exact ⟨by simp, by simp, List.Subset.refl _⟩

/-- A null character stands in one of the words. -/
def HasNull (ws : List Text) : Prop := ∃ w ∈ ws, '\x00' ∈ w

instance (ws : List Text) : Decidable (HasNull ws) :=
  inferInstanceAs (Decidable (∃ w ∈ ws, '\x00' ∈ w))

theorem HasNull.of_subset {ws' : List Text} (h : HasNull ws) (hsub : ws ⊆ ws') :
    HasNull ws' := by
  obtain ⟨w, hw, hnull⟩ := h
  exact ⟨w, hsub hw, hnull⟩

theorem null_mem_of_hasNull (h : FileTree.hasNull (.ofText v) = true) : '\x00' ∈ v := by
  obtain ⟨part, hpart, hnull⟩ := List.any_eq_true.1 h
  have hsplit : part ∈ Text.splitOn '/' v := (List.mem_filter.1 hpart).1
  exact Text.mem_of_mem_splitOn hsplit (by simpa using hnull)

theorem hasNull_of_stat {p : Path} (h : t.stat p = .error .null) : FileTree.hasNull p = true := by
  rcases bind_eq_error.1 h with hlocate | ⟨⟨m, _ | e⟩, -, hrest⟩
  · unfold FileTree.locate at hlocate
    split at hlocate
    · next hnull => exact hnull
    · obtain ⟨cause, -, hf⟩ := mapError_eq_error.1 hlocate
      cases hf
  · cases hrest
  · cases hrest

theorem null_mem_of_stat (h : t.stat (.ofText v) = .error .null) : '\x00' ∈ v :=
  null_mem_of_hasNull (hasNull_of_stat h)

/-- What is at a path as it is written is found at the path. -/
theorem stat_of_entryAt {x : Entry} (h : entryAt t v = .ok (some x)) :
    t.stat (.ofText v) = .ok x := by
  unfold entryAt at h
  split at h
  · cases h
  · split at h
    · cases h
    · cases h
    · next hstat =>
      cases h
      exact hstat
    · split at h
      · cases h
      · next hstat _ =>
        cases h
        exact hstat

/-- Only a null character keeps a path from being checked. -/
theorem null_mem_of_check {r : PathRule} {f : FileTree.Fault} (h : r.check t v = .error f) :
    '\x00' ∈ v := by
  have hentry : entryAt t v = .error f := by
    rcases bind_eq_error.1 h with hentry | ⟨e, -, hrest⟩
    · exact hentry
    · split at hrest <;> cases hrest
  unfold entryAt at hentry
  split at hentry
  · cases hentry
  · split at hentry
    · next hstat => exact null_mem_of_stat hstat
    · cases hentry
    · cases hentry
    · cases hentry

/-- A run that stops so ends with one of the exit codes of the program. -/
def Stop.IsClean (s : Stop) : Prop := ∃ n ≤ 2, s.code? = some n

theorem Stop.isClean_ofWord (f : WordFault) : (Stop.ofWord c f).IsClean := by
  cases f <;> exact ⟨2, le_rfl, rfl⟩

theorem Stop.isClean_usage (f : UsageFault) : (Stop.usage c f).IsClean := ⟨2, le_rfl, rfl⟩

def Parameter.hasPlainPath (p : Parameter) : Bool :=
  match p.form with
  | .path _ => p.key.isNone && p.usual.all fun v => '\x00' ∉ v
  | _ => true

theorem hasPlainPath_of_mem_general : ∀ p ∈ general, p.hasPlainPath = true := by decide

theorem hasPlainPath_of_mem_parameters (c : Command) :
    ∀ p ∈ parameters c, p.hasPlainPath = true := by
  cases c <;> decide

theorem Line.IsFrom.value_cases (h : l.IsFrom ps ws) (hkey : p.key = none)
    (hv : l.value? environment p = some v) : (∃ w ∈ ws, v ⊆ w) ∨ p.usual = some v := by
  unfold Line.value? at hv
  rw [hkey] at hv
  rcases Option.or_eq_some_iff.1 hv with hor | ⟨-, husual⟩
  · left
    rcases Option.or_eq_some_iff.1 hor with hgiven | ⟨-, hinherited⟩
    · obtain ⟨given, hlast, hvalue⟩ := Option.bind_eq_some_iff.1 hgiven
      obtain ⟨o, ho, rfl⟩ := Option.map_eq_some_iff.1 hlast
      have hmem := (List.mem_filter.1 (List.mem_of_getLast? ho)).1
      refine h.values o hmem v ?_
      cases hg : o.given with
      | on => rw [hg] at hvalue; cases hvalue
      | off => rw [hg] at hvalue; cases hvalue
      | value u => rw [hg] at hvalue; cases hvalue; rfl
    · cases hinherited
  · exact .inr husual

theorem isClean_or_hasNull_of_stopAt {r : PathRule} {shown : Text}
    (h : stopAt c shown (r.check t v) = .error s) (hv : '\x00' ∈ v → HasNull ws) :
    s.IsClean ∨ HasNull ws := by
  unfold stopAt at h
  split at h
  · next f hcheck => exact .inr (hv (null_mem_of_check hcheck))
  · cases h
    exact .inl (Stop.isClean_usage _)
  · cases h

/-- A value that is not taken ends the program, unless a null character came with it. -/
theorem isClean_or_hasNull_of_checkValue (hl : l.IsFrom ps ws) (hp : p.hasPlainPath = true)
    (h : checkValue c t environment l p = .error s) : s.IsClean ∨ HasNull ws := by
  unfold checkValue at h
  split at h
  · next v hv =>
    cases hform : p.form with
    | path r =>
      simp only [Parameter.hasPlainPath, hform, Bool.and_eq_true, Option.isNone_iff_eq_none] at hp
      rw [hform] at h
      refine isClean_or_hasNull_of_stopAt (r := r) h fun hnull => ?_
      rcases hl.value_cases hp.1 hv with ⟨w, hw, hsub⟩ | husual
      · exact ⟨w, hw, hsub hnull⟩
      · have hplain := hp.2
        rw [husual] at hplain
        exact absurd hnull (of_decide_eq_true hplain)
    | flag => rw [hform] at h; cases h
    | text => rw [hform] at h; cases h
    | integer =>
      rw [hform] at h
      simp only [Form.check] at h
      split at h <;> cases h
      exact .inl (Stop.isClean_usage _)
    | choice names =>
      rw [hform] at h
      simp only [Form.check] at h
      split at h <;> cases h
      exact .inl (Stop.isClean_usage _)
  · cases h

theorem isClean_or_hasNull_of_checkArgument (hl : l.words ⊆ ws)
    (h : checkArgument c t l = .error s) : s.IsClean ∨ HasNull ws := by
  unfold checkArgument at h
  split at h
  · cases h
  · next r hr =>
    split at h
    · cases h
      exact .inl (Stop.isClean_usage _)
    · next w rest hwords =>
      refine isClean_or_hasNull_of_stopAt h fun hnull => ⟨w, hl ?_, hnull⟩
      rw [hwords]
      exact List.mem_cons_self

theorem isClean_of_checkUrgent (h : checkUrgent l = .error s) : s.IsClean := by
  unfold checkUrgent at h
  split at h
  · cases h
    split
    · exact ⟨0, by omega, rfl⟩
    · exact ⟨0, by omega, rfl⟩
  · cases h

theorem isClean_or_hasNull_of_readLine (hps : ∀ p ∈ ps, p.hasPlainPath = true)
    (h : readLine c ps t environment ws = .error s) : s.IsClean ∨ HasNull ws := by
  rcases bind_eq_error.1 h with hread | ⟨l, hread, h⟩
  · obtain ⟨f, -, rfl⟩ := mapError_eq_error.1 hread
    exact .inl (Stop.isClean_ofWord f)
  have hl := Line.isFrom_of_read (mapError_eq_ok.1 hread)
  rcases bind_eq_error.1 h with hurgent | ⟨⟨⟩, -, h⟩
  · exact .inl (isClean_of_checkUrgent hurgent)
  rcases bind_eq_error.1 h with hgiven | ⟨⟨⟩, -, h⟩
  · obtain ⟨p, hp, hfail⟩ := exists_of_forM_eq_error hgiven
    obtain ⟨o, ho, rfl⟩ := List.mem_map.1 (List.mem_eraseDups.1 hp)
    exact isClean_or_hasNull_of_checkValue hl (hps _ (hl.parameters o ho)) hfail
  rcases bind_eq_error.1 h with hargument | ⟨⟨⟩, -, h⟩
  · exact isClean_or_hasNull_of_checkArgument hl.words hargument
  rcases bind_eq_error.1 h with hothers | ⟨⟨⟩, -, h⟩
  · obtain ⟨p, hp, hfail⟩ := exists_of_forM_eq_error hothers
    exact isClean_or_hasNull_of_checkValue hl (hps _ (List.mem_filter.1 hp).1) hfail
  · cases h

theorem isClean_or_hasNull_of_commandOf (h : commandOf t environment w ws = .error s) :
    s.IsClean ∨ HasNull (w :: ws) := by
  unfold commandOf at h
  split at h
  · cases h
  · split at h
    · rcases bind_eq_error.1 h with hread | ⟨l, -, h⟩
      · exact isClean_or_hasNull_of_readLine hasPlainPath_of_mem_general hread
      · cases h
        exact .inl (Stop.isClean_usage _)
    · cases h
      exact .inl (Stop.isClean_usage _)

/-- A command line that is not accepted ends the program with an exit code, unless one of its words
holds a null character. -/
theorem isClean_or_hasNull_of_read (h : Command.read t environment ws = .error s) :
    s.IsClean ∨ HasNull ws := by
  unfold Command.read at h
  rcases bind_eq_error.1 h with hgeneral | ⟨l, hgeneral, h⟩
  · exact isClean_or_hasNull_of_readLine hasPlainPath_of_mem_general hgeneral
  have hwords : l.words ⊆ ws :=
    (Line.isFrom_of_read (readLine_eq_ok.1 hgeneral).1).words
  split at h
  · cases h
    exact .inl (Stop.isClean_usage _)
  · next w rest hsplit =>
    rw [hsplit] at hwords
    have hrest : rest ⊆ ws := fun v hv => hwords (List.mem_cons_of_mem w hv)
    rcases bind_eq_error.1 h with hcommand | ⟨c, -, h⟩
    · exact (isClean_or_hasNull_of_commandOf hcommand).imp_right (·.of_subset hwords)
    split at h
    · cases h
      exact .inl (Stop.isClean_usage _)
    · rcases bind_eq_error.1 h with hline | ⟨line, -, h⟩
      · have hparameters := hasPlainPath_of_mem_parameters c
        exact (isClean_or_hasNull_of_readLine hparameters hline).imp_right (·.of_subset hrest)
      · rcases bind_eq_error.1 h with hextra | ⟨⟨⟩, -, h⟩
        · unfold checkExtra at hextra
          split at hextra
          · cases hextra
          · cases hextra
            exact .inl (Stop.isClean_usage _)
        · cases h

end CrateScaffold.Command
