import CrateScaffold.Binding.Discovery
import CrateScaffold.Proofs.Console.Table

/-!
How a discovery of bindings ends. A source that is not text and a type that is bound twice are
refusals; the only other failure is that the system cannot read a source that is reached, as when
it is a directory. The names of the types that are found hold no brackets.
-/

namespace CrateScaffold

namespace Source

variable {s n r : Text} {b : Binding}

theorem hasNoBrackets_of_typeName? (h : typeName? s = some (n, r)) : Console.HasNoBrackets n := by
  have hrest : ∀ c, isTypeRest c = true → c ≠ '[' ∧ c ≠ ']' := by
    rintro c hc
    constructor <;> rintro rfl <;> exact absurd hc (by decide)
  have hstart : ∀ c, isTypeStart c = true → isTypeRest c = true := by
    intro c hc
    simp only [isTypeStart, isTypeRest, Char.isAlphanum, Bool.or_eq_true] at hc ⊢
    exact hc.imp_left .inl
  have hall : ∀ c ∈ n, isTypeRest c = true := by
    cases s with
    | nil => cases h
    | cons c s =>
      rw [typeName?] at h
      split at h
      · next hc =>
        cases h
        refine List.forall_mem_cons.2 ⟨hstart c hc, fun d hd => ?_⟩
        exact List.all_eq_true.1 List.all_takeWhile d hd
      · cases h
  exact ⟨fun hm => (hrest _ (hall _ hm)).1 rfl, fun hm => (hrest _ (hall _ hm)).2 rfl⟩

theorem hasNoBrackets_of_binding? (h : binding? s = some (b, r)) :
    Console.HasNoBrackets b.type := by
  simp only [binding?, implemented?, bind, Option.bind_eq_some_iff] at h
  obtain ⟨⟨package, after⟩, -, ⟨type, rest⟩, ⟨_, -, _, -, hname⟩, hb⟩ := h
  cases hb
  exact hasNoBrackets_of_typeName? hname

theorem hasNoBrackets_of_mem_bindings (hb : b ∈ bindings s) : Console.HasNoBrackets b.type := by
  unfold bindings at hb
  generalize withoutComments s = t at hb
  fun_induction scan t with
  | case1 => cases hb
  | case2 c t found rest h _ ih =>
    rcases List.mem_cons.1 hb with rfl | hb
    · exact hasNoBrackets_of_binding? h
    · exact ih hb
  | case3 c t h ih => exact ih hb

end Source

namespace Discovery

variable {found bs fs : List Binding} {b : Binding} {p : Path} {ps : List Path} {s : Site}
variable {f : Failure}

theorem adopt_eq_ok (h : adopt found bs = .ok fs) : fs = found ++ bs := by
  induction bs generalizing found with
  | nil =>
    cases h
    simp
  | cons b bs ih =>
    rw [adopt] at h
    split at h
    · cases h
    · rw [ih h]
      simp

theorem isRefusal_of_adopt (h : adopt found bs = .error f) : f.isRefusal = true := by
  induction bs generalizing found with
  | nil => cases h
  | cons b bs ih =>
    rw [adopt] at h
    split at h
    · cases h
      rfl
    · exact ih h

theorem snd_bindingsOf : (bindingsOf p s).2 =
    ((s.files.readText p).mapError Failure.ofRead).map Source.bindings := by
  unfold bindingsOf
  rw [Reading.snd_bind, Reading.snd_log]
  change ((Reading.ofTree _ >>= fun source => pure (Source.bindings source)) s).2 = _
  rw [Reading.snd_bind, Reading.snd_ofTree]
  cases (s.files.readText p).mapError Failure.ofRead <;> rfl

theorem snd_collect_cons : (collect found (p :: ps) s).2 =
    (bindingsOf p s).2 >>= fun bs => adopt found bs >>= fun fs => (collect fs ps s).2 := by
  rw [collect, Reading.snd_bind]
  congr 1
  funext bs
  rw [Reading.snd_bind, Reading.snd_ofExcept]

/-- Every binding that is found is one of a source. -/
theorem exists_source_of_collect (h : (collect found ps s).2 = .ok bs) (hb : b ∈ bs) :
    b ∈ found ∨ ∃ text, b ∈ Source.bindings text := by
  induction ps generalizing found with
  | nil =>
    cases h
    exact .inl hb
  | cons p ps ih =>
    rw [snd_collect_cons] at h
    obtain ⟨own, hown, h⟩ := bind_eq_ok.1 h
    obtain ⟨fs, hfs, h⟩ := bind_eq_ok.1 h
    rcases ih h with hfound | hsource
    · rw [adopt_eq_ok hfs, List.mem_append] at hfound
      refine hfound.imp_right fun hmem => ?_
      rw [snd_bindingsOf] at hown
      obtain ⟨text, -, rfl⟩ := exists_of_map_eq_ok hown
      exact ⟨text, hmem⟩
    · exact .inr hsource

def CanRead (t : FileTree) (p : Path) : Prop := ∀ cause q, t.read p ≠ .error (.system cause q)

/-- Only what the system cannot read is not refused. -/
theorem bindingsOf_eq_error (h : (bindingsOf p s).2 = .error f) : f.isRefusal = true ∨
    ∃ cause q, s.files.read p = .error (.system cause q) ∧ f = .files (.system cause q) := by
  rw [snd_bindingsOf, map_eq_error] at h
  obtain ⟨fault, hfault, rfl⟩ := mapError_eq_error.1 h
  rcases bind_eq_error.1 (map_eq_error.1 hfault) with hread | ⟨content, -, hdecode⟩
  · obtain ⟨cause, hcause, rfl⟩ := mapError_eq_error.1 hread
    cases cause with
    | null => exact .inl rfl
    | system cause q => exact .inr ⟨cause, q, hcause, rfl⟩
  · obtain ⟨u, -, rfl⟩ := mapError_eq_error.1 hdecode
    exact .inl rfl

theorem isRefusal_of_bindingsOf_iff :
    (∀ f, (bindingsOf p s).2 = .error f → f.isRefusal = true) ↔ CanRead s.files p := by
  constructor
  · intro h cause q hread
    have hfails : (bindingsOf p s).2 = .error (.files (.system cause q)) := by
      rw [snd_bindingsOf, FileTree.readText, FileTree.readExact, hread]
      rfl
    exact absurd (h _ hfails) nofun
  · intro hcan f hf
    rcases bindingsOf_eq_error hf with hrefusal | ⟨cause, q, hread, -⟩
    · exact hrefusal
    · exact absurd hread (hcan cause q)

/-- The system can read each source that is reached: all before it were read, and no type was bound
twice in them. -/
def CanReach (s : Site) (found : List Binding) (ps : List Path) : Prop :=
  ∀ before p after bs, ps = before ++ p :: after → (collect found before s).2 = .ok bs →
    CanRead s.files p

theorem canReach_cons : CanReach s found (p :: ps) ↔ CanRead s.files p ∧
    ∀ own fs, (bindingsOf p s).2 = .ok own → adopt found own = .ok fs → CanReach s fs ps := by
  constructor
  · intro h
    refine ⟨h [] p ps found rfl rfl, fun own fs hown hfs before q after bs hsplit hbs => ?_⟩
    refine h (p :: before) q after bs (by rw [hsplit]; rfl) ?_
    rw [snd_collect_cons]
    exact bind_eq_ok.2 ⟨own, hown, bind_eq_ok.2 ⟨fs, hfs, hbs⟩⟩
  · rintro ⟨hp, hrest⟩ before q after bs hsplit hbs
    cases before with
    | nil =>
      cases hsplit
      exact hp
    | cons p' before =>
      cases hsplit
      rw [snd_collect_cons] at hbs
      obtain ⟨own, hown, hbs⟩ := bind_eq_ok.1 hbs
      obtain ⟨fs, hfs, hbs⟩ := bind_eq_ok.1 hbs
      exact hrest own fs hown hfs before q after bs rfl hbs

/-- A discovery that fails is refused, unless the system cannot read a source that is reached. -/
theorem isRefusal_of_collect_iff :
    (∀ f, (collect found ps s).2 = .error f → f.isRefusal = true) ↔ CanReach s found ps := by
  induction ps generalizing found with
  | nil => exact iff_of_true nofun fun before p after bs hsplit => by simp at hsplit
  | cons p ps ih =>
    rw [canReach_cons, ← isRefusal_of_bindingsOf_iff, snd_collect_cons]
    simp only [← ih]
    constructor
    · intro h
      refine ⟨fun f hf => h f (bind_eq_error.2 (.inl hf)), fun own fs hown hfs f hf => ?_⟩
      exact h f (bind_eq_error.2 (.inr ⟨own, hown, bind_eq_error.2 (.inr ⟨fs, hfs, hf⟩)⟩))
    · rintro ⟨hp, hrest⟩ f hf
      rcases bind_eq_error.1 hf with hf | ⟨own, hown, hf⟩
      · exact hp f hf
      · rcases bind_eq_error.1 hf with hf | ⟨fs, hfs, hf⟩
        · exact isRefusal_of_adopt hf
        · exact hrest own fs hown hfs f hf

/-- A discovery that fails without a refusal has met the system. -/
theorem collect_eq_error (h : (collect found ps s).2 = .error f) : f.isRefusal = true ∨
    ∃ cause q, f = .files (.system cause q) := by
  induction ps generalizing found with
  | nil => cases h
  | cons p ps ih =>
    rw [snd_collect_cons] at h
    rcases bind_eq_error.1 h with hown | ⟨own, -, h⟩
    · exact (bindingsOf_eq_error hown).imp_right fun ⟨cause, q, _, hf⟩ => ⟨cause, q, hf⟩
    · rcases bind_eq_error.1 h with hadopt | ⟨fs, -, h⟩
      · exact .inl (isRefusal_of_adopt hadopt)
      · exact ih h

end Discovery

end CrateScaffold
