import CrateScaffold.Value.Comparison
import CrateScaffold.Value.Basic

/-!
Names without a value inside of values. A value may hold nothing but such a name, deep inside too,
and a value that is put together from others lacks no name that none of them lacks.
-/

namespace CrateScaffold.Value

inductive Lacks (n : Text) : Value → Prop
  | name : Lacks n (.undefined (.name n))
  | list {xs : List Value} {x : Value} : x ∈ xs → Lacks n x → Lacks n (.list xs)
  | tuple {xs : List Value} {x : Value} : x ∈ xs → Lacks n x → Lacks n (.tuple xs)
  | tableKey {es : List (Value × Value)} {k v : Value} :
      (k, v) ∈ es → Lacks n k → Lacks n (.table es)
  | tableValue {es : List (Value × Value)} {k v : Value} :
      (k, v) ∈ es → Lacks n v → Lacks n (.table es)
  | entryKey {es : List (Value × Value)} {k v : Value} :
      (k, v) ∈ es → Lacks n k → Lacks n (.entries es)
  | entryValue {es : List (Value × Value)} {k v : Value} :
      (k, v) ∈ es → Lacks n v → Lacks n (.entries es)
  | owner {v : Value} {method : Text} : Lacks n v → Lacks n (.method v method)

def OnlyLacks (P : Text → Prop) (v : Value) : Prop := ∀ n, v.Lacks n → P n

variable {P : Text → Prop} {v w k : Value} {xs : List Value} {es : List (Value × Value)}

@[simp] theorem onlyLacks_null : OnlyLacks P .null := nofun

@[simp] theorem onlyLacks_bool (b : Bool) : OnlyLacks P (.bool b) := nofun

@[simp] theorem onlyLacks_int (n : Int) : OnlyLacks P (.int n) := nofun

@[simp] theorem onlyLacks_float (x : Float) : OnlyLacks P (.float x) := nofun

@[simp] theorem onlyLacks_text (s : Text) : OnlyLacks P (.text s) := nofun

@[simp] theorem onlyLacks_markup (s : Text) : OnlyLacks P (.markup s) := nofun

@[simp] theorem onlyLacks_moment (m : Moment) : OnlyLacks P (.moment m) := nofun

@[simp] theorem onlyLacks_range (a b c : Int) : OnlyLacks P (.range a b c) := nofun

@[simp] theorem onlyLacks_loop (i n : Nat) : OnlyLacks P (.loop i n) := nofun

@[simp] theorem onlyLacks_builtin (s : Text) : OnlyLacks P (.builtin s) := nofun

@[simp] theorem onlyLacks_undefined {m : Missing} :
    OnlyLacks P (.undefined m) ↔ ∀ n, m = .name n → P n := by
  constructor
  · rintro h n rfl
    exact h n .name
  · intro h n hn
    cases hn
    exact h n rfl

@[simp] theorem onlyLacks_list : OnlyLacks P (.list xs) ↔ ∀ x ∈ xs, OnlyLacks P x := by
  constructor
  · exact fun h x hx n hn => h n (.list hx hn)
  · intro h n hn
    cases hn with
    | list hx hn => exact h _ hx n hn

@[simp] theorem onlyLacks_tuple : OnlyLacks P (.tuple xs) ↔ ∀ x ∈ xs, OnlyLacks P x := by
  constructor
  · exact fun h x hx n hn => h n (.tuple hx hn)
  · intro h n hn
    cases hn with
    | tuple hx hn => exact h _ hx n hn

@[simp] theorem onlyLacks_table :
    OnlyLacks P (.table es) ↔ ∀ e ∈ es, OnlyLacks P e.1 ∧ OnlyLacks P e.2 := by
  constructor
  · exact fun h e he => ⟨fun n hn => h n (.tableKey he hn), fun n hn => h n (.tableValue he hn)⟩
  · intro h n hn
    cases hn with
    | tableKey he hn => exact (h _ he).1 n hn
    | tableValue he hn => exact (h _ he).2 n hn

@[simp] theorem onlyLacks_entries :
    OnlyLacks P (.entries es) ↔ ∀ e ∈ es, OnlyLacks P e.1 ∧ OnlyLacks P e.2 := by
  constructor
  · exact fun h e he => ⟨fun n hn => h n (.entryKey he hn), fun n hn => h n (.entryValue he hn)⟩
  · intro h n hn
    cases hn with
    | entryKey he hn => exact (h _ he).1 n hn
    | entryValue he hn => exact (h _ he).2 n hn

@[simp] theorem onlyLacks_method {s : Text} : OnlyLacks P (.method v s) ↔ OnlyLacks P v := by
  constructor
  · exact fun h n hn => h n (.owner hn)
  · intro h n hn
    cases hn with
    | owner hn => exact h n hn

/-- What a table holds under a key is one of its values. -/
theorem exists_of_find? (h : find? k es = some v) : ∃ k', (k', v) ∈ es := by
  induction es with
  | nil => cases h
  | cons e es ih =>
    obtain ⟨k', v'⟩ := e
    rw [find?] at h
    split at h
    · cases h
      exact ⟨k', List.mem_cons_self⟩
    · obtain ⟨k'', hmem⟩ := ih h
      exact ⟨k'', List.mem_cons_of_mem _ hmem⟩

theorem onlyLacks_of_find? (h : find? k es = some v)
    (hes : ∀ e ∈ es, OnlyLacks P e.1 ∧ OnlyLacks P e.2) : OnlyLacks P v := by
  obtain ⟨k', hmem⟩ := exists_of_find? h
  exact (hes _ hmem).2

theorem onlyLacks_insert (hk : OnlyLacks P k) (hv : OnlyLacks P v)
    (hes : ∀ e ∈ es, OnlyLacks P e.1 ∧ OnlyLacks P e.2) :
    ∀ e ∈ insert k v es, OnlyLacks P e.1 ∧ OnlyLacks P e.2 := by
  induction es with
  | nil =>
    rintro e (_ | ⟨_, ⟨⟩⟩)
    exact ⟨hk, hv⟩
  | cons e es ih =>
    obtain ⟨k', v'⟩ := e
    obtain ⟨hfirst, hrest⟩ := List.forall_mem_cons.1 hes
    rw [insert]
    split
    · exact List.forall_mem_cons.2 ⟨⟨hfirst.1, hv⟩, hrest⟩
    · exact List.forall_mem_cons.2 ⟨hfirst, ih hrest⟩

theorem onlyLacks_rangeItems (start step : Int) (n : Nat) :
    ∀ x ∈ rangeItems start step n, OnlyLacks P x := by
  induction n generalizing start with
  | zero => nofun
  | succ n ih => exact List.forall_mem_cons.2 ⟨onlyLacks_int start, ih (start + step)⟩

end CrateScaffold.Value
