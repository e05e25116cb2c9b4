import CrateScaffold.Proofs.Value.Absence
import CrateScaffold.Template.Filter
import Mathlib.Tactic.SplitIfs

/-!
Operations lack nothing that their operands do not. What an operation answers holds no name without
a value but those inside of its operands, and when it fails for want of a name, it is one of them.
-/

namespace CrateScaffold.Template

variable {α β : Type} {P : Text → Prop} {Q R : α → Prop}

def Fault.OnlyLacks (P : Text → Prop) (f : Fault) : Prop := ∀ n, f = .undefined (.name n) → P n

@[simp] theorem Fault.onlyLacks_undefined {m : Missing} :
    (Fault.undefined m).OnlyLacks P ↔ ∀ n, m = .name n → P n := by
  simp [Fault.OnlyLacks]

@[simp] theorem Fault.onlyLacks_unavailable (what n : Text) :
    (Fault.unavailable what n).OnlyLacks P := nofun

@[simp] theorem Fault.onlyLacks_range (f : RangeFault) : (Fault.range f).OnlyLacks P := nofun

@[simp] theorem Fault.onlyLacks_zero (f : ZeroFault) : (Fault.zero f).OnlyLacks P := nofun

@[simp] theorem Fault.onlyLacks_engine (f : EngineFault) : (Fault.engine f).OnlyLacks P := nofun

@[simp] theorem Fault.onlyLacks_uncovered : Fault.uncovered.OnlyLacks P := nofun

def Meets (P : Text → Prop) (Q : α → Prop) : Result α → Prop
  | .ok a => Q a
  | .error f => f.OnlyLacks P

@[simp] theorem meets_ok {a : α} : Meets P Q (.ok a) ↔ Q a := Iff.rfl

@[simp] theorem meets_pure {a : α} : Meets P Q (pure a) ↔ Q a := Iff.rfl

@[simp] theorem meets_error {f : Fault} : Meets P Q (.error f) ↔ f.OnlyLacks P := Iff.rfl

@[simp] theorem meets_wrong (f : KindFault) : Meets P Q (wrong f) := nofun

@[simp] theorem meets_uncovered : Meets P Q (.error .uncovered) := nofun

@[simp] theorem meets_bind {x : Result β} {f : β → Result α} :
    Meets P Q (x >>= f) ↔ Meets P (fun b => Meets P Q (f b)) x := by
  cases x <;> exact Iff.rfl

@[simp] theorem meets_map {x : Result β} {f : β → α} :
    Meets P Q (x.map f) ↔ Meets P (fun b => Q (f b)) x := by
  cases x <;> exact Iff.rfl

theorem Meets.mono {x : Result α} (h : Meets P Q x) (hQ : ∀ a, Q a → R a) : Meets P R x := by
  cases x with
  | ok a => exact hQ a h
  | error f => exact h

theorem Meets.bind {x : Result β} {f : β → Result α} {Q : β → Prop} (hx : Meets P Q x)
    (hf : ∀ b, Q b → Meets P R (f b)) : Meets P R (x >>= f) :=
  meets_bind.2 (hx.mono hf)

theorem Meets.ite {p : Prop} [Decidable p] {x y : Result α} (hx : Meets P Q x)
    (hy : Meets P Q y) : Meets P Q (if p then x else y) := by
  split
  · exact hx
  · exact hy

theorem meets_mapM {f : β → Result α} {xs : List β} (h : ∀ x ∈ xs, Meets P Q (f x)) :
    Meets P (fun ys => ∀ y ∈ ys, Q y) (xs.mapM f) := by
  induction xs with
  | nil => simp
  | cons x xs ih =>
    obtain ⟨hx, hxs⟩ := List.forall_mem_cons.1 h
    rw [List.mapM_cons]
    exact hx.bind fun y hy => (ih hxs).bind fun ys hys => List.forall_mem_cons.2 ⟨hy, hys⟩

abbrev Gives (P : Text → Prop) (x : Result Value) : Prop := Meets P (Value.OnlyLacks P) x

abbrev Ends (P : Text → Prop) (x : Result α) : Prop := Meets P (fun _ => True) x

theorem Ends.bind_of_ok {x : Result β} {f : β → Result α} (hx : Ends P x)
    (hf : ∀ b, x = .ok b → Meets P Q (f b)) : Meets P Q (x >>= f) := by
  cases x with
  | ok b => exact hf b rfl
  | error f => exact hx

theorem Ends.ne_undefined {x : Result α} {n : Text} (hx : Ends (· ≠ n) x) :
    x ≠ .error (.undefined (.name n)) := by
  rintro rfl
  exact hx n rfl rfl

variable {v w : Value} {xs args : List Value} {es : List (Value × Value)} {n s : Text}

open Value (OnlyLacks)

theorem gives_present (hv : v.OnlyLacks P) : Gives P (present v) := by
  unfold present
  split
  · simpa using hv
  · exact meets_uncovered
  · exact hv

theorem gives_tolerated (hv : v.OnlyLacks P) : Gives P (tolerated v) := by
  unfold tolerated
  split
  · split
    · exact hv
    · simpa using hv
  · exact meets_uncovered
  · exact .ite meets_uncovered hv

theorem ends_textOf (hv : v.OnlyLacks P) : Ends P (textOf v) := by
  unfold textOf
  split
  · trivial
  · exact meets_map.2 ((gives_tolerated hv).mono fun _ _ => trivial)

theorem ends_truth (hv : v.OnlyLacks P) : Ends P (truth v) := by
  unfold truth
  exact meets_map.2 ((gives_tolerated hv).mono fun _ _ => trivial)

theorem onlyLacks_of_items? (h : items? v = some xs) (hv : v.OnlyLacks P) :
    ∀ x ∈ xs, x.OnlyLacks P := by
  cases v <;> cases h
  case text => simp [chars]
  case markup => simp [chars]
  case list => simpa using hv
  case tuple => simpa using hv
  case table es =>
    simp only [List.forall_mem_map]
    exact fun e he => (Value.onlyLacks_table.1 hv e he).1
  case entries es =>
    simp only [pairs, List.forall_mem_map]
    intro e he
    simpa using Value.onlyLacks_entries.1 hv e he
  case range => exact Value.onlyLacks_rangeItems _ _ _
  case undefined => nofun

theorem meets_items (hv : v.OnlyLacks P) :
    Meets P (fun xs => ∀ x ∈ xs, OnlyLacks P x) (items v) := by
  unfold items
  refine (gives_tolerated hv).bind fun w hw => ?_
  split
  · next h => exact onlyLacks_of_items? h hw
  · exact meets_wrong _

theorem gives_length (hv : v.OnlyLacks P) : Gives P (length v) := by
  unfold length
  refine (gives_tolerated hv).bind fun w hw => ?_
  split
  · simp
  · exact meets_wrong _

/-! Arithmetic. -/

theorem gives_bounded (k : Int) : Gives P (bounded k) :=
  .ite (Value.onlyLacks_int k) meets_uncovered

theorem gives_finite (x : Float) : Gives P (finite x) :=
  .ite (Value.onlyLacks_float x) meets_uncovered

theorem gives_arithInt (op : Arith) (k m : Int) : Gives P (arithInt op k m) := by
  cases op <;> simp only [arithInt] <;> repeat' split
  all_goals simp [gives_bounded, gives_finite]

theorem gives_arithFloat (op : Arith) (x y : Float) : Gives P (arithFloat op x y) := by
  cases op <;> simp only [arithFloat] <;> repeat' split
  all_goals simp [gives_finite]

theorem gives_arithNumeric (op : Arith) (x y : Value.Numeric) : Gives P (arithNumeric op x y) := by
  unfold arithNumeric
  split
  · exact gives_arithInt op _ _
  · exact .ite (gives_arithFloat op _ _) meets_uncovered

theorem onlyLacks_of_repeated? {k : Int} (h : repeated? v k = some w) (hv : v.OnlyLacks P) :
    w.OnlyLacks P := by
  have hagain : ∀ {xs : List Value}, (∀ x ∈ xs, x.OnlyLacks P) →
      ∀ x ∈ (List.replicate k.toNat xs).flatten, x.OnlyLacks P := by
    intro xs hxs x hx
    obtain ⟨ys, hys, hx⟩ := List.mem_flatten.1 hx
    rw [(List.mem_replicate.1 hys).2] at hx
    exact hxs x hx
  cases v <;> cases h
  case text => simp
  case markup => simp
  case list => exact Value.onlyLacks_list.2 (hagain (Value.onlyLacks_list.1 hv))
  case tuple => exact Value.onlyLacks_tuple.2 (hagain (Value.onlyLacks_tuple.1 hv))

theorem gives_multiply (hv : v.OnlyLacks P) (hw : w.OnlyLacks P) : Gives P (multiply v w) := by
  have hrepeated : ∀ {u x : Value} {k : Option Int}, u.OnlyLacks P →
      k.bind (repeated? u) = some x → x.OnlyLacks P := by
    intro u x k hu h
    obtain ⟨m, -, h⟩ := Option.bind_eq_some_iff.1 h
    exact onlyLacks_of_repeated? h hu
  unfold multiply
  split
  · next hx => exact hrepeated hv hx
  · next hx => exact hrepeated hw hx
  · split_ifs <;> exact meets_wrong _

theorem gives_add (hv : v.OnlyLacks P) (hw : w.OnlyLacks P) : Gives P (add v w) := by
  unfold add
  split
  case h_7 =>
    exact Value.onlyLacks_list.2
      (List.forall_mem_append.2 ⟨Value.onlyLacks_list.1 hv, Value.onlyLacks_list.1 hw⟩)
  case h_8 =>
    exact Value.onlyLacks_tuple.2
      (List.forall_mem_append.2 ⟨Value.onlyLacks_tuple.1 hv, Value.onlyLacks_tuple.1 hw⟩)
  all_goals simp

theorem gives_arith (op : Arith) (hv : v.OnlyLacks P) (hw : w.OnlyLacks P) :
    Gives P (arith op v w) := by
  unfold arith
  refine (gives_present hv).bind fun v hv => (gives_present hw).bind fun w hw => ?_
  split
  · exact gives_arithNumeric op _ _
  · cases op with
    | add => exact gives_add hv hw
    | mul => exact gives_multiply hv hw
    | remainder =>
      simp only
      exact .ite meets_uncovered (meets_wrong _)
    | sub => exact meets_wrong _
    | div => exact meets_wrong _
    | quotient => exact meets_wrong _
    | power => exact meets_wrong _

theorem gives_withSign (negative : Bool) (hv : v.OnlyLacks P) : Gives P (withSign negative v) := by
  unfold withSign
  refine (gives_present hv).bind fun v hv => ?_
  split <;> simp

/-! Relations. -/

theorem gives_hashable (hv : v.OnlyLacks P) : Gives P (hashable v) := by
  unfold hashable
  refine (gives_tolerated hv).bind fun v hv => ?_
  split
  · exact meets_wrong _
  · exact meets_wrong _
  · exact meets_uncovered
  · exact .ite hv meets_uncovered
  · exact hv

theorem ends_member (hv : v.OnlyLacks P) (hw : w.OnlyLacks P) : Ends P (member v w) := by
  unfold member
  refine (gives_tolerated hw).bind fun w hw => ?_
  split
  · split <;> simp
  · split <;> simp
  · exact (gives_hashable hv).bind fun _ _ => trivial
  · exact meets_uncovered
  · split
    · trivial
    · exact (gives_tolerated hv).bind fun _ _ => trivial
    · exact meets_wrong _

theorem ends_ordered (r : Relation) (v w : Value) : Ends P (ordered r v w) := by
  unfold ordered
  split
  · exact meets_uncovered
  · exact meets_uncovered
  · split
    · trivial
    · exact meets_wrong _

theorem ends_relate (r : Relation) (hv : v.OnlyLacks P) (hw : w.OnlyLacks P) :
    Ends P (relate r v w) := by
  unfold relate
  split
  · exact (gives_tolerated hv).bind fun _ _ => (gives_tolerated hw).bind fun _ _ => trivial
  · exact (gives_tolerated hv).bind fun _ _ => (gives_tolerated hw).bind fun _ _ => trivial
  · exact ends_member hv hw
  · exact (ends_member hv hw).bind fun _ _ => trivial
  · exact (gives_present hv).bind fun v _ => (gives_present hw).bind fun w _ => ends_ordered r v w

/-! Members and elements. -/

theorem onlyLacks_of_member? (h : member? v n = some w) (hv : v.OnlyLacks P) : w.OnlyLacks P := by
  unfold member? at h
  split at h
  · unfold loopMember at h
    split_ifs at h <;> cases h <;> simp
  · split at h
    · cases h
      simpa using hv
    · cases h

theorem onlyLacks_of_element? {i : Value} (h : element? v i = some w) (hv : v.OnlyLacks P) :
    w.OnlyLacks P := by
  have hitem : ∀ {xs : List Value} {k : Int}, itemAt? xs k = some w → w ∈ xs := by
    intro xs k hk
    unfold itemAt? at hk
    split_ifs at hk
    · exact List.mem_of_getElem? hk
    · exact List.mem_of_getElem? hk
  have hindexed : (i.toInt?.bind fun k => (items? v).bind (itemAt? · k)) = some w →
      w.OnlyLacks P := by
    intro h
    obtain ⟨k, -, h⟩ := Option.bind_eq_some_iff.1 h
    obtain ⟨xs, hxs, h⟩ := Option.bind_eq_some_iff.1 h
    exact onlyLacks_of_items? hxs hv w (hitem h)
  cases v with
  | table es => exact Value.onlyLacks_of_find? h (Value.onlyLacks_table.1 hv)
  | list => exact hindexed h
  | tuple => exact hindexed h
  | text => exact hindexed h
  | markup => exact hindexed h
  | range => exact hindexed h
  | _ => cases h

theorem onlyLacks_getD {o : Option Value} {m : Missing} (ho : ∀ x ∈ o, x.OnlyLacks P)
    (hm : ∀ n, m = .name n → P n) : (o.getD (.undefined m)).OnlyLacks P := by
  cases o with
  | none => simpa using hm
  | some x => exact ho x rfl

theorem gives_attributeOf (n : Text) (hv : v.OnlyLacks P) : Gives P (attributeOf v n) := by
  unfold attributeOf
  refine (gives_present hv).bind fun v hv => .ite meets_uncovered ?_
  refine onlyLacks_getD (fun x hx => ?_) nofun
  rcases Option.or_eq_some_iff.1 hx with hm | ⟨-, he⟩
  · exact onlyLacks_of_member? hm hv
  · exact onlyLacks_of_element? he hv

theorem gives_found (i : Value) (hv : v.OnlyLacks P) : Gives P (found v i) := by
  unfold found
  split
  · next x hx => exact onlyLacks_of_element? hx hv
  · split
    · exact .ite meets_uncovered (onlyLacks_getD (fun x hx => onlyLacks_of_member? hx hv) nofun)
    · simp

theorem gives_indexFor (v : Value) (hw : w.OnlyLacks P) : Gives P (indexFor v w) := by
  unfold indexFor
  split
  · exact gives_tolerated hw
  · exact meets_uncovered
  · exact meets_uncovered
  · exact meets_uncovered
  · exact .ite meets_uncovered hw

theorem gives_itemOf (hv : v.OnlyLacks P) (hw : w.OnlyLacks P) : Gives P (itemOf v w) := by
  unfold itemOf
  exact (gives_present hv).bind fun v hv => (gives_indexFor v hw).bind fun i _ => gives_found i hv

/-! Calls. -/

theorem ends_integer (v : Value) : Ends P (integer v) := by
  unfold integer
  split
  · exact meets_uncovered
  · split
    · trivial
    · exact meets_wrong _

theorem gives_rangeOf (args : List Value) : Gives P (rangeOf args) := by
  unfold rangeOf
  refine (meets_mapM fun v _ => ends_integer v).bind fun ns _ => ?_
  split
  · exact meets_wrong _
  · simp
  · simp
  · split <;> simp
  · exact meets_wrong _

theorem ends_argument (function : Text) (position : Nat) (v : Value) :
    Ends P (argument function position v) := by
  unfold argument
  split
  · trivial
  · exact meets_wrong _

theorem gives_replaceText (s : Text) (args : List Value) : Gives P (replaceText s args) := by
  unfold replaceText
  split
  · exact (ends_argument _ _ _).bind fun _ _ => (ends_argument _ _ _).bind fun _ _ => by simp
  · refine (ends_argument _ _ _).bind fun _ _ => (ends_argument _ _ _).bind fun _ _ => ?_
    exact (ends_integer _).bind fun _ _ => by simp
  · split <;> exact meets_wrong _

/-- The pieces of a text, at most as many as `k` says. -/
def pieces (s : Text) (separator : Option Value) (k : Int) : Result Value := do
  let pieces ←
    match separator with
    | none | some .null => pure (splitAtBlanks (limit s k) s)
    | some v =>
      match v.toText? with
      | some [] => .error (.range .emptySeparator)
      | some sep => pure (splitAtText sep (limit s k) s)
      | none => wrong (.separator v.kind)
  return .list (pieces.map .text)

theorem gives_pieces (s : Text) (separator : Option Value) (k : Int) :
    Gives P (pieces s separator k) := by
  have htexts : ∀ ts : List Text, OnlyLacks P (.list (ts.map .text)) := by simp
  unfold pieces
  split
  · exact htexts _
  · exact htexts _
  · split
    · exact Fault.onlyLacks_range _
    · exact htexts _
    · exact meets_wrong _

theorem gives_splitText (s : Text) (args : List Value) : Gives P (splitText s args) := by
  rcases args with _ | ⟨separator, _ | ⟨n, _ | _⟩⟩
  · exact gives_pieces s none (-1)
  · exact gives_pieces s (some separator) (-1)
  · exact (ends_integer n).bind fun k _ => gives_pieces s (some separator) k
  · exact meets_uncovered

theorem gives_onText (f : Text → Text) (hv : v.OnlyLacks P) : Gives P (onText v f) := by
  unfold onText
  split
  · simp
  · exact (ends_textOf hv).bind fun _ _ => by simp

theorem gives_callMethod (n : Text) (hv : v.OnlyLacks P) (hargs : ∀ v ∈ args, v.OnlyLacks P) :
    Gives P (callMethod v n args) := by
  unfold callMethod
  split
  · next es =>
    have hes := Value.onlyLacks_table.1 hv
    have hget : ∀ k d : Value, k.OnlyLacks P → d.OnlyLacks P →
        Gives P (hashable k >>= fun k => pure ((Value.find? k es).getD d)) := by
      intro k d hk hd
      refine (gives_hashable hk).bind fun k _ => ?_
      cases hfound : Value.find? k es with
      | none => exact hd
      | some x => exact Value.onlyLacks_of_find? hfound hes
    split
    · split
      · exact Value.onlyLacks_entries.2 hes
      · exact meets_wrong _
    · split
      · exact hget _ _ (hargs _ (by simp)) Value.onlyLacks_null
      · exact hget _ _ (hargs _ (by simp)) (hargs _ (by simp))
      · split <;> exact meets_wrong _
  · split_ifs
    · exact gives_onText _ hv
    · exact meets_wrong _
    · exact gives_onText _ hv
    · exact meets_wrong _
    · split
      · exact gives_onText _ hv
      · split
        · exact gives_onText _ hv
        · exact meets_uncovered
      · exact meets_wrong _
    · exact gives_replaceText _ _
    · exact gives_splitText _ _

theorem gives_call (hv : v.OnlyLacks P) (hargs : ∀ v ∈ args, v.OnlyLacks P) :
    Gives P (call v args) := by
  unfold call
  refine (gives_present hv).bind fun v hv => ?_
  split
  · exact gives_callMethod _ (Value.onlyLacks_method.1 hv) hargs
  · split
    · exact gives_rangeOf _
    · exact meets_uncovered
  · exact meets_uncovered
  · exact meets_wrong _

/-! Filters and tests. -/

theorem onlyLacks_orDefault (falsy : Bool) (hv : v.OnlyLacks P) (hw : w.OnlyLacks P) :
    (orDefault v w falsy).OnlyLacks P := by
  unfold orDefault
  split
  · exact hw
  · exact hv

theorem gives_orDefaultIf {u : Value} (hv : v.OnlyLacks P) (hw : w.OnlyLacks P)
    (hu : u.OnlyLacks P) : Gives P (orDefaultIf v w u) := by
  unfold orDefaultIf
  refine .ite hw (meets_map.2 ((ends_truth hu).mono fun falsy _ => ?_))
  exact onlyLacks_orDefault falsy hv hw

theorem meets_itemsBack (hv : v.OnlyLacks P) :
    Meets P (fun xs => ∀ x ∈ xs, OnlyLacks P x) (itemsBack v) := by
  unfold itemsBack
  split
  · split
    · exact meets_uncovered
    · simpa using hv
  · exact meets_uncovered
  · refine (gives_tolerated hv).bind fun w hw => ?_
    split
    · next h => exact onlyLacks_of_items? h hw
    · exact meets_wrong _

theorem gives_endpoint (first : Bool) (hv : v.OnlyLacks P) : Gives P (endpoint first v) := by
  have hend : ∀ o : Option Value, (∀ x ∈ o, x.OnlyLacks P) →
      Gives P (pure (o.getD (.undefined (.endpoint first)))) := by
    intro o ho
    cases o with
    | none => simp
    | some x => exact ho x rfl
  unfold endpoint
  cases first with
  | true =>
    refine (meets_items hv).bind fun xs hxs => ?_
    exact hend _ fun x hx => hxs x (List.mem_of_head? hx)
  | false =>
    refine (meets_itemsBack hv).bind fun xs hxs => ?_
    exact hend _ fun x hx => hxs x (List.mem_of_getLast? hx)

theorem gives_joined (hv : v.OnlyLacks P) (hw : w.OnlyLacks P) : Gives P (joined v w) := by
  unfold joined
  refine (ends_textOf hw).bind fun sep _ => (meets_items hv).bind fun xs hxs => ?_
  exact (meets_mapM fun x hx => ends_textOf (hxs x hx)).bind fun ts _ => by simp

theorem gives_applyFilter (n : Text) (hv : v.OnlyLacks P) (hargs : ∀ v ∈ args, v.OnlyLacks P) :
    Gives P (applyFilter n v args) := by
  unfold applyFilter
  refine .ite ?default <| .ite ?replace <| .ite ?join <| .ite ?trim <| .ite meets_uncovered <|
    .ite (gives_onText _ hv) <| .ite (gives_onText _ hv) <| .ite (gives_onText _ hv) <|
    .ite ?title <| .ite (gives_length hv) <| .ite (gives_endpoint true hv) <|
    .ite (gives_endpoint false hv) <| .ite ?escape <|
    .ite meets_uncovered (Fault.onlyLacks_unavailable _ _)
  case default =>
    split
    · exact onlyLacks_orDefault _ hv (Value.onlyLacks_text _)
    · exact onlyLacks_orDefault _ hv (hargs _ (by simp))
    · exact gives_orDefaultIf hv (hargs _ (by simp)) (hargs _ (by simp))
    · exact meets_uncovered
  case replace =>
    split
    · refine (ends_textOf hv).bind fun _ _ => (ends_textOf (hargs _ (by simp))).bind fun _ _ => ?_
      exact (ends_textOf (hargs _ (by simp))).bind fun _ _ => Value.onlyLacks_text _
    · refine (ends_textOf hv).bind fun _ _ => (ends_textOf (hargs _ (by simp))).bind fun _ _ => ?_
      exact (ends_textOf (hargs _ (by simp))).bind fun _ _ => Value.onlyLacks_text _
    · exact meets_uncovered
  case join =>
    split
    · exact gives_joined hv (Value.onlyLacks_text _)
    · exact gives_joined hv (hargs _ (by simp))
    · exact meets_uncovered
  case trim =>
    split
    · exact gives_onText _ hv
    · exact gives_onText _ hv
    · exact meets_uncovered
  case title => exact (ends_textOf hv).bind fun _ _ => Value.onlyLacks_text _
  case escape => exact (gives_tolerated hv).bind fun _ _ => Value.onlyLacks_markup _

theorem ends_applyTest (n : Text) (v : Value) (args : List Value) :
    Ends P (applyTest n v args) := by
  unfold applyTest
  split_ifs
  · simp
  · exact meets_uncovered
  · trivial
  · trivial

end CrateScaffold.Template
