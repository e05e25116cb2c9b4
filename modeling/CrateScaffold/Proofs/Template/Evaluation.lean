import CrateScaffold.Proofs.Template.Constants
import CrateScaffold.Proofs.Template.Operation
import CrateScaffold.Template.Evaluation

/-!
Expressions lack nothing that the names in them do not. Where every name of an expression has a
value, its evaluation never fails for want of a name, and its value lacks none either.
-/

namespace CrateScaffold.Template

open Value (OnlyLacks)

variable {P : Text → Prop} {env : Env} {v w : Value}

theorem onlyLacks_of_isLiteral (h : v.IsLiteral) : v.OnlyLacks P := by
  cases h <;> simp

theorem meets_entriesOf : (vs : List Value) → {es : List (Value × Value)} →
    (∀ e ∈ es, e.1.OnlyLacks P ∧ e.2.OnlyLacks P) → (∀ v ∈ vs, v.OnlyLacks P) →
    Meets P (fun es => ∀ e ∈ es, e.1.OnlyLacks P ∧ e.2.OnlyLacks P) (entriesOf es vs)
  | [], _, hes, _ => hes
  | [_], _, hes, _ => hes
  | k :: v :: vs, es, hes, hvs => by
    obtain ⟨hk, hv, hvs⟩ : k.OnlyLacks P ∧ v.OnlyLacks P ∧ ∀ v ∈ vs, v.OnlyLacks P := by
      simpa only [List.forall_mem_cons] using hvs
    exact (gives_hashable hk).bind fun k hk =>
      meets_entriesOf vs (Value.onlyLacks_insert hk hv hes) hvs

mutual

/-- Unpacking gives one value to each name of the target, in order. -/
theorem Target.meets_unpack : (t : Target) → {v : Value} → v.OnlyLacks P →
    Meets P (fun bound => bound.map (·.1) = t.names.map (·.1) ∧ ∀ p ∈ bound, p.2.OnlyLacks P)
      (t.unpack v)
  | .name n line, v, hv => ⟨rfl, by simpa using hv⟩
  | .tuple ts, v, hv => by
    rw [Target.unpack]
    refine (gives_tolerated hv).bind fun v hv => ?_
    split
    · exact meets_wrong _
    · next xs hxs =>
      split
      · exact Fault.onlyLacks_range _
      split
      · exact Fault.onlyLacks_range _
      · exact meets_unpackAll ts (by omega) (onlyLacks_of_items? hxs hv)

theorem meets_unpackAll : (ts : List Target) → {xs : List Value} → xs.length = ts.length →
    (∀ x ∈ xs, x.OnlyLacks P) →
    Meets P (fun bound => bound.map (·.1) = (namesOf ts).map (·.1) ∧ ∀ p ∈ bound, p.2.OnlyLacks P)
      (unpackAll ts xs)
  | [], _, _, _ => ⟨rfl, nofun⟩
  | _ :: _, [], hlen, _ => by cases hlen
  | t :: ts, x :: xs, hlen, hxs => by
    obtain ⟨hx, hxs⟩ := List.forall_mem_cons.1 hxs
    rw [unpackAll]
    refine (t.meets_unpack hx).bind fun bound hbound => ?_
    refine (meets_unpackAll ts (Nat.succ.inj hlen) hxs).bind fun more hmore => ⟨?_, ?_⟩
    · rw [List.map_append, hbound.1, hmore.1, ← List.map_append]
      rfl
    · exact List.forall_mem_append.2 ⟨hbound.2, hmore.2⟩

end

theorem meets_held {vs : List Value} (hvs : ∀ v ∈ vs, v.OnlyLacks P) :
    Meets P (fun vs => ∀ v ∈ vs, OnlyLacks P v) (held vs) :=
  .ite meets_uncovered hvs

mutual

theorem Expr.gives_eval : (e : Expr) → e.IsLiteral → (∀ n ∈ e.uses, (env.read n).OnlyLacks P) →
    Gives P (e.eval env)
  | .const v, .const hv, _ => onlyLacks_of_isLiteral hv
  | .name n line, _, h => h n (by simp [Expr.uses])
  | .list es, .list hes, h =>
    (meets_evalAll es hes h).bind fun vs hvs => (meets_held hvs).bind fun vs hvs =>
      Value.onlyLacks_list.2 hvs
  | .tuple es, .tuple hes, h =>
    (meets_evalAll es hes h).bind fun vs hvs => (meets_held hvs).bind fun vs hvs =>
      Value.onlyLacks_tuple.2 hvs
  | .dict es, .dict hes, h =>
    (meets_evalAll es hes h).bind fun vs hvs => (meets_held hvs).bind fun vs hvs =>
      (meets_entriesOf vs (List.forall_mem_nil _) hvs).bind fun entries hentries =>
        Value.onlyLacks_table.2 hentries
  | .attribute e n, .attribute _ he, h =>
    (e.gives_eval he h).bind fun v hv => gives_attributeOf n hv
  | .item e i, .item he hi, h => by
    obtain ⟨h, h'⟩ := List.forall_mem_append.1 h
    exact (e.gives_eval he h).bind fun v hv => (i.gives_eval hi h').bind fun w hw =>
      gives_itemOf hv hw
  | .call f es, .call hf hes, h => by
    obtain ⟨h, h'⟩ := List.forall_mem_append.1 h
    exact (f.gives_eval hf h).bind fun v hv => (meets_evalAll es hes h').bind fun vs hvs =>
      gives_call hv hvs
  | .filter n line e es, .filter _ _ he hes, h => by
    obtain ⟨h, h'⟩ := List.forall_mem_append.1 h
    exact (e.gives_eval he h).bind fun v hv => (meets_evalAll es hes h').bind fun vs hvs =>
      gives_applyFilter n hv hvs
  | .test n line e es, .test _ _ he hes, h => by
    obtain ⟨h, h'⟩ := List.forall_mem_append.1 h
    exact (e.gives_eval he h).bind fun v _ => (meets_evalAll es hes h').bind fun vs _ =>
      (ends_applyTest n v vs).bind fun b _ => Value.onlyLacks_bool b
  | .negate e, .negate he, h =>
    (e.gives_eval he h).bind fun v hv => gives_withSign true hv
  | .plus e, .plus he, h =>
    (e.gives_eval he h).bind fun v hv => gives_withSign false hv
  | .not e, .not he, h =>
    (e.gives_eval he h).bind fun v hv => (ends_truth hv).bind fun b _ =>
      Value.onlyLacks_bool (!b)
  | .arith op l r, .arith _ hl hr, h => by
    obtain ⟨h, h'⟩ := List.forall_mem_append.1 h
    exact (l.gives_eval hl h).bind fun v hv => (r.gives_eval hr h').bind fun w hw =>
      gives_arith op hv hw
  | .concat es, .concat hes, h =>
    (meets_evalAll es hes h).bind fun vs hvs =>
      (meets_mapM fun v hv => ends_textOf (hvs v hv)).bind fun ts _ =>
        Value.onlyLacks_text ts.flatten
  | .compare e rs es, .compare _ he hes, h => by
    obtain ⟨h, h'⟩ := List.forall_mem_append.1 h
    exact (e.gives_eval he h).bind fun v hv => gives_compareChain rs es hv hes h'
  | .and l r, .and hl hr, h => by
    obtain ⟨h, h'⟩ := List.forall_mem_append.1 h
    exact (l.gives_eval hl h).bind fun v hv => (ends_truth hv).bind fun _ _ =>
      .ite (r.gives_eval hr h') hv
  | .or l r, .or hl hr, h => by
    obtain ⟨h, h'⟩ := List.forall_mem_append.1 h
    exact (l.gives_eval hl h).bind fun v hv => (ends_truth hv).bind fun _ _ =>
      .ite hv (r.gives_eval hr h')
  | .branch line c e, .branch _ hc he, h => by
    obtain ⟨h, h'⟩ := List.forall_mem_append.1 h
    exact (c.gives_eval hc h).bind fun v hv => (ends_truth hv).bind fun _ _ =>
      .ite (e.gives_eval he h') (Value.onlyLacks_undefined.2 nofun)
  | .choice c e e', .choice hc he he', h => by
    obtain ⟨h, h'⟩ := List.forall_mem_append.1 h
    obtain ⟨h', h''⟩ := List.forall_mem_append.1 h'
    exact (c.gives_eval hc h).bind fun v hv => (ends_truth hv).bind fun _ _ =>
      .ite (e.gives_eval he h') (e'.gives_eval he' h'')

theorem meets_evalAll : (es : List Expr) → (∀ e ∈ es, e.IsLiteral) →
    (∀ n ∈ usesAll es, (env.read n).OnlyLacks P) →
    Meets P (fun vs => ∀ v ∈ vs, v.OnlyLacks P) (evalAll env es)
  | [], _, _ => nofun
  | e :: es, hes, h => by
    obtain ⟨he, hes⟩ := List.forall_mem_cons.1 hes
    obtain ⟨h, h'⟩ := List.forall_mem_append.1 h
    exact (e.gives_eval he h).bind fun v hv => (meets_evalAll es hes h').bind fun vs hvs =>
      List.forall_mem_cons.2 ⟨hv, hvs⟩

theorem gives_compareChain {v : Value} (rs : List Relation) : (es : List Expr) → v.OnlyLacks P →
    (∀ e ∈ es, e.IsLiteral) → (∀ n ∈ usesAll es, (env.read n).OnlyLacks P) →
    Gives P (compareChain env v rs es)
  | [], _, _, _ => by
    rw [compareChain]
    exact Value.onlyLacks_bool true
  | e :: es, hv, hes, h => by
    obtain ⟨he, hes⟩ := List.forall_mem_cons.1 hes
    obtain ⟨h, h'⟩ := List.forall_mem_append.1 h
    cases rs with
    | nil => exact Value.onlyLacks_bool true
    | cons r rs =>
      exact (e.gives_eval he h).bind fun w hw => (ends_relate r hv hw).bind fun _ _ =>
        .ite (gives_compareChain rs es hw hes h') (Value.onlyLacks_bool false)

end

end CrateScaffold.Template
