import CrateScaffold.Proofs.World.Effect
import CrateScaffold.Template.Rendering

/-!
Constants of templates. Whatever source is read, the constants of its tree are nulls, truth values,
numbers and texts, since reading makes no others.
-/

namespace CrateScaffold

inductive Value.IsLiteral : Value → Prop
  | null : IsLiteral .null
  | bool (b : Bool) : IsLiteral (.bool b)
  | int (n : Int) : IsLiteral (.int n)
  | float (x : Float) : IsLiteral (.float x)
  | text (s : Text) : IsLiteral (.text s)

namespace Template

inductive Expr.IsLiteral : Expr → Prop
  | const {v : Value} : v.IsLiteral → IsLiteral (.const v)
  | name (n : Text) (line : Nat) : IsLiteral (.name n line)
  | list {es : List Expr} : (∀ e ∈ es, e.IsLiteral) → IsLiteral (.list es)
  | tuple {es : List Expr} : (∀ e ∈ es, e.IsLiteral) → IsLiteral (.tuple es)
  | dict {es : List Expr} : (∀ e ∈ es, e.IsLiteral) → IsLiteral (.dict es)
  | attribute {e : Expr} (n : Text) : e.IsLiteral → IsLiteral (.attribute e n)
  | item {e i : Expr} : e.IsLiteral → i.IsLiteral → IsLiteral (.item e i)
  | call {f : Expr} {es : List Expr} :
      f.IsLiteral → (∀ e ∈ es, e.IsLiteral) → IsLiteral (.call f es)
  | filter {e : Expr} {es : List Expr} (n : Text) (line : Nat) :
      e.IsLiteral → (∀ e ∈ es, e.IsLiteral) → IsLiteral (.filter n line e es)
  | test {e : Expr} {es : List Expr} (n : Text) (line : Nat) :
      e.IsLiteral → (∀ e ∈ es, e.IsLiteral) → IsLiteral (.test n line e es)
  | negate {e : Expr} : e.IsLiteral → IsLiteral (.negate e)
  | plus {e : Expr} : e.IsLiteral → IsLiteral (.plus e)
  | not {e : Expr} : e.IsLiteral → IsLiteral (.not e)
  | arith {l r : Expr} (op : Arith) : l.IsLiteral → r.IsLiteral → IsLiteral (.arith op l r)
  | concat {es : List Expr} : (∀ e ∈ es, e.IsLiteral) → IsLiteral (.concat es)
  | compare {e : Expr} {es : List Expr} (rs : List Relation) :
      e.IsLiteral → (∀ e ∈ es, e.IsLiteral) → IsLiteral (.compare e rs es)
  | and {l r : Expr} : l.IsLiteral → r.IsLiteral → IsLiteral (.and l r)
  | or {l r : Expr} : l.IsLiteral → r.IsLiteral → IsLiteral (.or l r)
  | branch {c e : Expr} (line : Nat) : c.IsLiteral → e.IsLiteral → IsLiteral (.branch line c e)
  | choice {c e e' : Expr} :
      c.IsLiteral → e.IsLiteral → e'.IsLiteral → IsLiteral (.choice c e e')

mutual

inductive Node.IsLiteral : Node → Prop
  | text (s : Text) : Node.IsLiteral (.text s)
  | print {e : Expr} : e.IsLiteral → Node.IsLiteral (.print e)
  | choose {bs : List Branch} {other : List Node} :
      (∀ b ∈ bs, b.IsLiteral) → (∀ x ∈ other, x.IsLiteral) → Node.IsLiteral (.choose bs other)
  | each {source : Expr} {test : Option Expr} {body other : List Node} (t : Target) :
      source.IsLiteral → (∀ e ∈ test, e.IsLiteral) → (∀ x ∈ body, x.IsLiteral) →
      (∀ x ∈ other, x.IsLiteral) → Node.IsLiteral (.each t source test body other)
  | assign {e : Expr} (t : Target) : e.IsLiteral → Node.IsLiteral (.assign t e)
  | capture {body : List Node} (t : Target) :
      (∀ x ∈ body, x.IsLiteral) → Node.IsLiteral (.capture t body)

inductive Branch.IsLiteral : Branch → Prop
  | of {c : Expr} {body : List Node} :
      c.IsLiteral → (∀ x ∈ body, x.IsLiteral) → Branch.IsLiteral (.of c body)

end

namespace Parser

variable {α β : Type} {Q R : α → Prop}

def Returns (Q : α → Prop) (p : Parser α) : Prop := ∀ ts a us, p ts = .ok (a, us) → Q a

theorem returns_any (p : Parser α) : Returns (fun _ => True) p := fun _ _ _ _ => trivial

theorem returns_fail (f : SyntaxFault) : Returns Q (fail f) := nofun

theorem returns_pure {a : α} (h : Q a) : Returns Q (pure a) := by
  rintro ts b us h'
  cases h'
  exact h

theorem Returns.bind {Q : β → Prop} {p : Parser β} {f : β → Parser α} (hp : Returns Q p)
    (hf : ∀ b, Q b → Returns R (f b)) : Returns R (p >>= f) := by
  intro ts a us h
  change (p ts >>= fun r => f r.1 r.2) = _ at h
  cases hr : p ts with
  | error e =>
    rw [hr] at h
    cases h
  | ok r =>
    rw [hr] at h
    exact hf r.1 (hp ts r.1 r.2 hr) r.2 a us h

theorem returns_after {p : Parser β} {f : β → Parser α} (hf : ∀ b, Returns R (f b)) :
    Returns R (p >>= f) :=
  (returns_any p).bind fun b _ => hf b

theorem Returns.ite {c : Prop} [Decidable c] {p q : Parser α} (hp : Returns Q p)
    (hq : Returns Q q) : Returns Q (if c then p else q) := by
  split
  · exact hp
  · exact hq

theorem isLiteral_of_constant? {n : Text} {v : Value} (h : constant? n = some v) : v.IsLiteral := by
  unfold constant? at h
  split at h
  · cases h
    exact .bool true
  · split at h
    · cases h
      exact .bool false
    · split at h
      · cases h
        exact .null
      · cases h

abbrev Reads (p : Parser Expr) : Prop := Returns Expr.IsLiteral p

abbrev ReadsAll (p : Parser (List Expr)) : Prop := Returns (fun es => ∀ e ∈ es, e.IsLiteral) p

mutual

theorem reads_expression (conditional : Bool) : (fuel : Nat) → Reads (expression conditional fuel)
  | 0 => returns_fail _
  | fuel + 1 => by
    rw [expression]
    refine returns_after fun l => (reads_disjunction fuel).bind fun e he => ?_
    exact .ite (reads_conditions fuel l he) (returns_pure he)

theorem reads_conditions : (fuel : Nat) → (l : Nat) → {e : Expr} → e.IsLiteral →
    Reads (conditions fuel l e)
  | 0, _, _, _ => returns_fail _
  | fuel + 1, l, e, he => by
    rw [conditions]
    refine returns_after fun _ => .ite ?_ (returns_pure he)
    refine (reads_disjunction fuel).bind fun c hc => returns_after fun _ => .ite ?_ ?_
    · refine (reads_expression true fuel).bind fun other hother => returns_after fun l => ?_
      exact reads_conditions fuel l (.choice hc he hother)
    · exact returns_after fun l' => reads_conditions fuel l' (.branch l hc he)

theorem reads_disjunction : (fuel : Nat) → Reads (disjunction fuel)
  | 0 => returns_fail _
  | fuel + 1 => (reads_conjunction fuel).bind fun _ he => reads_disjunctions fuel he

theorem reads_disjunctions : (fuel : Nat) → {l : Expr} → l.IsLiteral → Reads (disjunctions fuel l)
  | 0, _, _ => returns_fail _
  | fuel + 1, _, hl => by
    rw [disjunctions]
    refine returns_after fun _ => .ite ?_ (returns_pure hl)
    exact (reads_conjunction fuel).bind fun _ hr => reads_disjunctions fuel (.or hl hr)

theorem reads_conjunction : (fuel : Nat) → Reads (conjunction fuel)
  | 0 => returns_fail _
  | fuel + 1 => (reads_negation fuel).bind fun _ he => reads_conjunctions fuel he

theorem reads_conjunctions : (fuel : Nat) → {l : Expr} → l.IsLiteral → Reads (conjunctions fuel l)
  | 0, _, _ => returns_fail _
  | fuel + 1, _, hl => by
    rw [conjunctions]
    refine returns_after fun _ => .ite ?_ (returns_pure hl)
    exact (reads_negation fuel).bind fun _ hr => reads_conjunctions fuel (.and hl hr)

theorem reads_negation : (fuel : Nat) → Reads (negation fuel)
  | 0 => returns_fail _
  | fuel + 1 => by
    rw [negation]
    refine returns_after fun _ => .ite ?_ (reads_comparison fuel)
    exact (reads_negation fuel).bind fun _ he => returns_pure (.not he)

theorem reads_comparison : (fuel : Nat) → Reads (comparison fuel)
  | 0 => returns_fail _
  | fuel + 1 => by
    rw [comparison]
    refine (reads_arithmetic 0 fuel).bind fun e he => ?_
    refine (reads_comparisons fuel).bind fun rest hrest => .ite (returns_pure he) ?_
    exact returns_pure (.compare _ he (List.forall_mem_map.2 hrest))

theorem reads_comparisons : (fuel : Nat) →
    Returns (fun rest => ∀ r ∈ rest, r.2.IsLiteral) (comparisons fuel)
  | 0 => returns_fail _
  | fuel + 1 => by
    rw [comparisons]
    refine returns_after fun r => ?_
    cases r with
    | none => exact returns_pure nofun
    | some r =>
      refine (reads_arithmetic 0 fuel).bind fun e he => ?_
      exact (reads_comparisons fuel).bind fun rest hrest =>
        returns_pure (List.forall_mem_cons.2 ⟨he, hrest⟩)

theorem reads_arithmetic : (level fuel : Nat) → Reads (arithmetic level fuel)
  | _, 0 => returns_fail _
  | 0, fuel + 1 => (reads_arithmetic 1 fuel).bind fun _ he => reads_operations sums 1 fuel he
  | 1, fuel + 1 => by
    rw [arithmetic]
    refine (reads_arithmetic 2 fuel).bind fun _ he => (reads_parts fuel).bind fun _ hes => ?_
    exact .ite (returns_pure he) (returns_pure (.concat (List.forall_mem_cons.2 ⟨he, hes⟩)))
  | 2, fuel + 1 => (reads_arithmetic 3 fuel).bind fun _ he => reads_operations products 3 fuel he
  | 3, fuel + 1 => (reads_unary true fuel).bind fun _ he => reads_operations powers 4 fuel he
  | _ + 4, fuel + 1 => reads_unary true fuel

theorem reads_operations (table : List (Mark × Arith)) (level : Nat) : (fuel : Nat) → {l : Expr} →
    l.IsLiteral → Reads (operations table level fuel l)
  | 0, _, _ => returns_fail _
  | fuel + 1, _, hl => by
    rw [operations]
    refine returns_after fun op => ?_
    cases op with
    | none => exact returns_pure hl
    | some op =>
      exact (reads_arithmetic level fuel).bind fun _ hr =>
        reads_operations table level fuel (.arith op hl hr)

theorem reads_parts : (fuel : Nat) → ReadsAll (parts fuel)
  | 0 => returns_fail _
  | fuel + 1 => by
    rw [parts]
    refine returns_after fun _ => .ite ?_ (returns_pure nofun)
    refine (reads_arithmetic 2 fuel).bind fun _ he => (reads_parts fuel).bind fun _ hes => ?_
    exact returns_pure (List.forall_mem_cons.2 ⟨he, hes⟩)

theorem reads_unary (filtered : Bool) : (fuel : Nat) → Reads (unary filtered fuel)
  | 0 => returns_fail _
  | fuel + 1 => by
    have hattached : ∀ {e : Expr}, e.IsLiteral →
        Reads (postfixes fuel e >>= fun e => if filtered then filters fuel e else pure e) :=
      fun he => (reads_postfixes fuel he).bind fun _ he' =>
        .ite (reads_filters fuel he') (returns_pure he')
    rw [unary]
    refine returns_after fun _ => .ite ?_ <| returns_after fun _ => .ite ?_ ?_
    · exact (reads_unary false fuel).bind fun _ he => hattached (.negate he)
    · exact (reads_unary false fuel).bind fun _ he => hattached (.plus he)
    · exact (reads_primary fuel).bind fun _ he => hattached he

theorem reads_primary : (fuel : Nat) → Reads (primary fuel)
  | 0 => returns_fail _
  | fuel + 1 => by
    rw [primary]
    refine returns_after fun t => ?_
    split
    · refine returns_after fun _ => returns_after fun _ => ?_
      split
      · next h => exact returns_pure (.const (isLiteral_of_constant? h))
      · exact returns_pure (.name _ _)
    · exact returns_after fun s => returns_pure (.const (.text s))
    · exact returns_after fun _ => returns_pure (.const (.int _))
    · exact returns_after fun _ => returns_after fun _ => returns_pure (.const (.float _))
    · refine returns_after fun _ => (reads_tuple false true true [] fuel).bind fun _ he => ?_
      exact returns_after fun _ => returns_pure he
    · refine returns_after fun _ => (reads_listItems fuel false).bind fun _ hes => ?_
      exact returns_pure (.list hes)
    · refine returns_after fun _ => (reads_dictItems fuel false).bind fun _ hes => ?_
      exact returns_pure (.dict hes)
    · exact returns_fail _

theorem reads_tuple (simple conditional enclosed : Bool) (words : List Text) : (fuel : Nat) →
    Reads (tuple simple conditional enclosed words fuel)
  | 0 => returns_fail _
  | fuel + 1 => by
    rw [tuple]
    refine (reads_tupleItems simple conditional words fuel true).bind fun r hr => ?_
    refine .ite (returns_pure (.tuple hr)) ?_
    split
    · next h => exact returns_pure (hr _ (by simp [h]))
    · exact .ite (returns_pure (.tuple nofun)) (returns_after fun _ => returns_fail _)

theorem reads_tupleItems (simple conditional : Bool) (words : List Text) : (fuel : Nat) →
    (first : Bool) →
    Returns (fun r => ∀ e ∈ r.1, e.IsLiteral) (tupleItems simple conditional words fuel first)
  | 0, _ => returns_fail _
  | fuel + 1, first => by
    have hitems : Returns (fun r => ∀ e ∈ r.1, e.IsLiteral) (do
        if ← tupleEnds words then return ([], !first)
        let e ← if simple then primary fuel else expression conditional fuel
        if ← isMark .comma then
          let (es, _) ← tupleItems simple conditional words fuel false
          return (e :: es, true)
        else return ([e], !first)) := by
      refine returns_after fun _ => .ite (returns_pure nofun) ?_
      have hitem : ∀ {e : Expr}, e.IsLiteral → Returns (fun r => ∀ e ∈ r.1, e.IsLiteral) (do
          if ← isMark .comma then
            let (es, _) ← tupleItems simple conditional words fuel false
            return (e :: es, true)
          else return ([e], !first)) := by
        intro e he
        refine returns_after fun _ => .ite ?_ (returns_pure (by simpa using he))
        exact (reads_tupleItems simple conditional words fuel false).bind fun _ hes =>
          returns_pure (List.forall_mem_cons.2 ⟨he, hes⟩)
      refine .ite ?_ ?_
      · exact (reads_primary fuel).bind fun _ he => hitem he
      · exact (reads_expression conditional fuel).bind fun _ he => hitem he
    rw [tupleItems]
    exact .ite (returns_after fun _ => hitems) hitems

theorem reads_listItems : (fuel : Nat) → (started : Bool) → ReadsAll (listItems fuel started)
  | 0, _ => returns_fail _
  | fuel + 1, started => by
    have hitems : ReadsAll (do
        if ← skipMark .closeBracket then return []
        let e ← expression true fuel
        return e :: (← listItems fuel true)) := by
      refine returns_after fun _ => .ite (returns_pure nofun) ?_
      refine (reads_expression true fuel).bind fun _ he => ?_
      exact (reads_listItems fuel true).bind fun _ hes =>
        returns_pure (List.forall_mem_cons.2 ⟨he, hes⟩)
    rw [listItems]
    refine returns_after fun _ => .ite (returns_pure nofun) ?_
    exact .ite (returns_after fun _ => hitems) hitems

theorem reads_dictItems : (fuel : Nat) → (started : Bool) → ReadsAll (dictItems fuel started)
  | 0, _ => returns_fail _
  | fuel + 1, started => by
    have hitems : ReadsAll (do
        if ← skipMark .closeBrace then return []
        let k ← expression true fuel
        expectMark .colon
        let v ← expression true fuel
        return k :: v :: (← dictItems fuel true)) := by
      refine returns_after fun _ => .ite (returns_pure nofun) ?_
      refine (reads_expression true fuel).bind fun _ hk => returns_after fun _ => ?_
      refine (reads_expression true fuel).bind fun _ hv => ?_
      exact (reads_dictItems fuel true).bind fun _ hes => returns_pure
        (List.forall_mem_cons.2 ⟨hk, List.forall_mem_cons.2 ⟨hv, hes⟩⟩)
    rw [dictItems]
    refine returns_after fun _ => .ite (returns_pure nofun) ?_
    exact .ite (returns_after fun _ => hitems) hitems

theorem reads_indices : (fuel : Nat) → (started : Bool) → ReadsAll (indices fuel started)
  | 0, _ => returns_fail _
  | fuel + 1, started => by
    have hitems : ReadsAll (do
        leaveAt .colon
        let e ← expression true fuel
        leaveAt .colon
        return e :: (← indices fuel true)) := by
      refine returns_after fun _ => (reads_expression true fuel).bind fun _ he => ?_
      exact returns_after fun _ => (reads_indices fuel true).bind fun _ hes =>
        returns_pure (List.forall_mem_cons.2 ⟨he, hes⟩)
    rw [indices]
    refine returns_after fun _ => .ite (returns_pure nofun) ?_
    exact .ite (returns_after fun _ => hitems) hitems

theorem reads_arguments : (fuel : Nat) → (started : Bool) → ReadsAll (arguments fuel started)
  | 0, _ => returns_fail _
  | fuel + 1, started => by
    have hitems : ReadsAll (do
        if ← skipMark .closeParen then return []
        leaveAt .star
        leaveAt .doubleStar
        leave (← nextIsKeyword)
        let e ← expression true fuel
        return e :: (← arguments fuel true)) := by
      refine returns_after fun _ => .ite (returns_pure nofun) <| returns_after fun _ => ?_
      refine returns_after fun _ => returns_after fun _ => returns_after fun _ => ?_
      refine (reads_expression true fuel).bind fun _ he => ?_
      exact (reads_arguments fuel true).bind fun _ hes =>
        returns_pure (List.forall_mem_cons.2 ⟨he, hes⟩)
    rw [arguments]
    refine returns_after fun _ => .ite (returns_pure nofun) ?_
    exact .ite (returns_after fun _ => hitems) hitems

theorem reads_postfixes : (fuel : Nat) → {e : Expr} → e.IsLiteral → Reads (postfixes fuel e)
  | 0, _, _ => returns_fail _
  | fuel + 1, e, he => by
    rw [postfixes]
    refine returns_after fun _ => .ite ?member <| returns_after fun _ => .ite ?element <|
      returns_after fun _ => .ite ?call (returns_pure he)
    case member =>
      refine returns_after fun t => ?_
      split
      · exact reads_postfixes fuel (.attribute _ he)
      · exact reads_postfixes fuel (.item he (.const (.int _)))
      · exact returns_fail _
    case element =>
      refine (reads_indices fuel false).bind fun es hes => ?_
      split
      · exact reads_postfixes fuel (.item he (hes _ (by simp)))
      · exact reads_postfixes fuel (.item he (.tuple hes))
    case call =>
      exact (reads_arguments fuel false).bind fun es hes => reads_postfixes fuel (.call he hes)

theorem reads_filters : (fuel : Nat) → {e : Expr} → e.IsLiteral → Reads (filters fuel e)
  | 0, _, _ => returns_fail _
  | fuel + 1, e, he => by
    rw [filters]
    refine returns_after fun _ => .ite ?filter <| returns_after fun _ => .ite ?test <|
      returns_after fun _ => .ite ?call (returns_pure he)
    case filter =>
      refine returns_after fun _ => returns_after fun n => returns_after fun _ => .ite ?_ ?_
      · exact (reads_arguments fuel false).bind fun es hes =>
          reads_filters fuel (.filter _ _ he hes)
      · exact reads_filters fuel (.filter _ _ he nofun)
    case test => exact (reads_test fuel he).bind fun t ht => reads_filters fuel ht
    case call =>
      exact (reads_arguments fuel false).bind fun es hes => reads_filters fuel (.call he hes)

theorem reads_test : (fuel : Nat) → {e : Expr} → e.IsLiteral → Reads (test fuel e)
  | 0, _, _ => returns_fail _
  | fuel + 1, e, he => by
    have htest : ∀ {n : Text} {l : Nat} {negated : Bool} {es : List Expr},
        (∀ e ∈ es, e.IsLiteral) →
        Reads (pure (if negated then .not (.test n l e es) else .test n l e es)) := by
      intro n l negated es hes
      refine returns_pure ?_
      split
      · exact .not (.test n l he hes)
      · exact .test n l he hes
    rw [test]
    refine returns_after fun l => returns_after fun _ => returns_after fun negated => ?_
    refine returns_after fun _ => returns_after fun n => ?_
    refine returns_after fun _ => returns_after fun _ => .ite ?given <| .ite ?next (htest nofun)
    case given => exact (reads_arguments fuel false).bind fun es hes => htest hes
    case next =>
      refine returns_after fun _ => .ite (returns_fail _) ?_
      exact (reads_primary fuel).bind fun a ha => (reads_postfixes fuel ha).bind fun a ha =>
        htest (by simpa using ha)

end

abbrev ReadsNodes (p : Parser (List Node)) : Prop := Returns (fun ns => ∀ x ∈ ns, x.IsLiteral) p

theorem reads_printed : (fuel : Nat) → (started : Bool) → ReadsNodes (printed fuel started)
  | 0, _ => returns_fail _
  | fuel + 1, started => by
    have hitems : ReadsNodes (do
        let e ← expression true fuel
        return .print e :: (← printed fuel true)) :=
      (reads_expression true fuel).bind fun _ he => (reads_printed fuel true).bind fun _ hns =>
        returns_pure (List.forall_mem_cons.2 ⟨.print he, hns⟩)
    rw [printed]
    refine returns_after fun s => ?_
    split
    · exact returns_pure nofun
    · exact .ite (returns_after fun _ => hitems) hitems

mutual

theorem reads_nodes (openings : List Opening) : (fuel : Nat) → ReadsNodes (nodes openings fuel)
  | 0 => returns_fail _
  | fuel + 1 => by
    rw [nodes]
    refine returns_after fun s => ?_
    split
    · refine returns_after fun _ => (reads_nodes openings fuel).bind fun _ hns => ?_
      exact returns_pure (List.forall_mem_cons.2 ⟨.text _, hns⟩)
    · refine returns_after fun _ => (reads_tuple false true false [] fuel).bind fun _ he => ?_
      refine returns_after fun _ => (reads_nodes openings fuel).bind fun _ hns => ?_
      exact returns_pure (List.forall_mem_cons.2 ⟨.print he, hns⟩)
    · refine returns_after fun _ => returns_after fun _ => .ite (returns_pure nofun) ?_
      refine (reads_statement openings fuel).bind fun _ hms => returns_after fun _ => ?_
      exact (reads_nodes openings fuel).bind fun _ hns =>
        returns_pure (List.forall_mem_append.2 ⟨hms, hns⟩)
    · exact returns_pure nofun
    · exact returns_fail _

theorem reads_part (tag : Text) (ends : List Text) (openings : List Opening) : (fuel : Nat) →
    ReadsNodes (part tag ends openings fuel)
  | 0 => returns_fail _
  | fuel + 1 => by
    rw [part]
    refine returns_after fun _ => returns_after fun _ => ?_
    refine (reads_nodes (⟨tag, ends⟩ :: openings) fuel).bind fun ns hns => returns_after fun s => ?_
    split
    · exact returns_fail _
    · exact returns_pure hns

theorem reads_statement (openings : List Opening) : (fuel : Nat) →
    ReadsNodes (statement openings fuel)
  | 0 => returns_fail _
  | fuel + 1 => by
    have hone : ∀ {x : Node}, x.IsLiteral → ReadsNodes (pure [x]) :=
      fun hx => returns_pure (by simpa using hx)
    rw [statement]
    refine returns_after fun t => ?_
    split
    · refine .ite ?_ <| .ite ?_ <| .ite ?_ <| .ite ?_ <| .ite (returns_fail _) (returns_fail _)
      · refine returns_after fun _ => (reads_branches openings fuel).bind fun r hr => ?_
        exact hone (.choose hr.1 hr.2)
      · exact returns_after fun _ => (reads_loop openings fuel).bind fun _ hx => hone hx
      · exact returns_after fun _ => (reads_setting openings fuel).bind fun _ hx => hone hx
      · exact returns_after fun _ => reads_printed fuel false
    · exact returns_fail _

theorem reads_branches (openings : List Opening) : (fuel : Nat) →
    Returns (fun r => (∀ b ∈ r.1, b.IsLiteral) ∧ ∀ x ∈ r.2, x.IsLiteral) (branches openings fuel)
  | 0 => returns_fail _
  | fuel + 1 => by
    rw [branches]
    refine (reads_tuple false false false [] fuel).bind fun c hc => ?_
    refine (reads_part "if" ["elif", "else", "endif"] openings fuel).bind fun body hbody => ?_
    refine returns_after fun _ => .ite ?_ <| returns_after fun _ => .ite ?_ ?_
    · refine (reads_branches openings fuel).bind fun r hr => returns_pure ⟨?_, hr.2⟩
      exact List.forall_mem_cons.2 ⟨.of hc hbody, hr.1⟩
    · refine (reads_part "if" ["endif"] openings fuel).bind fun other hother => ?_
      exact returns_after fun _ => returns_pure ⟨by simpa using .of hc hbody, hother⟩
    · exact returns_after fun _ => returns_pure ⟨by simpa using .of hc hbody, nofun⟩

theorem reads_loop (openings : List Opening) : (fuel : Nat) →
    Returns Node.IsLiteral (loop openings fuel)
  | 0 => returns_fail _
  | fuel + 1 => by
    have hparts : ∀ {t : Target} {source : Expr} {test : Option Expr}, source.IsLiteral →
        (∀ e ∈ test, e.IsLiteral) → Returns Node.IsLiteral (do
          let _ ← skipName "recursive"
          let body ← part "for" ["endfor", "else"] openings fuel
          if ← skipName "else" then
            let other ← part "for" ["endfor"] openings fuel
            expectWord "endfor"
            return .each t source test body other
          else
            expectWord "endfor"
            return .each t source test body []) := by
      intro t source test hsource htest
      refine returns_after fun _ => ?_
      refine (reads_part "for" ["endfor", "else"] openings fuel).bind fun body hbody => ?_
      refine returns_after fun _ => .ite ?_ ?_
      · refine (reads_part "for" ["endfor"] openings fuel).bind fun other hother => ?_
        exact returns_after fun _ => returns_pure (.each t hsource htest hbody hother)
      · exact returns_after fun _ => returns_pure (.each t hsource htest hbody nofun)
    rw [loop]
    refine returns_after fun t => returns_after fun _ => ?_
    refine (reads_tuple false false false ["recursive"] fuel).bind fun source hsource => ?_
    refine returns_after fun _ => .ite ?_ (hparts hsource nofun)
    exact (reads_expression true fuel).bind fun test htest => hparts hsource (by simpa using htest)

theorem reads_setting (openings : List Opening) : (fuel : Nat) →
    Returns Node.IsLiteral (setting openings fuel)
  | 0 => returns_fail _
  | fuel + 1 => by
    rw [setting]
    refine returns_after fun t => returns_after fun _ => returns_after fun _ => ?_
    refine returns_after fun _ => .ite ?_ ?_
    · exact (reads_tuple false true false [] fuel).bind fun e he => returns_pure (.assign t he)
    · refine (reads_part "set" ["endset"] openings fuel).bind fun body hbody => ?_
      exact returns_after fun _ => returns_pure (.capture t hbody)

end

end Parser

/-- Reading makes no constants but literals. -/
theorem isLiteral_of_read {source : Text} {ns : List Node} (h : read source = .ok ns) :
    ∀ x ∈ ns, x.IsLiteral := by
  unfold read at h
  obtain ⟨ms, hparse, h⟩ := bind_eq_ok.1 h
  obtain ⟨ts, -, hparse⟩ := bind_eq_ok.1 (mapError_eq_ok.1 hparse)
  obtain ⟨r, hnodes, hpure⟩ := bind_eq_ok.1 hparse
  cases hpure
  split at h
  · cases h
  · cases h
    exact Parser.reads_nodes [] _ ts r.1 r.2 hnodes

end Template

end CrateScaffold
