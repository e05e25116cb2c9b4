import CrateScaffold.Decimal.Binary
import CrateScaffold.Value.Basic

/-!
Equality and order of values. Numbers of all kinds compare by what they stand for, sequences item
by item; values of other kinds have no order.
-/

namespace CrateScaffold.Value

inductive Numeric where
  | int (n : Int)
  | float (x : Float)

def numeric? : Value → Option Numeric
  | .bool b => some (.int (if b then 1 else 0))
  | .int n => some (.int n)
  | .float x => some (.float x)
  | _ => none

def Numeric.toFloat : Numeric → Float
  | .int n => Decimal.ofInt n
  | .float x => x

def Numeric.compare : Numeric → Numeric → Option Ordering
  | .int m, .int n => some (Ord.compare m n)
  | .int n, .float x => Decimal.compareInt n x
  | .float x, .int n => (Decimal.compareInt n x).map Ordering.swap
  | .float x, .float y => Decimal.compareFloat x y

def compareText (s t : Text) : Ordering := if s < t then .lt else if t < s then .gt else .eq

mutual

def equal : Value → Value → Bool
  | .null, w => match w with | .null => true | _ => false
  | .bool b, w => equalNumber (.int (if b then 1 else 0)) w
  | .int n, w => equalNumber (.int n) w
  | .float x, w => equalNumber (.float x) w
  | .text s, w => w.toText? == some s
  | .markup s, w => w.toText? == some s
  | .moment m, w => match w with | .moment m' => m == m' | _ => false
  | .list xs, w => match w with | .list ys => equalAll xs ys | _ => false
  | .tuple xs, w => match w with | .tuple ys => equalAll xs ys | _ => false
  | .table es, w =>
    match w with
    | .table fs => es.length == fs.length && entriesIn es fs
    | _ => false
  | .entries es, w =>
    match w with
    | .entries fs => es.length == fs.length && entriesIn es fs
    | _ => false
  | .range a b c, w =>
    match w with
    | .range a' b' c' =>
      let n := rangeLength a b c
      n == rangeLength a' b' c' && (n == 0 || a == a' && (n == 1 || c == c'))
    | _ => false
  | .loop i n, w => match w with | .loop i' n' => i == i' && n == n' | _ => false
  | .method v n, w => match w with | .method v' n' => n == n' && equal v v' | _ => false
  | .builtin n, w => match w with | .builtin n' => n == n' | _ => false
  | .undefined _, w => match w with | .undefined _ => true | _ => false

def equalAll : List Value → List Value → Bool
  | [], ys => ys.isEmpty
  | x :: xs, ys => match ys with | [] => false | y :: ys => equal x y && equalAll xs ys

def entriesIn : List (Value × Value) → List (Value × Value) → Bool
  | [], _ => true
  | (k, v) :: es, fs => fs.any (fun f => equal k f.1 && equal v f.2) && entriesIn es fs

def equalNumber (x : Numeric) (w : Value) : Bool :=
  match numeric? w with
  | some y => x.compare y == some .eq
  | none => false

end

abbrev Unordered := Text × Text

mutual

def order : Value → Value → Except Unordered (Option Ordering)
  | .text s, w => orderText s "str" w
  | .markup s, w => orderText s "Markup" w
  | .list xs, w =>
    match w with
    | .list ys => orderAll xs ys
    | _ => .error ("list", w.kind)
  | .tuple xs, w =>
    match w with
    | .tuple ys => orderAll xs ys
    | _ => .error ("tuple", w.kind)
  | v, w =>
    match numeric? v, numeric? w with
    | some x, some y => .ok (x.compare y)
    | _, _ => .error (v.kind, w.kind)

def orderAll : List Value → List Value → Except Unordered (Option Ordering)
  | [], [] => .ok (some .eq)
  | [], _ :: _ => .ok (some .lt)
  | _ :: _, [] => .ok (some .gt)
  | x :: xs, y :: ys => if equal x y then orderAll xs ys else order x y

def orderText (s kind : Text) (w : Value) : Except Unordered (Option Ordering) :=
  match w.toText? with
  | some t => .ok (some (compareText s t))
  | none => .error (kind, w.kind)

end

def find? (key : Value) : List (Value × Value) → Option Value
  | [] => none
  | (k, v) :: es => if equal key k then some v else find? key es

def insert (key value : Value) : List (Value × Value) → List (Value × Value)
  | [] => [(key, value)]
  | (k, v) :: es => if equal key k then (k, value) :: es else (k, v) :: insert key value es

end CrateScaffold.Value
