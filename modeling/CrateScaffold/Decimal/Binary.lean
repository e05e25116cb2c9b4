import CrateScaffold.Decimal.Shortest
import CrateScaffold.Text.Basic

/-!
Binary floating point numbers and their texts. Positional notation is kept from `0.0001` up to
`1e16`; beyond, one digit stands before the point and the exponent has at least two digits. A
number with a whole value still shows that it is no integer.
-/

namespace CrateScaffold.Decimal

inductive Class where
  | nan
  | infinite (negative : Bool)
  | finite (negative : Bool) (m : Nat) (q : Int)
  deriving DecidableEq, Repr

def classify (x : Float) : Class :=
  let bits : Nat := x.toBits.toNat
  let negative := bits / pow2 63 == 1
  let exponent : Nat := bits / pow2 52 % 2048
  let fraction : Nat := bits % pow2 52
  if exponent = 2047 then if fraction = 0 then .infinite negative else .nan
  else if exponent = 0 then .finite negative fraction (-1074)
  else .finite negative (fraction + pow2 52) ((exponent : Int) - 1075)

def trimZeros : Nat → Nat → Int → Nat × Int
  | 0, c, k => (c, k)
  | fuel + 1, c, k => if c ≠ 0 ∧ c % 10 = 0 then trimZeros fuel (c / 10) (k + 1) else (c, k)

def positional (ds : Text) (n : Int) : Text :=
  if n ≤ 0 then '0' :: '.' :: (List.replicate (-n).toNat '0' ++ ds)
  else if ds.length ≤ n.toNat then ds ++ List.replicate (n.toNat - ds.length) '0' ++ ['.', '0']
  else ds.take n.toNat ++ '.' :: ds.drop n.toNat

def scientific (ds : Text) (e : Int) : Text :=
  let point : Text := if ds.length ≤ 1 then [] else '.' :: ds.drop 1
  let sign : Text := if e < 0 then ['-'] else ['+']
  ds.take 1 ++ point ++ 'e' :: sign ++ Text.padLeft 2 '0' (Text.ofNat e.natAbs)

def magnitude (m : Nat) (q : Int) : Text :=
  if m = 0 then ['0', '.', '0']
  else
    let (c, k) := shortest m q (m == pow2 52 && q != -1074)
    let (c, k) := trimZeros 400 c k
    let ds := Text.ofNat c
    let e := k + ds.length - 1
    if -4 ≤ e ∧ e < 16 then positional ds (e + 1) else scientific ds e

def sign (negative : Bool) (s : Text) : Text := if negative then '-' :: s else s

def ofFloat (x : Float) : Text :=
  match classify x with
  | .nan => "nan"
  | .infinite negative => sign negative "inf"
  | .finite negative m q => sign negative (magnitude m q)

def toFloat (negative : Bool) (c : Nat) (k : Int) : Float :=
  let digits : Int := (Nat.toDigits 10 c).length
  let x :=
    if k + digits < -400 then 0.0
    else if 400 < k + digits ∧ c ≠ 0 then 1.0 / 0.0
    else Float.ofScientific c (k < 0) k.natAbs
  if negative then -x else x

def ofQuotient (a b : Nat) : Float :=
  let shift := 66 + b.log2 - a.log2
  let scaled := a * pow2 shift
  let digits := 2 * (scaled / b) + if scaled % b = 0 then 0 else 1
  (Float.ofNat digits).scaleB (-((shift : Int) + 1))

def remainderMagnitude (m : Nat) (q : Int) (n : Nat) (r : Int) : Float :=
  let low := min q r
  (Float.ofNat (m * pow2 (q - low).toNat % (n * pow2 (r - low).toNat))).scaleB low

def remainder (x y : Float) : Float :=
  match classify x, classify y with
  | .finite negative m q, .finite negative' n r =>
    if n = 0 then 0.0 / 0.0
    else
      let z := remainderMagnitude m q n r
      let z := if z == 0.0 ∨ negative = negative' then z else y.abs - z
      if negative' then -z else z
  | .finite negative .., .infinite negative' =>
    if negative = negative' ∨ x == 0.0 then x else y
  | _, _ => 0.0 / 0.0

def wholeQuotient (x y : Float) : Float :=
  let q := ((x - remainder x y) / y)
  let w := q.floor
  if 0.5 < q - w then w + 1.0 else w

def ofInt (n : Int) : Float := toFloat (n < 0) n.natAbs 0

def compareInt (n : Int) (x : Float) : Option Ordering :=
  match classify x with
  | .nan => none
  | .infinite negative => some (if negative then .gt else .lt)
  | .finite negative m q =>
    let whole : Int := (m * pow2 q.toNat : Nat)
    some (compare (n * (pow2 (-q).toNat : Nat)) (if negative then -whole else whole))

def compareFloat (x y : Float) : Option Ordering :=
  if x < y then some .lt else if y < x then some .gt else if x == y then some .eq else none

end CrateScaffold.Decimal
