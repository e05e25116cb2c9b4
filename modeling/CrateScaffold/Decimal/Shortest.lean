/-!
The shortest decimal that reads back as a given binary number. A binary number `m * 2 ^ q` stands
for every real that rounds to it; of the decimals in that interval the one with the fewest digits
is taken, and of those the nearest.
-/

namespace CrateScaffold.Decimal

def pow2 (n : Nat) : Nat := Nat.pow 2 n

def pow10 (n : Nat) : Nat := Nat.pow 10 n

/-- The reals from `low / den` to `high / den` around `mid / den`; the ends belong to it when
`closed`. -/
structure Rounding where
  low : Nat
  mid : Nat
  high : Nat
  den : Nat
  closed : Bool

def Rounding.of (m : Nat) (q : Int) (nearBelow : Bool) : Rounding where
  low := (4 * m - if nearBelow then 1 else 2) * pow2 (q - 2).toNat
  mid := 4 * m * pow2 (q - 2).toNat
  high := (4 * m + 2) * pow2 (q - 2).toNat
  den := pow2 (2 - q).toNat
  closed := m % 2 == 0

def Rounding.holds (r : Rounding) (k : Int) (c : Nat) : Bool :=
  let x := c * pow10 k.toNat * r.den
  let low := r.low * pow10 (-k).toNat
  let high := r.high * pow10 (-k).toNat
  if r.closed then low ≤ x && x ≤ high else low < x && x < high

/-- The multiple of `10 ^ k` in the interval that is nearest to its middle, an even one if two
are. -/
def Rounding.onGrid? (r : Rounding) (k : Int) : Option Nat :=
  let unit := pow10 k.toNat * r.den
  let mid := r.mid * pow10 (-k).toNat
  let below := mid / unit
  match r.holds k below, r.holds k (below + 1) with
  | true, true =>
    let twice := 2 * (mid - below * unit)
    some (if twice < unit ∨ twice = unit ∧ below % 2 = 0 then below else below + 1)
  | true, false => some below
  | false, true => some (below + 1)
  | false, false => none

def Rounding.lead (r : Rounding) : Int :=
  if r.den ≤ r.mid then ((Nat.toDigits 10 (r.mid / r.den)).length : Int) - 1
  else -((Nat.toDigits 10 ((r.den + r.mid - 1) / r.mid - 1)).length : Int)

def Rounding.search (r : Rounding) (k : Int) : Nat → Nat × Int
  | 0 => (r.mid / r.den, 0)
  | fuel + 1 =>
    match r.onGrid? k with
    | some c => (c, k)
    | none => r.search (k - 1) fuel

def shortest (m : Nat) (q : Int) (nearBelow : Bool) : Nat × Int :=
  let r := Rounding.of m q nearBelow
  r.search r.lead 18

end CrateScaffold.Decimal
