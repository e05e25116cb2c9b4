import CrateScaffold.Decimal.Binary
import CrateScaffold.Value.Basic

/-!
Numbers, dates and times of a manifest, each from the whole text of a value. Underscores may stand
between digits; a decimal number has no leading zero and digits on both sides of its point.
-/

namespace CrateScaffold.Toml

def baseOf : Text → Nat
  | '0' :: 'b' :: _ => 2
  | '0' :: 'o' :: _ => 8
  | '0' :: 'x' :: _ => 16
  | _ => 10

/-- The text without underscores, if each stands between two digits; `before` is the last
character. -/
def withoutUnderscores (base : Nat) (before : Char) : Text → Option Text
  | [] => some []
  | c :: s =>
    if c = '_' then
      if Text.isDigitIn base before && s.head?.any (Text.isDigitIn base) then
        withoutUnderscores base c s
      else none
    else (withoutUnderscores base c s).map (c.toLower :: ·)

def isNumeral (base : Nat) (s : Text) : Bool := !s.isEmpty && s.all (Text.isDigitIn base)

def negated (negative : Bool) (n : Nat) : Int := if negative then -(n : Int) else n

def integer? (negative : Bool) (base : Nat) (s : Text) : Option Value :=
  let ds := if base = 10 then s else s.drop 2
  if isNumeral base ds then some (.int (negated negative (Text.valueIn base ds))) else none

def exponent? : Text → Option Int
  | [] => some 0
  | 'e' :: '-' :: s => if isNumeral 10 s then some (-(Text.valueIn 10 s : Int)) else none
  | 'e' :: '+' :: s => if isNumeral 10 s then some (Text.valueIn 10 s) else none
  | 'e' :: s => if isNumeral 10 s then some (Text.valueIn 10 s) else none
  | _ => none

def float? (negative : Bool) (s : Text) : Option Value :=
  if s = "inf" ∨ s = "infinity" then
    some (.float (if negative then -(1.0 / 0.0) else 1.0 / 0.0))
  else if s = "nan" then some (.float (0.0 / 0.0))
  else
    let whole := s.takeWhile Char.isDigit
    let (fraction, rest) := match s.dropWhile Char.isDigit with
      | '.' :: r => (r.takeWhile Char.isDigit, r.dropWhile Char.isDigit)
      | r => ([], r)
    if whole.isEmpty then none
    else
      (exponent? rest).map fun e =>
        .float (Decimal.toFloat negative (Text.valueIn 10 (whole ++ fraction))
          (e - fraction.length))

def hasLeadingZero : Text → Bool
  | '0' :: c :: _ => !(['.', 'o', 'x', 'b', 'e'].contains c)
  | _ => false

def number? (raw : Text) : Option Value :=
  let negative := raw.head? == some '-'
  let isSigned := negative || raw.head? == some '+'
  let s := if isSigned then raw.drop 1 else raw
  let base := baseOf s
  if hasLeadingZero s || isSigned && (base != 10 || s.head? == some '.' && 1 < s.length) then none
  else
    match withoutUnderscores base ' ' s with
    | none => none
    | some t =>
      let mantissa := if base = 16 then t else t.takeWhile (· != 'e')
      if t.getLast? = some '.' || mantissa.getLast? = some '.' then none
      else (integer? negative base t).or (float? negative t)

def field? (n : Nat) (separator : Option Char) (s : Text) : Option (Nat × Text) :=
  let ds := s.take n
  let rest := s.drop n
  if ds.length = n ∧ ds.all Char.isDigit then
    match separator with
    | none => some (Text.valueIn 10 ds, rest)
    | some c => if rest.head? = some c then some (Text.valueIn 10 ds, rest.drop 1) else none
  else none

def date? (s : Text) : Option (Date × Text) := do
  let year := s.takeWhile Char.isDigit
  if year.isEmpty then none
  let s ← Text.after? ['-'] (s.drop year.length)
  let (month, s) ← field? 2 (some '-') s
  let (day, s) ← field? 2 none s
  let d : Date := ⟨Text.valueIn 10 year, month, day⟩
  if d.isValid && d.year ≤ 9999 then some (d, s) else none

def micro (ds : Text) : Nat :=
  let ds := ds.take 6
  Text.valueIn 10 (ds ++ List.replicate (6 - ds.length) '0')

def clock? (s : Text) : Option (Clock × Text) := do
  let (hour, s) ← field? 2 (some ':') s
  let (minute, s) ← field? 2 (some ':') s
  let (second, s) ← field? 2 none s
  let (part, s) := match s with
    | '.' :: r => (r.takeWhile Char.isDigit, r.dropWhile Char.isDigit)
    | r => (['0'], r)
  if part.isEmpty then none
  let c : Clock := ⟨hour, minute, second, micro part⟩
  if c.isValid then some (c, s) else none

def zone? (s : Text) : Option (Option Zone) :=
  match s with
  | [] => some none
  | ['Z'] | ['z'] => some (some ⟨0, "UTC"⟩)
  | c :: r =>
    if c = '+' ∨ c = '-' then do
      let (hour, r) ← field? 2 (some ':') r
      let (minute, r) ← field? 2 none r
      if r.isEmpty && hour < 24 && minute < 60 then
        some (some ⟨negated (c == '-') (hour * 60 + minute), s⟩)
      else none
    else none

def moment? (s : Text) : Option Moment :=
  match date? s with
  | some (d, []) => some (.date d)
  | some (d, c :: r) =>
    if c = 'T' ∨ c = 't' ∨ c = ' ' then do
      let (k, r) ← clock? r
      return .both d k (← zone? r)
    else none
  | none =>
    match clock? s with
    | some (k, []) => some (.clock k)
    | _ => none

end CrateScaffold.Toml
