import CrateScaffold.Decimal.Binary
import CrateScaffold.Template.Token
import CrateScaffold.Text.Identifier
import CrateScaffold.Text.Integer
import CrateScaffold.Text.Lines
import CrateScaffold.Text.Word

/-!
Literals in tags. A numeral may have single underscores between its digits; a string may have
escapes; a name is a run of word characters of any script.
-/

namespace CrateScaffold.Template

def digitRun : Text → Text × Text
  | [] => ([], [])
  | c :: s =>
    if c.isDigit then (fun x => (c :: x.1, x.2)) (digitRun s)
    else if c = '_' ∧ s.head?.any Char.isDigit then digitRun s
    else ([], c :: s)

def digits? (s : Text) : Option (Text × Text) :=
  if s.head?.any Char.isDigit then some (digitRun s) else none

def basedRun (base : Nat) : Text → Text × Text
  | [] => ([], [])
  | c :: s =>
    if Text.isDigitIn base c then (fun x => (c :: x.1, x.2)) (basedRun base s)
    else if c = '_' ∧ s.head?.any (Text.isDigitIn base) then basedRun base s
    else ([], c :: s)

def based? (base : Nat) (s : Text) : Option (Nat × Text) :=
  match basedRun base s with
  | ([], _) => none
  | (ds, r) => some (Text.valueIn base ds, r)

def integer? : Text → Option (Nat × Text)
  | '0' :: c :: s =>
    let other :=
      if c.toLower = 'b' then based? 2 s
      else if c.toLower = 'o' then based? 8 s
      else if c.toLower = 'x' then based? 16 s
      else none
    other.or (some (0, (basedRun 1 (c :: s)).2))
  | c :: s => if c.isDigit then
      let (ds, r) := digitRun (c :: s)
      some (Text.valueIn 10 ds, r)
    else none
  | [] => none

def exponent? : Text → Option (Int × Text)
  | c :: s =>
    if c.toLower ≠ 'e' then none
    else
      let negative := s.head? == some '-'
      let s := if negative || s.head? == some '+' then s.drop 1 else s
      (digits? s).map fun (ds, r) =>
        let n : Int := Text.valueIn 10 ds
        (if negative then -n else n, r)
  | [] => none

def fraction? : Text → Option (Text × Text)
  | '.' :: s => digits? s
  | _ => none

def float? (s : Text) : Option (Float × Text) :=
  match digits? s with
  | none => none
  | some (whole, r) =>
    let (ds, r', dotted) := match fraction? r with
      | some (ds, r') => (ds, r', true)
      | none => ([], r, false)
    match exponent? r' with
    | some (e, r'') =>
      some (Decimal.toFloat false (Text.valueIn 10 (whole ++ ds)) (e - ds.length), r'')
    | none =>
      if dotted then some (Decimal.toFloat false (Text.valueIn 10 (whole ++ ds)) (-ds.length), r')
      else none

def stringBody? (q : Char) : Text → Option (Text × Text)
  | [] => none
  | ['\\'] => none
  | '\\' :: c :: s => (stringBody? q s).map fun x => ('\\' :: c :: x.1, x.2)
  | c :: s => if c = q then some ([], s) else (stringBody? q s).map fun x => (c :: x.1, x.2)

def string? : Text → Option (Text × Text)
  | c :: s => if c = '"' ∨ c = '\'' then stringBody? c s else none
  | [] => none

def code (n : Nat) : Except EscapeFault Char :=
  if 0x110000 ≤ n then .error .range
  else if 0xd800 ≤ n ∧ n < 0xe000 then .error .uncovered
  else .ok (Char.ofNat n)

def hex? (n : Nat) (s : Text) : Option (Nat × Text) :=
  let ds := s.take n
  if ds.length = n ∧ ds.all (Text.isDigitIn 16) then some (Text.valueIn 16 ds, s.drop n) else none

def octal (s : Text) : Nat × Text :=
  let ds := (s.take 3).takeWhile (Text.isDigitIn 8)
  (Text.valueIn 8 ds, s.drop ds.length)

def escape (c : Char) (s : Text) : Except EscapeFault (Text × Nat) :=
  let coded (fault : EscapeFault) (n : Nat) : Except EscapeFault (Text × Nat) :=
    match hex? n s with
    | some (value, _) => (code value).map fun x => ([x], n)
    | none => .error fault
  match c with
  | '\n' => .ok ([], 0)
  | '\\' | '\'' | '"' => .ok ([c], 0)
  | 'a' => .ok (['\x07'], 0)
  | 'b' => .ok (['\x08'], 0)
  | 'f' => .ok (['\x0c'], 0)
  | 'n' => .ok (['\n'], 0)
  | 'r' => .ok (['\r'], 0)
  | 't' => .ok (['\t'], 0)
  | 'v' => .ok (['\x0b'], 0)
  | 'x' => coded .two 2
  | 'u' => coded .four 4
  | 'U' => coded .eight 8
  | 'N' => if s.head? = some '{' then .error .uncovered else .error .name
  | _ =>
    if Text.isDigitIn 8 c then
      let (n, r) := octal (c :: s)
      (code n).map fun x => ([x], s.length - r.length)
    else if c.toNat < 128 then .ok (['\\', c], 0)
    else if c.toNat < 0x100 then .ok ('\\' :: 'x' :: Text.hexDigits 2 c.toNat, 0)
    else if c.toNat < 0x10000 then .ok ('\\' :: 'u' :: Text.hexDigits 4 c.toNat, 0)
    else .ok ('\\' :: 'U' :: Text.hexDigits 8 c.toNat, 0)

/-- The text that a string body stands for; `skip` characters belong to an escape already read. -/
def unescape : Nat → Text → Except EscapeFault Text
  | _, [] => .ok []
  | skip + 1, _ :: s => unescape skip s
  | 0, '\\' :: c :: s => do
    let (t, n) ← escape c s
    return t ++ (← unescape (n + 1) (c :: s))
  | 0, c :: s => (unescape 0 s).map (c :: ·)

def name? (s : Text) : Option (Text × Text) :=
  match s.takeWhile (fun c => Text.isWord c || Text.continuesIdentifier c) with
  | [] => none
  | n => some (n, s.drop n.length)

def isOtherDigit (c : Char) : Bool := 128 ≤ c.toNat && (Text.decimalValue? c).isSome

/-- Whether a numeral that ends before `rest` after `length` characters is read here. -/
def coversNumeral (length : Nat) (rest : Text) : Bool :=
  length ≤ 3500 &&
    !(rest.takeWhile fun c => Text.isWord c || c ∈ ['.', '+', '-']).any isOtherDigit

end CrateScaffold.Template
