import CrateScaffold.Template.Fault
import CrateScaffold.Template.Syntax
import CrateScaffold.Text.Blank
import CrateScaffold.Text.Case
import CrateScaffold.Value.Comparison
import CrateScaffold.Value.Printing

/-!
Operations on values. A value that is not there fails in all of them, but a branch that was not
taken may be printed, tested and iterated over. What is not modelled is `uncovered`: most members of
texts and tables, formatting by `%`, markup beyond texts, dates and times beyond their texts, and
numbers that are too large.
-/

namespace CrateScaffold.Template

open Value (Numeric)

abbrev Result := Except Fault

def wrong {α} (f : KindFault) : Result α := .error (.kind f)

def present (v : Value) : Result Value :=
  match v with
  | .undefined m => .error (.undefined m)
  | .moment _ => .error .uncovered
  | v => .ok v

def tolerated (v : Value) : Result Value :=
  match v with
  | .undefined m => if m.isLenient then .ok v else .error (.undefined m)
  | .moment _ => .error .uncovered
  | v => if v.isHandle then .error .uncovered else .ok v

def textOf (v : Value) : Result Text :=
  match v with
  | .moment m => .ok (Text.ofMoment m)
  | v => (tolerated v).map Value.display

def truth (v : Value) : Result Bool := (tolerated v).map Value.isTrue

def chars (s : Text) : List Value := s.map fun c => .text [c]

def pairs (es : List (Value × Value)) : List Value := es.map fun e => .tuple [e.1, e.2]

def items? : Value → Option (List Value)
  | .text s => some (chars s)
  | .markup s => some (chars s)
  | .list xs => some xs
  | .tuple xs => some xs
  | .table es => some (es.map (·.1))
  | .entries es => some (pairs es)
  | .range a b c => some (Value.rangeItems a c (Value.rangeLength a b c))
  | .undefined _ => some []
  | _ => none

def items (v : Value) : Result (List Value) := do
  let v ← tolerated v
  match items? v with
  | some xs => return xs
  | none => wrong (.iteration v.kind)

def length (v : Value) : Result Value := do
  let v ← tolerated v
  match items? v with
  | some xs => return .int xs.length
  | none => wrong (.length v.kind)

/-! Arithmetic. -/

def Arith.text : Arith → Text
  | .add => ['+']
  | .sub => ['-']
  | .mul => ['*']
  | .div => ['/']
  | .quotient => "//"
  | .remainder => ['%']
  | .power => "** or pow()"

def bounded (n : Int) : Result Value :=
  if n.natAbs.log2 < 14000 then .ok (.int n) else .error .uncovered

def finite (x : Float) : Result Value := if x.isFinite then .ok (.float x) else .error .uncovered

def arithInt (op : Arith) (m n : Int) : Result Value :=
  match op with
  | .add => bounded (m + n)
  | .sub => bounded (m - n)
  | .mul => bounded (m * n)
  | .div =>
    if n = 0 then .error (.zero .quotient)
    else
      let x := Decimal.ofQuotient m.natAbs n.natAbs
      finite (if decide (m < 0) = decide (n < 0) then x else -x)
  | .quotient => if n = 0 then .error (.zero .integerQuotient) else .ok (.int (m.fdiv n))
  | .remainder => if n = 0 then .error (.zero .integerRemainder) else .ok (.int (m.fmod n))
  | .power =>
    if 0 ≤ n then if n < 14000 then bounded (Int.pow m n.toNat) else .error .uncovered
    else if m = 0 then .error (.zero .power)
    else finite ((Decimal.ofInt m).pow (Decimal.ofInt n))

def arithFloat (op : Arith) (x y : Float) : Result Value :=
  match op with
  | .add => finite (x + y)
  | .sub => finite (x - y)
  | .mul => finite (x * y)
  | .div => if y == 0.0 then .error (.zero .floatQuotient) else finite (x / y)
  | .quotient =>
    if y == 0.0 then .error (.zero .floatWhole) else finite (Decimal.wholeQuotient x y)
  | .remainder =>
    if y == 0.0 then .error (.zero .floatRemainder) else finite (Decimal.remainder x y)
  | .power =>
    if x == 0.0 && y < 0.0 then .error (.zero .power) else finite (x.pow y)

def arithNumeric (op : Arith) : Numeric → Numeric → Result Value
  | .int m, .int n => arithInt op m n
  | x, y =>
    if x.toFloat.isFinite && y.toFloat.isFinite then arithFloat op x.toFloat y.toFloat
    else .error .uncovered

def escapeChar (c : Char) : Text :=
  if c = '&' then "&amp;"
  else if c = '<' then "&lt;"
  else if c = '>' then "&gt;"
  else if c = '"' then "&#34;"
  else if c = '\'' then "&#39;"
  else [c]

def escaped (v : Value) : Text :=
  match v with
  | .markup s => s
  | v => v.display.flatMap escapeChar

def repeated? (v : Value) (n : Int) : Option Value :=
  let again {α} (xs : List α) : List α := (List.replicate n.toNat xs).flatten
  match v with
  | .text s => some (.text (again s))
  | .markup s => some (.markup (again s))
  | .list xs => some (.list (again xs))
  | .tuple xs => some (.tuple (again xs))
  | _ => none

def isSequence (v : Value) : Bool := (repeated? v 0).isSome

def multiply (v w : Value) : Result Value :=
  match w.toInt?.bind (repeated? v), v.toInt?.bind (repeated? w) with
  | some x, _ => .ok x
  | none, some x => .ok x
  | none, none =>
    if isSequence v then wrong (.repetition w.kind)
    else if isSequence w then wrong (.repetition v.kind)
    else wrong (.operands Arith.mul.text v.kind w.kind)

def add (v w : Value) : Result Value :=
  match v, w with
  | .text s, .text t => .ok (.text (s ++ t))
  | .markup s, .text _ => .ok (.markup (s ++ escaped w))
  | .markup s, .markup t => .ok (.markup (s ++ t))
  | .text _, .markup t => .ok (.markup (escaped v ++ t))
  | .markup _, _ => .error .uncovered
  | _, .markup _ => .error .uncovered
  | .list xs, .list ys => .ok (.list (xs ++ ys))
  | .tuple xs, .tuple ys => .ok (.tuple (xs ++ ys))
  | .text _, _ => wrong (.concatenation v.kind w.kind)
  | .list _, _ => wrong (.concatenation v.kind w.kind)
  | .tuple _, _ => wrong (.concatenation v.kind w.kind)
  | _, _ => wrong (.operands Arith.add.text v.kind w.kind)

def arith (op : Arith) (v w : Value) : Result Value := do
  let v ← present v
  let w ← present w
  match v.numeric?, w.numeric? with
  | some x, some y => arithNumeric op x y
  | _, _ =>
    match op with
    | .add => add v w
    | .mul => multiply v w
    | .remainder =>
      if v.toText?.isSome then .error .uncovered else wrong (.operands op.text v.kind w.kind)
    | _ => wrong (.operands op.text v.kind w.kind)

def withSign (negative : Bool) (v : Value) : Result Value := do
  let v ← present v
  match v.numeric? with
  | some (.int n) => return .int (if negative then -n else n)
  | some (.float x) => return .float (if negative then -x else x)
  | none => wrong (.sign (if negative then ['-'] else ['+']) v.kind)

/-! Relations. -/

def Relation.text : Relation → Text
  | .eq => "=="
  | .ne => "!="
  | .lt => ['<']
  | .le => "<="
  | .gt => ['>']
  | .ge => ">="
  | .within => "in"
  | .without => "not in"

def Relation.holds (r : Relation) : Option Ordering → Bool
  | none => false
  | some o =>
    match r with
    | .lt => o == .lt
    | .le => o != .gt
    | .gt => o == .gt
    | .ge => o != .lt
    | _ => false

def hashable (v : Value) : Result Value := do
  let v ← tolerated v
  match v with
  | .list _ | .table _ => wrong (.hash v.kind)
  | .entries _ => .error .uncovered
  | .tuple xs => if xs.all Value.isAtom then return v else .error .uncovered
  | v => return v

def member (v w : Value) : Result Bool := do
  let w ← tolerated w
  match w with
  | .text t | .markup t =>
    match v.toText? with
    | some s => return Text.contains t s
    | none => wrong (.inText v.kind)
  | .table es =>
    let k ← hashable v
    return (Value.find? k es).isSome
  | .entries _ => .error .uncovered
  | w =>
    match items? w with
    | some [] => return false
    | some xs => return xs.any (Value.equal (← tolerated v))
    | none => wrong (.container w.kind)

def ordered (r : Relation) (v w : Value) : Result Bool :=
  match v, w with
  | .entries _, _ => .error .uncovered
  | _, .entries _ => .error .uncovered
  | v, w =>
    match Value.order v w with
    | .ok o => .ok (r.holds o)
    | .error (k, l) => wrong (.order r.text k l)

def relate (r : Relation) (v w : Value) : Result Bool :=
  match r with
  | .eq => do return Value.equal (← tolerated v) (← tolerated w)
  | .ne => do return !Value.equal (← tolerated v) (← tolerated w)
  | .within => member v w
  | .without => do return !(← member v w)
  | _ => do
    let v ← present v
    ordered r v (← present w)

/-! Members and elements. -/

def owner (v : Value) : Text :=
  match v with
  | .null => "None"
  | .markup _ => "markupsafe.Markup object"
  | .loop .. => "jinja2.runtime.LoopContext object"
  | v => v.kind ++ " object"

def methodsOf : Value → List Text
  | .text _ => ["upper", "lower", "strip", "replace", "split"]
  | .table _ => ["items", "get"]
  | _ => []

def textMembers : List Text :=
  (["capitalize", "casefold", "center", "count", "encode", "endswith", "expandtabs", "find",
    "format", "format_map", "index", "isalnum", "isalpha", "isascii", "isdecimal", "isdigit",
    "isidentifier", "islower", "isnumeric", "isprintable", "isspace", "istitle", "isupper", "join",
    "ljust", "lstrip", "maketrans", "partition", "removeprefix", "removesuffix", "rfind", "rindex",
    "rjust", "rpartition", "rsplit", "rstrip", "splitlines", "startswith", "swapcase", "title",
    "translate", "zfill"] : List String).map String.toList

def integerMembers : List Text :=
  ["as_integer_ratio", "bit_count", "bit_length", "conjugate", "denominator", "from_bytes", "imag",
    "is_integer", "numerator", "real", "to_bytes"]

def membersBeside (v : Value) : List Text :=
  match v with
  | .text _ => textMembers
  | .markup _ => textMembers ++
      ["upper".toList, "lower", "strip", "replace", "split", "escape", "striptags", "unescape"]
  | .bool _ | .int _ => integerMembers
  | .float _ => ["as_integer_ratio", "conjugate", "fromhex", "hex", "imag", "is_integer", "real"]
  | .list _ =>
    ["append", "clear", "copy", "count", "extend", "index", "insert", "pop", "remove", "reverse",
      "sort"]
  | .tuple _ => ["count", "index"]
  | .table _ =>
    ["clear", "copy", "fromkeys", "keys", "pop", "popitem", "setdefault", "update", "values"]
  | .entries _ => ["isdisjoint", "mapping"]
  | .range .. => ["count", "index", "start", "step", "stop"]
  | .loop .. => ["depth", "depth0", "cycle", "changed", "previtem", "nextitem"]
  | _ => []

def isBeside (v : Value) (n : Text) : Bool :=
  n.head? == some '_' || (membersBeside v).contains n ||
    match v with
    | .method .. | .builtin _ => true
    | _ => false

def loopMember (index total : Nat) (n : Text) : Option Value :=
  if n = "index" then some (.int index)
  else if n = "index0" then some (.int (index - 1))
  else if n = "revindex" then some (.int (total - index + 1))
  else if n = "revindex0" then some (.int (total - index))
  else if n = "first" then some (.bool (index == 1))
  else if n = "last" then some (.bool (index == total))
  else if n = "length" then some (.int total)
  else none

def member? (v : Value) (n : Text) : Option Value :=
  match v with
  | .loop i total => loopMember i total n
  | v => if (methodsOf v).contains n then some (.method v n) else none

def itemAt? (xs : List Value) (n : Int) : Option Value :=
  if 0 ≤ n then xs[n.toNat]?
  else if n.natAbs ≤ xs.length then xs[xs.length - n.natAbs]?
  else none

def element? (v index : Value) : Option Value :=
  match v with
  | .table es => Value.find? index es
  | .list _ | .tuple _ | .text _ | .markup _ | .range .. =>
    index.toInt?.bind fun n => (items? v).bind (itemAt? · n)
  | _ => none

def memberOf (v : Value) (n : Text) : Value :=
  ((member? v n).or (element? v (.text n))).getD (.undefined (.attribute (owner v) n))

def attributeOf (v : Value) (n : Text) : Result Value := do
  let v ← present v
  if isBeside v n then .error .uncovered else return memberOf v n

def indexFor (v index : Value) : Result Value :=
  match v with
  | .table _ => tolerated index
  | .markup _ | .method .. | .builtin _ => .error .uncovered
  | _ => if index.isHandle then .error .uncovered else .ok index

def found (v index : Value) : Result Value :=
  match element? v index with
  | some x => .ok x
  | none =>
    match index.toText? with
    | some n =>
      if isBeside v n then .error .uncovered
      else .ok ((member? v n).getD (.undefined (.attribute (owner v) n)))
    | none => .ok (.undefined (.element (owner v) index.literal))

def itemOf (v index : Value) : Result Value := do
  let v ← present v
  found v (← indexFor v index)

/-! Calls. -/

def integer (v : Value) : Result Int :=
  match v with
  | .moment _ => .error .uncovered
  | v =>
    match v.toInt? with
    | some n => .ok n
    | none => wrong (.integer v.kind)

def rangeOf (args : List Value) : Result Value := do
  match ← args.mapM integer with
  | [] => wrong (.tooFew "range" 1 0)
  | [b] => return .range 0 b 1
  | [a, b] => return .range a b 1
  | [a, b, c] => if c = 0 then .error (.range .zeroStep) else return .range a b c
  | ns => wrong (.tooMany "range" 3 ns.length)

def splitAtText (sep : Text) : Nat → Text → List Text
  | 0, s => [s]
  | n + 1, s =>
    match Text.cut? sep s with
    | none => [s]
    | some (a, r) => a :: splitAtText sep n r

def splitAtBlanks : Nat → Text → List Text
  | 0, s => match Text.trimLeft s with | [] => [] | r => [r]
  | n + 1, s =>
    match Text.trimLeft s with
    | [] => []
    | c :: r =>
      let w := (c :: r).takeWhile (!Text.isBlank ·)
      w :: splitAtBlanks n ((c :: r).drop w.length)

def replaceFirst (old new : Text) (n : Nat) (s : Text) : Text :=
  if old = [] then
    match n with
    | 0 => s
    | n + 1 => new ++ (s.take n).flatMap (· :: new) ++ s.drop n
  else Text.joinWith new (splitAtText old n s)

def argument (function : Text) (position : Nat) (v : Value) : Result Text :=
  match v.toText? with
  | some s => .ok s
  | none => wrong (.argument function position v.kind)

def limit (s : Text) (n : Int) : Nat := if n < 0 then s.length + 1 else n.toNat

def replaceText (s : Text) (args : List Value) : Result Value := do
  match args with
  | [a, b] =>
    return .text (Text.replace (← argument "replace" 1 a) (← argument "replace" 2 b) s)
  | [a, b, n] =>
    let a ← argument "replace" 1 a
    let b ← argument "replace" 2 b
    return .text (replaceFirst a b (limit s (← integer n)) s)
  | args =>
    if args.length < 2 then wrong (.tooFew "replace" 2 args.length)
    else wrong (.tooMany "replace" 3 args.length)

def splitText (s : Text) (args : List Value) : Result Value := do
  let n ← match args with
    | [_, n] => integer n
    | [] | [_] => pure (-1)
    | _ => .error .uncovered
  let pieces ←
    match args.head? with
    | none | some .null => pure (splitAtBlanks (limit s n) s)
    | some v =>
      match v.toText? with
      | some [] => .error (.range .emptySeparator)
      | some sep => pure (splitAtText sep (limit s n) s)
      | none => wrong (.separator v.kind)
  return .list (pieces.map .text)

def onText (v : Value) (f : Text → Text) : Result Value :=
  match v with
  | .markup s => .ok (.markup (f s))
  | v => do return .text (f (← textOf v))

def stripChars (set : Text) (s : Text) : Text :=
  ((s.dropWhile (· ∈ set)).reverse.dropWhile (· ∈ set)).reverse

def callMethod (v : Value) (n : Text) (args : List Value) : Result Value := do
  match v with
  | .table es =>
    if n = "items" then
      if args.isEmpty then return .entries es else wrong (.none "dict.items" args.length)
    else
      match args with
      | [k] => return (Value.find? (← hashable k) es).getD .null
      | [k, d] => return (Value.find? (← hashable k) es).getD d
      | args =>
        if args.isEmpty then wrong (.tooFew "get" 1 0) else wrong (.tooMany "get" 2 args.length)
  | v =>
    let s := v.display
    if n = "upper" then
      if args.isEmpty then onText v Text.upper else wrong (.none "str.upper" args.length)
    else if n = "lower" then
      if args.isEmpty then onText v Text.lower else wrong (.none "str.lower" args.length)
    else if n = "strip" then
      match args with
      | [] => onText v Text.trim
      | [a] =>
        match a.toText? with
        | some set => onText v (stripChars set)
        | none => .error .uncovered
      | args => wrong (.tooMany "strip" 1 args.length)
    else if n = "replace" then replaceText s args
    else splitText s args

def call (f : Value) (args : List Value) : Result Value := do
  let f ← present f
  match f with
  | .method v n => callMethod v n args
  | .builtin n => if n = "range" then rangeOf args else .error .uncovered
  | .loop .. => .error .uncovered
  | f => wrong (.call f.kind)

end CrateScaffold.Template
