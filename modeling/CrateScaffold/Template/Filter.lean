import CrateScaffold.Template.Operation

/-!
Filters and tests by name. Those that are known but not modelled, and those with arguments that
they do not take, are left to the engine.
-/

namespace CrateScaffold.Template

def filterNames : List Text :=
  ["upper", "lower", "trim", "capitalize", "title", "replace", "length", "count", "join", "first",
    "last", "default", ['d'], "escape", ['e']]

def filtersBeside : List Text :=
  (["abs", "attr", "batch", "center", "dictsort", "filesizeformat", "float", "forceescape",
    "format", "groupby", "indent", "int", "items", "list", "map", "max", "min", "pprint",
    "random", "reject", "rejectattr", "reverse", "round", "safe", "select", "selectattr",
    "slice", "sort", "string", "striptags", "sum", "tojson", "truncate", "unique", "urlencode",
    "urlize", "wordcount", "wordwrap", "xmlattr"] : List String).map String.toList

def testNames : List Text := ["defined", "undefined"]

def testsBeside : List Text :=
  (["boolean", "callable", "divisibleby", "eq", "equalto", "escaped", "even", "false", "filter",
    "float", "ge", "greaterthan", "gt", "in", "integer", "iterable", "le", "lessthan", "lower",
    "lt", "mapping", "ne", "none", "number", "odd", "sameas", "sequence", "string", "test", "true",
    "upper"] : List String).map String.toList

def isFilter (n : Text) : Bool := filterNames.contains n || filtersBeside.contains n

def isTest (n : Text) : Bool := testNames.contains n || testsBeside.contains n

def separates (c : Char) : Bool :=
  Text.isBlank c || c ∈ ['-', '(', '{', '[', '<']

/-- The first letter of each word in upper case and the others in lower case; `fresh` says that a
word begins here. -/
def title : Bool → Text → Text
  | _, [] => []
  | fresh, c :: s =>
    if separates c then c :: title true s
    else if fresh then
      Text.upperChar c ++ Text.lower (s.takeWhile (!separates ·)) ++ title false s
    else title false s

def isMissing : Value → Bool
  | .undefined _ => true
  | _ => false

def orDefault (v other : Value) (falsy : Bool) : Value :=
  if isMissing v || falsy && !v.isTrue then other else v

def itemsBack (v : Value) : Result (List Value) :=
  match v with
  | .undefined m => .error (if m.isLenient then .uncovered else .undefined m)
  | .markup _ => .error .uncovered
  | v => do
    let v ← tolerated v
    match items? v with
    | some xs => return xs
    | none => wrong (.reversal v.kind)

def endpoint (first : Bool) (v : Value) : Result Value := do
  let xs ← if first then items v else itemsBack v
  return ((if first then xs.head? else xs.getLast?).getD (.undefined (.endpoint first)))

def joined (v sep : Value) : Result Value := do
  let sep ← textOf sep
  let xs ← items v
  return .text (Text.joinWith sep (← xs.mapM textOf))

/-- The value, or another one when it is missing or, where `falsy` counts as true, counts as
false. -/
def orDefaultIf (v other falsy : Value) : Result Value :=
  if isMissing v then .ok other else (truth falsy).map (orDefault v other)

def applyFilter (n : Text) (v : Value) (args : List Value) : Result Value := do
  if n = "default" ∨ n = ['d'] then
    match args with
    | [] => return orDefault v (.text []) false
    | [other] => return orDefault v other false
    | [other, falsy] => orDefaultIf v other falsy
    | _ => .error .uncovered
  else if n = "replace" then
    match args with
    | [a, b] =>
      let s ← textOf v
      return .text (Text.replace (← textOf a) (← textOf b) s)
    | [a, b, .int k] =>
      let s ← textOf v
      return .text (replaceFirst (← textOf a) (← textOf b) (limit s k) s)
    | _ => .error .uncovered
  else if n = "join" then
    match args with
    | [] => joined v (.text [])
    | [sep] => joined v sep
    | _ => .error .uncovered
  else if n = "trim" then
    match args with
    | [] => onText v Text.trim
    | [.text set] => onText v (stripChars set)
    | _ => .error .uncovered
  else if !args.isEmpty && isFilter n then .error .uncovered
  else if n = "upper" then onText v Text.upper
  else if n = "lower" then onText v Text.lower
  else if n = "capitalize" then onText v Text.capitalize
  else if n = "title" then return .text (title true (← textOf v))
  else if n = "length" ∨ n = "count" then length v
  else if n = "first" then endpoint true v
  else if n = "last" then endpoint false v
  else if n = "escape" ∨ n = ['e'] then return .markup (escaped (← tolerated v))
  else if filtersBeside.contains n then .error .uncovered
  else .error (.unavailable "filter" n)

def applyTest (n : Text) (v : Value) (args : List Value) : Result Bool :=
  if !isTest n then .error (.unavailable "test" n)
  else if testsBeside.contains n || !args.isEmpty then .error .uncovered
  else if n = "defined" then .ok (!isMissing v)
  else .ok (isMissing v)

end CrateScaffold.Template
