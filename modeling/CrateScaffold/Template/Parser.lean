import CrateScaffold.Template.Scan
import CrateScaffold.Template.Syntax

/-!
Reading tokens into trees. A fault among the tokens is met when reading moves onto it. All
functions take a bound on the depth of recursion; `Template.parse` gives one that the number of
tokens cannot exceed.
-/

namespace CrateScaffold.Template

abbrev Parser := StateT (List Token) (Except SyntaxFault)

namespace Parser

def checked : List Token → Except SyntaxFault (List Token)
  | ⟨.fault f, _⟩ :: _ => .error f
  | ts => .ok ts

def current : Parser Token := fun ts => .ok (ts.head?.getD ⟨.eof, 1⟩, ts)

def advance : Parser Token := fun ts =>
  match ts with
  | t :: u :: ts => (checked (u :: ts)).map (t, ·)
  | [t] => .ok (t, [t])
  | [] => .ok (⟨.eof, 1⟩, [])

def symbol : Parser Symbol := return (← current).symbol

def line : Parser Nat := return (← current).line

def fail {α} (f : SyntaxFault) : Parser α := fun _ => .error f

def isMark (m : Mark) : Parser Bool := do
  match ← symbol with
  | .mark n => return n == m
  | _ => return false

def isName (n : Text) : Parser Bool := do
  match ← symbol with
  | .name k => return k == n
  | _ => return false

def skipName (n : Text) : Parser Bool := do
  if ← isName n then
    let _ ← advance
    return true
  return false

def skipMark (m : Mark) : Parser Bool := do
  if ← isMark m then
    let _ ← advance
    return true
  return false

def mismatch {α} (what : Text) : Parser α := do
  match ← symbol with
  | .eof => fail (.ended what)
  | s => fail (.expected what s.description)

def expectMark (m : Mark) : Parser Unit := do
  if ← isMark m then
    let _ ← advance
  else mismatch m.text

def expectWord (n : Text) : Parser Unit := do
  if ← isName n then
    let _ ← advance
  else mismatch n

def expectName : Parser (Text × Nat) := do
  match ← current with
  | ⟨.name n, l⟩ =>
    let _ ← advance
    return (n, l)
  | _ => mismatch "name"

def expectPrintEnd : Parser Unit := do
  match ← symbol with
  | .printEnd =>
    let _ ← advance
  | _ => mismatch printEndText

def expectBlockEnd : Parser Unit := do
  match ← symbol with
  | .blockEnd =>
    let _ ← advance
  | _ => mismatch blockEndText

def nextIsName (n : Text) : Parser Bool := fun ts =>
  match ts with
  | _ :: u :: us =>
    (checked (u :: us)).map fun _ =>
      (match u.symbol with | .name k => k == n | _ => false, ts)
  | _ => .ok (false, ts)

def leave (b : Bool) : Parser Unit := if b then fail .uncovered else pure ()

def leaveAt (m : Mark) : Parser Unit := do leave (← isMark m)

def nextIsKeyword : Parser Bool := fun ts =>
  match ts with
  | ⟨.name _, _⟩ :: u :: us =>
    (checked (u :: us)).map fun _ =>
      (match u.symbol with | .mark m => m == .assign | _ => false, ts)
  | _ => .ok (false, ts)

def tupleEnds (words : List Text) : Parser Bool := do
  match ← symbol with
  | .printEnd | .blockEnd | .mark .closeParen => return true
  | .name n => return words.contains n
  | _ => return false

def relation? : Mark → Option Relation
  | .equal => some .eq
  | .notEqual => some .ne
  | .less => some .lt
  | .lessEqual => some .le
  | .greater => some .gt
  | .greaterEqual => some .ge
  | _ => none

def relation : Parser (Option Relation) := do
  match ← symbol with
  | .mark m =>
    match relation? m with
    | some r =>
      let _ ← advance
      return some r
    | none => return none
  | .name n =>
    if n = "in" then
      let _ ← advance
      return some .within
    else if n = "not" then
      if ← nextIsName "in" then
        let _ ← advance
        let _ ← advance
        return some .without
      return none
    else return none
  | _ => return none

def operator (table : List (Mark × Arith)) : Parser (Option Arith) := do
  match ← symbol with
  | .mark m =>
    match table.lookup m with
    | some op =>
      let _ ← advance
      return some op
    | none => return none
  | _ => return none

def sums : List (Mark × Arith) := [(.plus, .add), (.minus, .sub)]

def products : List (Mark × Arith) :=
  [(.star, .mul), (.slash, .div), (.doubleSlash, .quotient), (.percent, .remainder)]

def powers : List (Mark × Arith) := [(.doubleStar, .power)]

def strings : Nat → Parser Text
  | 0 => fail .tooDeep
  | fuel + 1 => do
    match ← symbol with
    | .string s =>
      let _ ← advance
      return s ++ (← strings fuel)
    | _ => return []

def dotted : Nat → Text → Parser Text
  | 0, _ => fail .tooDeep
  | fuel + 1, n => do
    if ← skipMark .dot then
      let (m, _) ← expectName
      dotted fuel (n ++ '.' :: m)
    else return n

def constant? (n : Text) : Option Value :=
  if n = "true" ∨ n = "True" then some (.bool true)
  else if n = "false" ∨ n = "False" then some (.bool false)
  else if n = "none" ∨ n = "None" then some .null
  else none

def selfName : Text := "self"

def uncoveredTags : List Text :=
  ["block", "extends", "macro", "include", "from", "import", "with", "autoescape", "call", "filter"]

def beginsArgument : Parser Bool := do
  match ← symbol with
  | .name n => return !(["else".toList, "or".toList, "and".toList].contains n)
  | .string _ | .int _ | .float _ => return true
  | .mark .openParen | .mark .openBracket | .mark .openBrace => return true
  | _ => return false

mutual

def expression (conditional : Bool) : Nat → Parser Expr
  | 0 => fail .tooDeep
  | fuel + 1 => do
    let l ← line
    let e ← disjunction fuel
    if conditional then conditions fuel l e else return e

def conditions : Nat → Nat → Expr → Parser Expr
  | 0, _, _ => fail .tooDeep
  | fuel + 1, l, e => do
    if ← skipName "if" then
      let c ← disjunction fuel
      if ← skipName "else" then
        let other ← expression true fuel
        let l ← line
        conditions fuel l (.choice c e other)
      else
        let next ← line
        conditions fuel next (.branch l c e)
    else return e

def disjunction : Nat → Parser Expr
  | 0 => fail .tooDeep
  | fuel + 1 => do
    let e ← conjunction fuel
    disjunctions fuel e

def disjunctions : Nat → Expr → Parser Expr
  | 0, _ => fail .tooDeep
  | fuel + 1, l => do
    if ← skipName "or" then
      let r ← conjunction fuel
      disjunctions fuel (.or l r)
    else return l

def conjunction : Nat → Parser Expr
  | 0 => fail .tooDeep
  | fuel + 1 => do
    let e ← negation fuel
    conjunctions fuel e

def conjunctions : Nat → Expr → Parser Expr
  | 0, _ => fail .tooDeep
  | fuel + 1, l => do
    if ← skipName "and" then
      let r ← negation fuel
      conjunctions fuel (.and l r)
    else return l

def negation : Nat → Parser Expr
  | 0 => fail .tooDeep
  | fuel + 1 => do
    if ← skipName "not" then return .not (← negation fuel)
    else comparison fuel

def comparison : Nat → Parser Expr
  | 0 => fail .tooDeep
  | fuel + 1 => do
    let e ← arithmetic 0 fuel
    let rest ← comparisons fuel
    if rest.isEmpty then return e
    else return .compare e (rest.map (·.1)) (rest.map (·.2))

def comparisons : Nat → Parser (List (Relation × Expr))
  | 0 => fail .tooDeep
  | fuel + 1 => do
    match ← relation with
    | some r =>
      let e ← arithmetic 0 fuel
      return (r, e) :: (← comparisons fuel)
    | none => return []

def arithmetic (level : Nat) : Nat → Parser Expr
  | 0 => fail .tooDeep
  | fuel + 1 =>
    match level with
    | 0 => do
      let e ← arithmetic 1 fuel
      operations sums 1 fuel e
    | 1 => do
      let e ← arithmetic 2 fuel
      let es ← parts fuel
      if es.isEmpty then return e else return .concat (e :: es)
    | 2 => do
      let e ← arithmetic 3 fuel
      operations products 3 fuel e
    | 3 => do
      let e ← unary true fuel
      operations powers 4 fuel e
    | _ => unary true fuel

def operations (table : List (Mark × Arith)) (level : Nat) : Nat → Expr → Parser Expr
  | 0, _ => fail .tooDeep
  | fuel + 1, l => do
    match ← operator table with
    | some op =>
      let r ← arithmetic level fuel
      operations table level fuel (.arith op l r)
    | none => return l

def parts : Nat → Parser (List Expr)
  | 0 => fail .tooDeep
  | fuel + 1 => do
    if ← skipMark .tilde then
      let e ← arithmetic 2 fuel
      return e :: (← parts fuel)
    else return []

def unary (filtered : Bool) : Nat → Parser Expr
  | 0 => fail .tooDeep
  | fuel + 1 => do
    let e ←
      if ← skipMark .minus then pure (.negate (← unary false fuel))
      else do
        if ← skipMark .plus then pure (.plus (← unary false fuel)) else primary fuel
    let e ← postfixes fuel e
    if filtered then filters fuel e else return e

def primary : Nat → Parser Expr
  | 0 => fail .tooDeep
  | fuel + 1 => do
    match ← current with
    | ⟨.name n, l⟩ =>
      leave (n == selfName)
      let _ ← advance
      match constant? n with
      | some v => return .const v
      | none => return .name n l
    | ⟨.string _, _⟩ => return .const (.text (← strings fuel))
    | ⟨.int n, _⟩ =>
      let _ ← advance
      return .const (.int n)
    | ⟨.float x, _⟩ =>
      leave !x.isFinite
      let _ ← advance
      return .const (.float x)
    | ⟨.mark .openParen, _⟩ =>
      let _ ← advance
      let e ← tuple false true true [] fuel
      expectMark .closeParen
      return e
    | ⟨.mark .openBracket, _⟩ =>
      let _ ← advance
      return .list (← listItems fuel false)
    | ⟨.mark .openBrace, _⟩ =>
      let _ ← advance
      return .dict (← dictItems fuel false)
    | ⟨s, _⟩ => fail (.unexpected s.description)

def tuple (simple conditional enclosed : Bool) (words : List Text) : Nat → Parser Expr
  | 0 => fail .tooDeep
  | fuel + 1 => do
    let (es, several) ← tupleItems simple conditional words fuel true
    if several then return .tuple es
    else
      match es with
      | [e] => return e
      | _ =>
        if enclosed then return .tuple []
        else fail (.noExpression (← symbol).description)

def tupleItems (simple conditional : Bool) (words : List Text) :
    Nat → Bool → Parser (List Expr × Bool)
  | 0, _ => fail .tooDeep
  | fuel + 1, first => do
    if !first then expectMark .comma
    if ← tupleEnds words then return ([], !first)
    let e ← if simple then primary fuel else expression conditional fuel
    if ← isMark .comma then
      let (es, _) ← tupleItems simple conditional words fuel false
      return (e :: es, true)
    else return ([e], !first)

def listItems : Nat → Bool → Parser (List Expr)
  | 0, _ => fail .tooDeep
  | fuel + 1, started => do
    if ← skipMark .closeBracket then return []
    if started then expectMark .comma
    if ← skipMark .closeBracket then return []
    let e ← expression true fuel
    return e :: (← listItems fuel true)

def dictItems : Nat → Bool → Parser (List Expr)
  | 0, _ => fail .tooDeep
  | fuel + 1, started => do
    if ← skipMark .closeBrace then return []
    if started then expectMark .comma
    if ← skipMark .closeBrace then return []
    let k ← expression true fuel
    expectMark .colon
    let v ← expression true fuel
    return k :: v :: (← dictItems fuel true)

/-- What stands between brackets after an expression; no comma may end it, and slices are left to
the engine. -/
def indices : Nat → Bool → Parser (List Expr)
  | 0, _ => fail .tooDeep
  | fuel + 1, started => do
    if ← skipMark .closeBracket then return []
    if started then expectMark .comma
    leaveAt .colon
    let e ← expression true fuel
    leaveAt .colon
    return e :: (← indices fuel true)

def arguments : Nat → Bool → Parser (List Expr)
  | 0, _ => fail .tooDeep
  | fuel + 1, started => do
    if ← skipMark .closeParen then return []
    if started then expectMark .comma
    if ← skipMark .closeParen then return []
    leaveAt .star
    leaveAt .doubleStar
    leave (← nextIsKeyword)
    let e ← expression true fuel
    return e :: (← arguments fuel true)

def postfixes : Nat → Expr → Parser Expr
  | 0, _ => fail .tooDeep
  | fuel + 1, e => do
    if ← skipMark .dot then
      let t ← advance
      match t.symbol with
      | .name n => postfixes fuel (.attribute e n)
      | .int n => postfixes fuel (.item e (.const (.int n)))
      | _ => fail .noMember
    else if ← skipMark .openBracket then
      let es ← indices fuel false
      match es with
      | [i] => postfixes fuel (.item e i)
      | _ => postfixes fuel (.item e (.tuple es))
    else if ← skipMark .openParen then
      let es ← arguments fuel false
      postfixes fuel (.call e es)
    else return e

def filters : Nat → Expr → Parser Expr
  | 0, _ => fail .tooDeep
  | fuel + 1, e => do
    if ← skipMark .pipe then
      let (n, l) ← expectName
      let n ← dotted fuel n
      let es ← if ← skipMark .openParen then arguments fuel false else pure []
      filters fuel (.filter n l e es)
    else if ← isName "is" then
      let t ← test fuel e
      filters fuel t
    else if ← skipMark .openParen then
      let es ← arguments fuel false
      filters fuel (.call e es)
    else return e

def test : Nat → Expr → Parser Expr
  | 0, _ => fail .tooDeep
  | fuel + 1, e => do
    let l ← line
    let _ ← advance
    let negated ← skipName "not"
    let (n, _) ← expectName
    let n ← dotted fuel n
    let es ←
      if ← skipMark .openParen then arguments fuel false
      else if ← beginsArgument then
        if ← isName "is" then fail .chainedTest
        let a ← primary fuel
        pure [← postfixes fuel a]
      else pure []
    return if negated then .not (.test n l e es) else .test n l e es

end

def target (words : List Text) (fuel : Nat) : Parser Target := do
  let e ← tuple true true false words fuel
  match Target.ofExpr? e with
  | some t => return t
  | none => fail (.badTarget e.kind)

def atTag (tags : List Text) : Parser Bool := do
  match ← symbol with
  | .name n => return tags.contains n
  | _ => return false

def printed : Nat → Bool → Parser (List Node)
  | 0, _ => fail .tooDeep
  | fuel + 1, started => do
    match ← symbol with
    | .blockEnd => return []
    | _ =>
      if started then expectMark .comma
      let e ← expression true fuel
      return .print e :: (← printed fuel true)

mutual

def nodes (openings : List Opening) : Nat → Parser (List Node)
  | 0 => fail .tooDeep
  | fuel + 1 => do
    match ← symbol with
    | .text s =>
      let _ ← advance
      return .text s :: (← nodes openings fuel)
    | .printBegin =>
      let _ ← advance
      let e ← tuple false true false [] fuel
      expectPrintEnd
      return .print e :: (← nodes openings fuel)
    | .blockBegin =>
      let _ ← advance
      if ← atTag ((openings.head?.map (·.ends)).getD []) then return []
      let ns ← statement openings fuel
      expectBlockEnd
      return ns ++ (← nodes openings fuel)
    | .eof => return []
    | s => fail (.unexpected s.description)

def part (tag : Text) (ends : List Text) (openings : List Opening) : Nat → Parser (List Node)
  | 0 => fail .tooDeep
  | fuel + 1 => do
    let _ ← skipMark .colon
    expectBlockEnd
    let openings := ⟨tag, ends⟩ :: openings
    let ns ← nodes openings fuel
    match ← symbol with
    | .eof => fail (.unclosed openings)
    | _ => return ns

def statement (openings : List Opening) : Nat → Parser (List Node)
  | 0 => fail .tooDeep
  | fuel + 1 => do
    match ← current with
    | ⟨.name n, _⟩ =>
      if n = "if" then
        let _ ← advance
        let (bs, other) ← branches openings fuel
        return [.choose bs other]
      else if n = "for" then
        let _ ← advance
        return [← loop openings fuel]
      else if n = "set" then
        let _ ← advance
        return [← setting openings fuel]
      else if n = "print" then
        let _ ← advance
        printed fuel false
      else if uncoveredTags.contains n then fail .uncovered
      else fail (.unknownTag n openings)
    | _ => fail .noTag

def branches (openings : List Opening) : Nat → Parser (List Branch × List Node)
  | 0 => fail .tooDeep
  | fuel + 1 => do
    let c ← tuple false false false [] fuel
    let body ← part "if" ["elif", "else", "endif"] openings fuel
    if ← skipName "elif" then
      let (bs, other) ← branches openings fuel
      return (.of c body :: bs, other)
    else if ← skipName "else" then
      let other ← part "if" ["endif"] openings fuel
      expectWord "endif"
      return ([.of c body], other)
    else
      expectWord "endif"
      return ([.of c body], [])

def loop (openings : List Opening) : Nat → Parser Node
  | 0 => fail .tooDeep
  | fuel + 1 => do
    let t ← target ["in"] fuel
    expectWord "in"
    let source ← tuple false false false ["recursive"] fuel
    let test ← if ← skipName "if" then pure (some (← expression true fuel)) else pure none
    let _ ← skipName "recursive"
    let body ← part "for" ["endfor", "else"] openings fuel
    if ← skipName "else" then
      let other ← part "for" ["endfor"] openings fuel
      expectWord "endfor"
      return .each t source test body other
    else
      expectWord "endfor"
      return .each t source test body []

def setting (openings : List Opening) : Nat → Parser Node
  | 0 => fail .tooDeep
  | fuel + 1 => do
    let t ← target [] fuel
    leaveAt .dot
    leaveAt .pipe
    if ← skipMark .assign then
      let e ← tuple false true false [] fuel
      return .assign t e
    else
      let body ← part "set" ["endset"] openings fuel
      expectWord "endset"
      return .capture t body

end

end Parser

def parse (b : LineBreak) (source : Text) : Except SyntaxFault (List Node) := do
  let ts ← Parser.checked (tokens b source)
  let (ns, _) ← (Parser.nodes [] (24 * (ts.length + 2))).run ts
  return ns

end CrateScaffold.Template
