import CrateScaffold.Text.Blank
import CrateScaffold.Toml.Document
import CrateScaffold.Toml.Number

/-!
Reading a manifest whose line breaks are folded. Keys that are there already are told apart: within
a table they are named, between the tables of the document they are faults like any other.
-/

namespace CrateScaffold.Toml

inductive Fault where
  | unread
  | duplicate (key : Text)
  deriving DecidableEq, Repr

abbrev Parser := StateT Text (Except Fault)

namespace Parser

def fail {α} : Parser α := fun _ => .error .unread

def peek : Parser (Option Char) := return (← get).head?

def skip (n : Nat) : Parser Unit := modify (·.drop n)

def takeWhile (p : Char → Bool) : Parser Text := fun s => .ok (s.takeWhile p, s.dropWhile p)

def accept (t : Text) : Parser Bool := fun s =>
  match Text.after? t s with
  | some r => .ok (true, r)
  | none => .ok (false, s)

def expect (t : Text) : Parser Unit := do
  if !(← accept t) then fail

def isSpace (c : Char) : Bool := c == ' ' || c == '\t'

def isGap (c : Char) : Bool := isSpace c || c == '\r' || c == '\n'

def spaces : Parser Unit := do
  let _ ← takeWhile isSpace

def isControl (c : Char) : Bool := c.toNat < 32 && c != '\t' || c.toNat == 127

def comment : Parser Unit := do
  if (← peek) == some '#' then
    let t ← takeWhile (fun c => c != '\n' && c != '\r')
    if t.any isControl then fail

def lineEnd : Parser Unit := do
  let _ ← takeWhile (fun c => isSpace c || c == '\r')
  comment
  match ← peek with
  | none => return
  | some '\n' => skip 1
  | some _ => fail

def blankLines : Nat → Parser Unit
  | 0 => fail
  | fuel + 1 => do
    let _ ← takeWhile isGap
    if (← peek) == some '#' then
      comment
      blankLines fuel

def codePoint (n : Nat) : Parser Char := do
  let ds := (← get).take n
  let value := Text.valueIn 16 ds
  if ds.length = n ∧ ds.all (Text.isDigitIn 16) ∧ value < 0x110000 ∧
      ¬ (0xd800 ≤ value ∧ value < 0xe000) then
    skip n
    return Char.ofNat value
  else fail

def escape (multiline : Bool) : Parser Text := do
  match ← peek with
  | none => fail
  | some c =>
    if multiline && isGap c then
      let gap ← takeWhile isGap
      if '\n' ∈ gap then return [] else fail
    skip 1
    match c with
    | 'b' => return ['\x08']
    | 't' => return ['\t']
    | 'n' => return ['\n']
    | 'f' => return ['\x0c']
    | 'r' => return ['\r']
    | 'e' => return ['\x1b']
    | '"' => return ['"']
    | '\\' => return ['\\']
    | 'u' => return [← codePoint 4]
    | 'U' => return [← codePoint 8]
    | _ => fail

def stringRest (q : Char) (multiline : Bool) : Nat → Parser Text
  | 0 => fail
  | fuel + 1 => do
    match ← peek with
    | none => fail
    | some c =>
      if c == q then
        if multiline then
          let close ← takeWhile (· == q)
          if close.length < 3 then return close ++ (← stringRest q multiline fuel)
          else if close.length < 6 then return close.drop 3
          else fail
        else
          skip 1
          return []
      else if isControl c && !(multiline && (c == '\n' || c == '\r')) then fail
      else if c == '\\' && q == '"' then
        skip 1
        let t ← escape multiline
        return t ++ (← stringRest q multiline fuel)
      else
        skip 1
        return c :: (← stringRest q multiline fuel)

def string (q : Char) (fuel : Nat) : Parser (Text × Bool) := do
  if ← accept [q, q, q] then
    let _ ← accept ['\n']
    return (← stringRest q true fuel, true)
  else if ← accept [q, q] then return ([], false)
  else
    skip 1
    return (← stringRest q false fuel, false)

def isBareKey (c : Char) : Bool := c.isAlphanum || c == '-' || c == '_'

def key : Nat → Parser (List Text)
  | 0 => fail
  | fuel + 1 => do
    spaces
    let part ←
      match ← peek with
      | some '"' => quotedKey '"' fuel
      | some '\'' => quotedKey '\'' fuel
      | _ => do
        let t := Text.trim (← takeWhile (fun c => isBareKey c || isSpace c))
        if t.isEmpty ∨ ' ' ∈ t then fail else pure t
    spaces
    if ← accept ['.'] then return part :: (← key fuel) else return [part]
where
  /-- Keys are written on one line. -/
  quotedKey (q : Char) (fuel : Nat) : Parser Text := do
    let (t, multiline) ← string q fuel
    if multiline then fail else return t

def endsValue (c : Char) : Bool := c ∈ [' ', '\t', '\n', '\r', '#', ',', ']', '}']

def scalar : Parser Value := do
  let raw ← takeWhile (!endsValue ·)
  match number? raw with
  | some v => return v
  | none =>
    match moment? raw with
    | some (.date d) =>
      let rest ← get
      let more := Text.trimRight (rest.takeWhile fun c => c == ' ' || !endsValue c)
      if more.isEmpty then return .moment (.date d)
      else
        match moment? (raw ++ more) with
        | some m =>
          skip more.length
          return .moment m
        | none => fail
    | some m => return .moment m
    | none => fail

def addKey (t : Table) (ks : List Text) (v : Value) : Parser Table :=
  match ks with
  | [] => fail
  | k :: ks =>
    match addNode t k (nest true (.value v) ks) with
    | .ok t => return t
    | .error (.key k) => fun _ => .error (.duplicate k)
    | .error .redefinition => fail

mutual

def value : Nat → Parser Value
  | 0 => fail
  | fuel + 1 => do
    match ← peek with
    | some '"' => return .text (← string '"' fuel).1
    | some '\'' => return .text (← string '\'' fuel).1
    | some 't' =>
      expect "true"
      return .bool true
    | some 'f' =>
      expect "false"
      return .bool false
    | some '[' =>
      skip 1
      return .list (← array fuel)
    | some '{' =>
      skip 1
      return (Node.table true false (← inlineTable fuel true [])).toValue
    | some c =>
      if c.isDigit || c ∈ ['+', '-', 'i', 'n'] then scalar else fail
    | none => fail

def array : Nat → Parser (List Value)
  | 0 => fail
  | fuel + 1 => do
    blankLines fuel
    if ← accept [']'] then return []
    let v ← value fuel
    blankLines fuel
    if ← accept [','] then return v :: (← array fuel)
    expect [']']
    return [v]

def inlineTable : Nat → Bool → Table → Parser Table
  | 0, _, _ => fail
  | fuel + 1, first, t => do
    spaces
    if first then
      if ← accept ['}'] then return t
    let (ks, v) ← pair fuel
    let t ← addKey t ks v
    spaces
    if ← accept [','] then inlineTable fuel false t
    else
      expect ['}']
      return t

def pair : Nat → Parser (List Text × Value)
  | 0 => fail
  | fuel + 1 => do
    let ks ← key fuel
    spaces
    expect ['=']
    spaces
    return (ks, ← value fuel)

end

def pairs (add : Table → List Text → Value → Parser Table) : Nat → Table → Parser Table
  | 0, _ => fail
  | fuel + 1, t => do
    blankLines fuel
    match ← peek with
    | none | some '[' => return t
    | some _ =>
      let (ks, v) ← pair fuel
      lineEnd
      pairs add fuel (← add t ks v)

def header (fuel : Nat) : Parser (Bool × List Text) := do
  expect ['[']
  let element ← accept ['[']
  return (element, ← key fuel)

def nextHeader? (fuel : Nat) : Parser (Option (Bool × List Text)) := do
  let s ← get
  if s.head? == some '[' then
    let h ← header fuel
    set s
    return some h
  return none

def isBelow (parent ks : List Text) : Bool := parent.isPrefixOf ks && parent.length < ks.length

def named (t : Table) (k : Text) (n : Node) : Parser Table :=
  match addNode t k n with
  | .ok t => return t
  | .error (.key k) => fun _ => .error (.duplicate k)
  | .error .redefinition => fail

mutual

/-- A table from its header on, with all tables right after it that belong below it; `parent` names
the table around it. -/
def table (parent : List Text) : Nat → Parser (Text × Node)
  | 0 => fail
  | fuel + 1 => do
    let (element, ks) ← header fuel
    expect [']']
    if element then skip 1
    lineEnd
    let t ← pairs addKey fuel []
    let t ← children ks fuel t
    let n : Node := .table true false t
    match ks.drop parent.length with
    | [] => return ([], n)
    | [k] =>
      if element then return (k, .tables (n :: (← elements ks fuel))) else return (k, n)
    | k :: rest => return (k, nest false (if element then .tables [n] else n) rest)

def children (ks : List Text) : Nat → Table → Parser Table
  | 0, _ => fail
  | fuel + 1, t => do
    match ← nextHeader? fuel with
    | none => return t
    | some (_, ls) =>
      if isBelow ks ls then
        let (k, n) ← table ks fuel
        children ks fuel (← named t k n)
      else return t

def elements (ks : List Text) : Nat → Parser (List Node)
  | 0 => fail
  | fuel + 1 => do
    match ← nextHeader? fuel with
    | some (true, ls) =>
      if ls = ks then
        let (_, n) ← table ks fuel
        return n :: (← elements ks fuel)
      else return []
    | _ => return []

end

def unnamed (t : Table) (k : Text) (n : Node) : Parser Table :=
  match addNode t k n with
  | .ok t => return t
  | .error _ => fail

def addTop (t : Table) (ks : List Text) (v : Value) : Parser Table :=
  match ks with
  | [] => fail
  | k :: ks => unnamed t k (nest true (.value v) ks)

def segments : Nat → Table → Parser Table
  | 0, _ => fail
  | fuel + 1, t => do
    match ← peek with
    | none => return t
    | some _ =>
      let (k, n) ← table [] fuel
      segments fuel (← unnamed t k n)

def document (fuel : Nat) : Parser Table := do
  segments fuel (← pairs addTop fuel [])

end Parser

def parse (s : Text) : Except Fault Value := do
  let (t, _) ← (Parser.document (4 * s.length + 8)).run s
  return (Node.table true false t).toValue

end CrateScaffold.Toml
