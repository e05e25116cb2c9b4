import CrateScaffold.Template.Literal
import CrateScaffold.Text.Blank

/-!
Reading a template into tokens. Outside tags everything up to the next opener is text; inside a tag
the closing sequence counts only when all brackets are closed. A dash beside a tag takes the blanks
on that side away. Comments leave nothing behind and raw sections only text.
-/

namespace CrateScaffold.Template

inductive Tag where
  | print
  | block
  | comment
  deriving DecidableEq, Repr

def untilTag : Text → Text × Option (Tag × Text)
  | [] => ([], none)
  | '{' :: '{' :: s => ([], some (.print, s))
  | '{' :: '%' :: s => ([], some (.block, s))
  | '{' :: '#' :: s => ([], some (.comment, s))
  | c :: s => (c :: (untilTag s).1, (untilTag s).2)

def signed : Text → Bool × Text
  | '-' :: s => (true, s)
  | '+' :: s => (false, s)
  | s => (false, s)

/-- The text after the end of a block tag; a plus may stand before it where `plus` says so. -/
def blockEnd? (plus : Bool) : Text → Option Text
  | '%' :: '}' :: s => some s
  | '-' :: '%' :: '}' :: s => some (Text.trimLeft s)
  | '+' :: '%' :: '}' :: s => if plus then some s else none
  | _ => none

def printEnd? : Text → Option Text
  | '}' :: '}' :: s => some s
  | '-' :: '}' :: '}' :: s => some (Text.trimLeft s)
  | _ => none

def keywordTag? (word : Text) (plus : Bool) (s : Text) : Option Text :=
  (Text.after? word (Text.trimLeft s)).bind fun r => blockEnd? plus (Text.trimLeft r)

/-- The text before the tag that ends a raw section, whether it takes blanks away, and what
follows it. -/
def untilEndRaw : Text → Option (Text × Bool × Text)
  | [] => none
  | c :: s =>
    let ending := (Text.after? ['{', '%'] (c :: s)).bind fun r =>
      (keywordTag? "endraw" true (signed r).2).map ((signed r).1, ·)
    match ending with
    | some (dash, r) => some ([], dash, r)
    | none => (untilEndRaw s).map fun x => (c :: x.1, x.2)

def afterComment? (s : Text) : Option Text :=
  (Text.cut? ['#', '}'] s).map fun x =>
    if x.1.getLast? = some '-' then Text.trimLeft x.2 else x.2

inductive Mode where
  | text
  | print
  | block
  deriving DecidableEq, Repr

/-- Where reading stands: the kind of tag, the closers that are due, the line, and whether a dot
came last. -/
structure Place where
  mode : Mode
  closers : List Mark
  line : Nat
  afterDot : Bool

def lineAfter (line : Nat) (s rest : Text) : Nat :=
  line + (s.count '\n' - rest.count '\n')

abbrev Step := List Token × Option (Place × Text)

def failed (line : Nat) (f : SyntaxFault) : Step := ([⟨.fault f, line⟩], none)

def textTokens (b : LineBreak) (line : Nat) (dash : Bool) (s : Text) : List Token :=
  let s := if dash then Text.trimRight s else s
  if s = [] then [] else [⟨.text (b.unfold s), line⟩]

def rawStep (b : LineBreak) (p : Place) (s : Text) : Step :=
  match untilEndRaw s with
  | some (t, dash, r) =>
    (textTokens b p.line dash t, some ({ p with line := lineAfter p.line s r }, r))
  | none => if s = [] then ([], some (p, [])) else failed p.line .openRaw

def commentStep (p : Place) (s : Text) : Step :=
  match afterComment? s with
  | some r => ([], some ({ p with line := lineAfter p.line s r }, r))
  | none => if s = [] then ([], some (p, [])) else failed p.line .openComment

def textStep (b : LineBreak) (p : Place) (s : Text) : Step :=
  match untilTag s with
  | (t, none) => (textTokens b p.line false t, some (p, []))
  | (t, some (tag, r)) =>
    let line := lineAfter p.line s r
    let (dash, r') := signed r
    let before := textTokens b p.line dash t
    let next : Step :=
      match tag with
      | .print => ([⟨.printBegin, line⟩], some (⟨.print, [], line, false⟩, r'))
      | .comment => commentStep { p with line := line } r'
      | .block =>
        match keywordTag? "raw" false r' with
        | some r'' => rawStep b { p with line := lineAfter line r r'' } r''
        | none => ([⟨.blockBegin, line⟩], some (⟨.block, [], line, false⟩, r'))
    (before ++ next.1, next.2)

def mark? (s : Text) : Option (Mark × Text) :=
  marks.findSome? fun m => (Text.after? m.2 s).map (m.1, ·)

def balance (closers : List Mark) (m : Mark) : Except SyntaxFault (List Mark) :=
  match m.closer? with
  | some c => .ok (c :: closers)
  | none =>
    if m.isCloser then
      match closers with
      | [] => .error (.closer m)
      | c :: cs => if c = m then .ok cs else .error (.mismatch m c)
    else .ok closers

def tagEnd? : Mode → Text → Option (Symbol × Text)
  | .print, s => (printEnd? s).map (.printEnd, ·)
  | .block, s => (blockEnd? true s).map (.blockEnd, ·)
  | .text, _ => none

def atom? (b : LineBreak) (afterDot : Bool) (s : Text) : Option (Symbol × Text) :=
  let numeral (a : Symbol) (r : Text) : Symbol × Text :=
    (if coversNumeral (s.length - r.length) r then a else .fault .uncovered, r)
  ((if afterDot then none else float? s).map fun x => numeral (.float x.1) x.2).or
    (((integer? s).map fun x => numeral (.int x.1) x.2).or
      (((name? s).map fun x =>
          (if Text.isIdentifier x.1 then .name x.1
            else if s.head?.any isOtherDigit then .fault .uncovered
            else .fault .badName, x.2)).or
        ((string? s).map fun x =>
          (match unescape 0 (b.unfold x.1) with
            | .ok t => .string t
            | .error f => .fault (.ofEscape f), x.2))))

def tagStep (b : LineBreak) (total : Nat) (p : Place) (s : Text) : Step :=
  match if p.closers = [] then tagEnd? p.mode s else none with
  | some (end_, r) =>
    ([⟨end_, p.line⟩], some (⟨.text, [], lineAfter p.line s r, false⟩, r))
  | none =>
    if s.head?.any Text.isBlank then
      let r := Text.trimLeft s
      ([], some ({ p with line := lineAfter p.line s r, afterDot := false }, r))
    else
      match atom? b p.afterDot s with
      | some (a, r) =>
        ([⟨a, p.line⟩], some ({ p with line := lineAfter p.line s r, afterDot := false }, r))
      | none =>
        match mark? s with
        | some (m, r) =>
          match balance p.closers m with
          | .ok closers =>
            ([⟨.mark m, p.line⟩], some ({ p with closers := closers, afterDot := m = .dot }, r))
          | .error f => failed p.line f
        | none => failed p.line (.character (s.head?.getD ' ') (total - s.length))

def step (b : LineBreak) (total : Nat) (p : Place) (s : Text) : Step :=
  if p.mode = .text then textStep b p s else tagStep b total p s

def scan (b : LineBreak) (total : Nat) (p : Place) (s : Text) : List Token :=
  if s = [] then [⟨.eof, p.line⟩]
  else
    match step b total p s with
    | (ts, some (p', r)) =>
      if r.length < s.length then ts ++ scan b total p' r else ts
    | (ts, none) => ts
  termination_by s.length

def tokens (b : LineBreak) (s : Text) : List Token := scan b s.length ⟨.text, [], 1, false⟩ s

end CrateScaffold.Template
