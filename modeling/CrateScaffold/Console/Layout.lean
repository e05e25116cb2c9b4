import CrateScaffold.Console.Markup
import CrateScaffold.Text.Width

/-!
The layout of a text on so many columns. Every line is broken before a word that does not fit, a
word that is wider than a line is folded if that is asked for, blanks that stand out at the end of a
line go, and what is still too wide is cut off.
-/

namespace CrateScaffold.Console

/-- A tab leads to the next column that is a multiple of eight; `column` is where `s` begins. -/
def expandFrom (column : Nat) : Text → Text
  | [] => []
  | c :: s =>
    if c = '\t' then
      List.replicate (8 - column % 8) ' ' ++ expandFrom (column + (8 - column % 8)) s
    else c :: expandFrom (column + Text.charWidth c) s

def expandTabs (s : Text) : Text := expandFrom 0 s

def runs : Text → List Text
  | [] => []
  | c :: s =>
    match runs s with
    | [] => [[c]]
    | w :: ws =>
      if Text.isBlank c && !w.head?.any Text.isBlank then [c] :: w :: ws else (c :: w) :: ws

def wordsOf (s : Text) : List Text :=
  Text.prepend (s.takeWhile Text.isBlank) (runs (Text.trimLeft s))

def chopFrom (columns used : Nat) : Text → List Text
  | [] => [[]]
  | c :: s =>
    if columns < used + Text.charWidth c then
      [] :: Text.prepend [c] (chopFrom columns (Text.charWidth c) s)
    else Text.prepend [c] (chopFrom columns (used + Text.charWidth c) s)

def chop (columns : Nat) (s : Text) : List Text := chopFrom columns 0 s

def breakUnless (first : Bool) (ps : List Text) : List Text := if first then ps else [] :: ps

def foldInto (first : Bool) (rest : List Text) : List Text → List Text
  | [] => rest
  | c :: cs => breakUnless first (Text.prepend c (foldInto (first && c.isEmpty) rest cs))

def breakWords (columns : Nat) (fold : Bool) (first : Bool) (used : Nat) :
    List Text → List Text
  | [] => [[]]
  | w :: ws =>
    let width := Text.width (Text.trimRight w)
    let next (used : Nat) := breakWords columns fold false used ws
    if used + width ≤ columns then Text.prepend w (next (used + Text.width w))
    else if columns < width then
      if fold then
        foldInto first (next (Text.width ((chop columns w).getLast?.getD []))) (chop columns w)
      else breakUnless first (Text.prepend w (next (Text.width w)))
    else if used = 0 then Text.prepend w (next used)
    else breakUnless first (Text.prepend w (next (Text.width w)))

def pieces (columns : Nat) (fold : Bool) (s : Text) : List Text :=
  breakWords columns fold true 0 (wordsOf s)

/-- The beginning of a text that is wider than so many columns, found by halving between `start` and
`stop`; a blank stands for half of a wide character. -/
def cropFrom (columns : Nat) (s : Text) (start stop : Nat) : Text :=
  let before := s.take ((start + stop) / 2 + 1)
  if Text.width before = columns + 1 ∧ before.getLast?.any (Text.charWidth · == 2) then
    before.dropLast ++ [' ']
  else if Text.width before = columns then before
  else if columns < Text.width before then
    if (start + stop) / 2 < stop then cropFrom columns s start ((start + stop) / 2) else []
  else if start < (start + stop) / 2 then cropFrom columns s ((start + stop) / 2) stop
  else before
  termination_by stop - start

def crop (columns : Nat) (s : Text) : Text :=
  if columns = 0 then [] else cropFrom columns s 0 s.length

def strippedLength (columns : Nat) (s : Text) : Nat :=
  s.length - min (s.length - (Text.trimRight s).length) (s.length - columns)

namespace Span

def within (start stop : Nat) (x : Span) : Option Span :=
  if max x.start start < min x.stop stop then
    some ⟨max x.start start - start, min x.stop stop - start, x.fault⟩
  else none

def upTo (length : Nat) (x : Span) : Option Span :=
  if x.start < length then some { x with stop := min length x.stop } else none

end Span

namespace Styled

/-- Pieces of the text that follow one another, with `gap` characters between them. -/
def spread (gap : Nat) (spans : List Span) (start : Nat) : List Text → List Styled
  | [] => []
  | p :: ps =>
    ⟨p, spans.filterMap (Span.within start (start + p.length))⟩ ::
      spread gap spans (start + p.length + gap) ps

def divide (gap : Nat) (s : Styled) : List Text → List Styled
  | [_] => [s]
  | ps => spread gap s.spans 0 ps

def lines (s : Styled) : List Styled := s.divide 1 (Text.splitOn '\n' s.text)

def withText (s : Styled) (t : Text) : Styled :=
  ⟨t, if t.length < s.text.length then s.spans.filterMap (Span.upTo t.length) else s.spans⟩

def expandTabs (s : Styled) : Styled :=
  let place (n : Nat) := (Console.expandTabs (s.text.take n)).length
  if '\t' ∈ s.text then
    ⟨Console.expandTabs s.text,
      (s.spans.filter fun x => x.start < x.stop).map fun x =>
        { x with start := place x.start, stop := place x.stop }⟩
  else s

def stripEnd (columns : Nat) (s : Styled) : Styled :=
  s.withText (s.text.take (strippedLength columns s.text))

def wrap (columns : Nat) (fold : Bool) (s : Styled) : List Styled :=
  s.lines.flatMap fun l =>
    (l.expandTabs.divide 0 (pieces columns fold l.expandTabs.text)).map (stripEnd columns)

def fit (columns : Nat) (s : Styled) : Styled :=
  if columns < Text.width s.text then s.withText (crop columns s.text) else s

def elide (columns : Nat) (s : Styled) : Styled :=
  if columns < Text.width s.text then s.withText (crop (columns - 1) s.text ++ ['…']) else s

end Styled

def texts (ls : List Styled) : Except Fault (List Text) :=
  match ls.flatMap Styled.spans with
  | x :: _ => .error (.color x.fault)
  | [] => .ok (ls.map Styled.text)

end CrateScaffold.Console
