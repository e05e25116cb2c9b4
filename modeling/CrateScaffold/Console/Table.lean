import CrateScaffold.Binding.Basic
import CrateScaffold.Console.Message
import CrateScaffold.Text.Lines

/-!
Tables on the console: a centred title, a heavy box around the headings, a light one around the
rows. A column is as wide as its widest line with a blank on both sides; when the console is too
narrow, the widest columns give way first, and what does not fit into a cell is elided.
-/

namespace CrateScaffold.Console

def widest (s : Text) : Nat := ((Text.lines s).map Text.width).foldl max 0

variable (literals : Literals)

def cellWidth (room : Nat) (s : Text) : Except Fault Nat :=
  if room < 3 then .ok room
  else (styled literals s).map fun t => min (widest t.text + 2) room

def columnWidth (room : Nat) (cells : List Text) : Except Fault Nat :=
  (cells.mapM (cellWidth literals room)).map (·.foldl max 0)

def roundedQuotient (n k : Nat) : Nat :=
  if 2 * (n % k) < k ∨ 2 * (n % k) = k ∧ n / k % 2 = 0 then n / k else n / k + 1

def narrowEvenly (top most : Nat) : (excess count : Nat) → List Nat → List Nat
  | _, _, [] => []
  | excess, count, w :: ws =>
    if w = top ∧ 0 < count then
      let taken := min most (roundedQuotient excess count)
      (w - taken) :: narrowEvenly top most (excess - taken) (count - 1) ws
    else w :: narrowEvenly top most excess count ws

def total (widths : List Nat) : Nat := widths.foldr (· + ·) 0

def narrowWidest (room : Nat) (widths : List Nat) : List Nat :=
  let top := widths.foldl max 0
  let next := (widths.filter (· != top)).foldl max 0
  let excess := total widths - room
  narrowEvenly top (min excess (top - next)) excess (widths.count top) widths

def narrow (room : Nat) (widths : List Nat) : List Nat :=
  if h : room < total widths ∧ total (narrowWidest room widths) < total widths then
    have := h.2
    narrow room (narrowWidest room widths)
  else widths
  termination_by total widths

def padded (columns : Nat) (s : Text) : Text := s ++ List.replicate (columns - Text.width s) ' '

def cellLines (columns : Nat) (s : Text) : Except Fault (List Text) := do
  if columns < 3 then return []
  let t ← styled literals s
  let ls ← texts ((t.wrap (columns - 2) false).map (Styled.elide (columns - 2)))
  return ls.map fun l => ' ' :: padded (columns - 2) l ++ [' ']

def rule (left stroke joint right : Char) (widths : List Nat) : Text :=
  left :: Text.joinWith [joint] (widths.map fun w => List.replicate w stroke) ++ [right]

def blanks (height columns : Nat) (ls : List Text) : List Text :=
  List.replicate (height - ls.length) (List.replicate columns ' ')

def rowLines (bar : Char) (atFoot : Bool) (widths : List Nat) (cells : List (List Text)) :
    List Text :=
  let height := (cells.map List.length).foldl max 1
  let blocks := List.zipWith (fun w ls =>
    if atFoot then blanks height w ls ++ ls else ls ++ blanks height w ls) widths cells
  (List.range height).map fun i =>
    bar :: Text.joinWith [bar] (blocks.map fun b => (b[i]?).getD []) ++ [bar]

def row (bar : Char) (atFoot : Bool) (widths : List Nat) (cells : List Text) :
    Except Fault (List Text) :=
  ((List.zip widths cells).mapM fun c => cellLines literals c.1 c.2).map
    (rowLines bar atFoot widths)

def centred (columns : Nat) (s : Text) : Text :=
  padded columns (List.replicate ((columns - Text.width s) / 2) ' ' ++ s)

def titleLines (columns : Nat) (s : Text) : List Text :=
  ((Styled.mk s []).wrap columns true).map fun l =>
    centred columns ((l.withText (Text.trimRight l.text)).fit columns).text

def boxLines (widths : List Nat) (headings : List Text) (rows : List (List Text)) :
    Except Fault (List Text) := do
  let head ← row literals '┃' true widths headings
  let body ← rows.mapM (row literals '│' false widths)
  return rule '┏' '━' '┳' '┓' widths :: head ++
    rule '┡' '━' '╇' '┩' widths :: body.flatten ++ [rule '└' '─' '┴' '┘' widths]

def table (columns : Nat) (title : Text) (headings : List Text) (rows : List (List Text)) :
    Except Fault Text := do
  if columns = 0 then return []
  let bars := headings.length + 1
  let room := columns - bars
  let cells := (List.range headings.length).map fun i =>
    (headings :: rows).map fun r => (r[i]?).getD []
  let widths := narrow room (← cells.mapM (columnWidth literals room))
  let box ← boxLines literals widths headings rows
  return Text.unlines ((titleLines (total widths + bars) title ++ box).map fun l =>
    ((Styled.mk l []).fit columns).text)

def bindingRow (b : Binding) : List Text := [b.type, b.package, b.qualifiedName]

def bindingTable (columns : Nat) (bindings : List Binding) : Except Fault Text :=
  table literals columns "Java class bindings" ["Rust type", "Package", "JVM class"]
    (bindings.map bindingRow)

end CrateScaffold.Console
