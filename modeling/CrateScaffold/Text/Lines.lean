import CrateScaffold.Text.Basic

/-!
Lines and line breaks. `lines` cuts at every line boundary of any script and keeps the
terminators, so nothing is lost: the lines concatenate to the text. A source, in contrast, has one
`LineBreak` among `\n`, `\r` and `\r\n`, and `foldBreaks` brings all three to `\n`.
-/

namespace CrateScaffold.Text

def isLineEnd (c : Char) : Bool :=
  c ∈ ['\n', '\r', '\x0b', '\x0c', '\x1c', '\x1d', '\x1e', '\u0085', '\u2028', '\u2029']

/-- The lines of a text, each with its terminator; a carriage return and a line feed together end
one line. -/
def lines : Text → List Text
  | [] => []
  | '\r' :: '\n' :: s => ['\r', '\n'] :: lines s
  | c :: s =>
    if isLineEnd c then [c] :: lines s
    else match lines s with
      | [] => [[c]]
      | l :: ls => (c :: l) :: ls

theorem flatten_lines (s : Text) : (lines s).flatten = s := by
  fun_induction lines s <;> simp_all

def foldBreaks : Text → Text
  | [] => []
  | '\r' :: '\n' :: s => '\n' :: foldBreaks s
  | c :: s => (if c = '\r' then '\n' else c) :: foldBreaks s

end CrateScaffold.Text

namespace CrateScaffold

inductive LineBreak where
  | lf
  | cr
  | crlf
  deriving DecidableEq, Repr

namespace LineBreak

def text : LineBreak → Text
  | .lf => ['\n']
  | .cr => ['\r']
  | .crlf => ['\r', '\n']

def detect (source : Text) : LineBreak :=
  if '\r' ∈ source then if Text.contains source ['\r', '\n'] then .crlf else .cr else .lf

def unfold (b : LineBreak) (s : Text) : Text := s.flatMap fun c => if c = '\n' then b.text else [c]

end LineBreak

end CrateScaffold
