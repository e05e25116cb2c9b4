import CrateScaffold.Console.Emoji
import CrateScaffold.Console.Style
import CrateScaffold.Text.Quoted
import CrateScaffold.Text.Word

/-!
Markup of console messages. A tag in brackets opens a style, a tag with a slash closes the latest
one of its name; an odd number of backslashes before a tag makes it plain text. What follows an
equals sign in a tag are its parameters. Those of a handler, whose name begins with `@`, are a
literal that is evaluated when the tag is closed; what comes of that is a parameter of all that is
here. Of the styles of a text only those are kept that cannot be shown: they are looked at last, and
only where something of their text has stayed.
-/

namespace CrateScaffold.Console

inductive LiteralFault where
  | malformed (message : Text)
  | refused (message : Text)
  deriving DecidableEq, Repr

abbrev Literals := Text → Option LiteralFault

inductive MarkupFault where
  | unmatched (tag : Text) (position : Nat)
  | nothing (position : Nat)
  | handler (parameters literal : Text) (f : LiteralFault)
  deriving DecidableEq, Repr

def MarkupFault.message : MarkupFault → Text
  | .unmatched tag position =>
    "closing tag '[" ++ tag ++ "]' at position " ++ Text.ofNat position ++
      " doesn't match any open tag"
  | .nothing position =>
    "closing tag '[/]' at position " ++ Text.ofNat position ++ " has nothing to close"
  | .handler parameters literal (.malformed m) =>
    "error parsing " ++ Text.quote literal ++ " in " ++ Text.quote parameters ++ "; " ++ m
  | .handler parameters _ (.refused m) => "error parsing " ++ Text.quote parameters ++ "; " ++ m

inductive Fault where
  | markup (f : MarkupFault)
  | color (f : ColorFault)
  deriving DecidableEq, Repr

def isTagStart (c : Char) : Bool :=
  ('a' ≤ c && c ≤ 'z') || c == '#' || c == '/' || c == '@'

def tag? : Text → Option (Text × Text)
  | '[' :: c :: s =>
    if isTagStart c then
      match s.dropWhile (fun d => d != '[' && d != ']') with
      | ']' :: r => some (c :: s.takeWhile (fun d => d != '[' && d != ']'), r)
      | _ => none
    else none
  | _ => none

def escapedTag? (s : Text) : Option (Nat × Text × Text) :=
  (tag? (s.dropWhile (· == '\\'))).map ((s.takeWhile (· == '\\')).length, ·)

theorem length_lt_of_escapedTag? {s tag r : Text} {n : Nat}
    (h : escapedTag? s = some (n, tag, r)) : r.length < s.length := by
  obtain ⟨⟨t, u⟩, ht, he⟩ := Option.map_eq_some_iff.1 h
  cases he
  have h1 := (List.dropWhile_sublist (l := s) (· == '\\')).length_le
  generalize s.dropWhile (· == '\\') = d at ht h1
  simp only [tag?] at ht
  split at ht
  next c e =>
    split at ht
    · have h2 := (List.dropWhile_sublist (l := e) (fun d => d != '[' && d != ']')).length_le
      split at ht
      next r' hr =>
        cases ht
        rw [hr] at h2
        simp only [List.length_cons] at *
        omega
      · cases ht
    · cases ht
  · cases ht

inductive Part where
  | plain (s : Text)
  | tag (position : Nat) (s : Text)
  deriving DecidableEq, Repr

def push (c : Char) : List Part → List Part
  | .plain s :: ps => .plain (c :: s) :: ps
  | ps => .plain [c] :: ps

/-- The parts of markup from a position on. A tag ends the text before it; a backslash before a
bracket that opens no tag goes. -/
def partsFrom (position : Nat) (s : Text) : List Part :=
  match s with
  | [] => [.plain []]
  | c :: t =>
    match h : escapedTag? (c :: t) with
    | some (n, tag, r) =>
      have : r.length < t.length + 1 := length_lt_of_escapedTag? h
      .plain [] :: .plain (List.replicate (n / 2) '\\') ::
        (if n % 2 = 1 then .plain ('[' :: tag ++ [']']) else .tag (position + n) tag) ::
        partsFrom (position + n + tag.length + 2) r
    | none =>
      if c = '\\' ∧ t.head? = some '[' then partsFrom (position + 1) t
      else push c (partsFrom (position + 1) t)
  termination_by s.length

def isCursorControl (c : Char) : Bool :=
  [7, 8, 11, 12, 13].contains c.toNat

def shown (s : Text) : Text := (withEmojis s).filter (!isCursorControl ·)

structure Span where
  start : Nat
  stop : Nat
  fault : ColorFault
  deriving DecidableEq, Repr

structure Styled where
  text : Text
  spans : List Span
  deriving DecidableEq, Repr

structure Tag where
  start : Nat
  name : Text
  parameters : Option Text

namespace Tag

def cut (tag : Text) : Text × Option Text :=
  match tag.dropWhile (· != '=') with
  | [] => (tag, none)
  | _ :: p => (tag.takeWhile (· != '='), some p)

def isHandler (t : Tag) : Bool := t.name.head? == some '@'

def span (t : Tag) (stop : Nat) : List Span :=
  match Style.read (t.name ++ (t.parameters.map (' ' :: ·)).getD []) with
  | .error f => [⟨t.start, stop, f⟩]
  | .ok _ => []

def literal (parameters : Text) : Text :=
  match parameters.dropWhile fun c => Text.isWord c || c == '.' with
  | [] => "()"
  | '(' :: r =>
    if r.getLast? = some ')' ∧ '\n' ∉ r then '(' :: r else parameters
  | _ => parameters

def closeHandler (literals : Literals) (t : Tag) : Except Fault (List Span) :=
  match t.parameters with
  | none | some [] => .ok []
  | some p =>
    match literals (literal (Text.trim p)) with
    | none => .ok []
    | some f => .error (.markup (.handler p (literal (Text.trim p)) f))

def close (literals : Literals) (stop : Nat) (t : Tag) : Except Fault (List Span) :=
  if t.isHandler then t.closeHandler literals else .ok (t.span stop)

end Tag

def take? (name : Text) (opened : List Tag) : Except ColorFault (Option (Tag × List Tag)) :=
  if Text.trim name = [] then .ok (opened.head?.map (·, opened.tail))
  else (Style.normalForm (Text.trim name)).map fun n =>
    (opened.find? (·.name == n)).map (·, opened.eraseP (·.name == n))

def afterTag (literals : Literals) (length : Nat) (opened : List Tag) (position : Nat)
    (tag : Text) : Except Fault (List Tag × List Span) :=
  match Tag.cut tag with
  | ('/' :: name, _) =>
    match take? name opened with
    | .error f => .error (.color f)
    | .ok none =>
      .error (.markup (if Text.trim name = [] then .nothing position else .unmatched tag position))
    | .ok (some (t, opened)) => (t.close literals length).map (opened, ·)
  | (name, parameters) =>
    match Style.normalForm name with
    | .error f => .error (.color f)
    | .ok name => .ok (⟨length, name, parameters⟩ :: opened, [])

def styledFrom (literals : Literals) (length : Nat) (opened : List Tag) :
    List Part → Except Fault Styled
  | [] => .ok ⟨[], opened.flatMap (·.span length)⟩
  | .plain s :: ps =>
    (styledFrom literals (length + (shown s).length) opened ps).map fun t =>
      { t with text := shown s ++ t.text }
  | .tag position s :: ps =>
    match afterTag literals length opened position s with
    | .error f => .error f
    | .ok (opened, spans) =>
      (styledFrom literals length opened ps).map fun t => { t with spans := spans ++ t.spans }

def styled (literals : Literals) (s : Text) : Except Fault Styled :=
  (styledFrom literals 0 [] (partsFrom 0 s)).map fun t =>
    { t with spans := t.spans.reverse.mergeSort fun x y => x.start ≤ y.start }

end CrateScaffold.Console
