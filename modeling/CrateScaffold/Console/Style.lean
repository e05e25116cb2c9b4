import CrateScaffold.Console.Color

/-!
Styles of the console. Styles that look alike have one normal form, so a style may be closed under
another spelling than it was opened with.
-/

namespace CrateScaffold.Console

def attributes : List (String × String) := [
  ("bold", "b"), ("dim", "d"), ("italic", "i"), ("underline", "u"), ("blink", "blink"),
  ("blink2", "blink2"), ("reverse", "r"), ("conceal", "c"), ("strike", "s"),
  ("underline2", "uu"), ("frame", "frame"), ("encircle", "encircle"), ("overline", "o")]

def attribute? (s : Text) : Option Text :=
  (attributes.find? fun a => a.1.toList == s || a.2.toList == s).map (·.1.toList)

structure Style where
  attributes : List (Text × Bool)
  color : Option Text
  background : Option Text
  link : Option Text
  deriving DecidableEq, Repr

namespace Style

def plain : Style := ⟨[], none, none, none⟩

def set (s : Style) (name : Text) (on : Bool) : Style :=
  { s with attributes := (name, on) :: s.attributes }

def readWords (s : Style) : List Text → Except ColorFault (Option Style)
  | [] => .ok (some s)
  | w :: ws =>
    if Text.lower w = "on".toList then
      match ws with
      | [] => .ok none
      | c :: ws =>
        match isColor (Text.lower c) with
        | .error f => .error f
        | .ok false => .ok none
        | .ok true => readWords { s with background := some (Text.lower c) } ws
    else if Text.lower w = "not".toList then
      match ws with
      | [] => .ok none
      | a :: ws =>
        match attribute? a with
        | some a => readWords (s.set a false) ws
        | none => .ok none
    else if Text.lower w = "link".toList then
      match ws with
      | [] => .ok none
      | l :: ws => readWords { s with link := some l } ws
    else
      match attribute? (Text.lower w) with
      | some a => readWords (s.set a true) ws
      | none =>
        match isColor (Text.lower w) with
        | .error f => .error f
        | .ok false => .ok none
        | .ok true => readWords { s with color := some (Text.lower w) } ws

def read (definition : Text) : Except ColorFault (Option Style) :=
  if Text.trim definition = "none".toList then .ok (some plain)
  else plain.readWords (Text.words definition)

def words (s : Style) : List Text :=
  Console.attributes.flatMap (fun a =>
    match s.attributes.lookup a.1.toList with
    | some true => [a.1.toList]
    | some false => ["not".toList, a.1.toList]
    | none => []) ++
  s.color.toList ++
  (match s.background with | some c => ["on".toList, c] | none => []) ++
  (match s.link with | some l => ["link".toList, l] | none => [])

def text (s : Style) : Text := if s.words = [] then "none" else Text.joinWith [' '] s.words

def normalForm (definition : Text) : Except ColorFault Text :=
  (read definition).map fun
    | some s => s.text
    | none => Text.lower (Text.trim definition)

end Style

end CrateScaffold.Console
