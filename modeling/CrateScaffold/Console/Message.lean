import CrateScaffold.Console.Layout

/-!
Messages on the console: the text of their markup in lines that fit. A console without columns shows
nothing.
-/

namespace CrateScaffold.Console

inductive Tone where
  | error
  | success
  | warning
  deriving DecidableEq, Repr

def Tone.style : Tone → Text
  | .error => "red bold"
  | .success => "green"
  | .warning => "yellow"

def Tone.wrap (tone : Tone) (message : Text) : Text :=
  '[' :: tone.style ++ ']' :: message ++ '[' :: '/' :: tone.style ++ [']']

def shownLines (columns : Nat) (s : Styled) : List Styled :=
  (s.wrap columns true).map (Styled.fit columns)

def message (literals : Literals) (columns : Nat) (tone : Tone) (s : Text) : Except Fault Text := do
  let t ← styled literals (tone.wrap s)
  if columns = 0 then return []
  return Text.unlines (← texts (shownLines columns t))

end CrateScaffold.Console
