import CrateScaffold.Template.Check
import CrateScaffold.Template.Evaluation
import CrateScaffold.Template.Parser

/-!
Rendering of a source. Before anything is evaluated every name that the template may look up has to
have a value; static text keeps the line break of the source.
-/

namespace CrateScaffold.Template

def read (source : Text) : Result (List Node) := do
  let ns ← (parse (LineBreak.detect source) (Text.foldBreaks source)).mapError .ofSyntax
  match nodesFault? false ns with
  | some f => .error (.unknown f)
  | none => return ns

def distinct (ns : List Text) : List Text := (Text.sort ns).eraseDups

theorem mem_distinct {n : Text} {ns : List Text} : n ∈ distinct ns ↔ n ∈ ns := by
  simp [distinct, Text.sort]

def lookups (source : Text) : Result (List Text) := do
  return distinct (freeNames (← read source))

def Context.supplies (c : Context) (n : Text) : Bool :=
  match c.lookup n with
  | none | some .null => false
  | some _ => true

def missing (source : Text) (c : Context) : Result (List Text) := do
  return (← lookups source).filter (!c.supplies ·)

def evaluate (source : Text) (c : Context) : Result Text := do
  if (c.lookup "self".toList).isSome then .error (.kind .receiver)
  run c (← read source)

end CrateScaffold.Template
