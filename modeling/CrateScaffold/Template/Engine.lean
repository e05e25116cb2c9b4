import CrateScaffold.Template.Library
import CrateScaffold.Template.Rendering

/-!
The engine behind the templates. What a source asks for is evaluated here where this library covers
it: texts, comments, raw sections, printed expressions, conditions, loops and assignments; literals,
names, members, elements, arithmetic, relations, calls of `range` and of the methods of texts and
tables named in `methodsOf`; the filters `filterNames` and the tests `testNames`. Everything else
that the language has ends in `uncovered`, and then the engine is asked. It is a parameter: of what
it answers nothing is assumed.
-/

namespace CrateScaffold.Template

structure Engine where
  lookups : Text → Except EngineFault (List Text)
  evaluate : (Text → Except LoadFault Text) → Text → Context → Except EngineFault Text

namespace Engine

def refusing : Engine where
  lookups _ := .error ⟨.other, Fault.uncovered.message⟩
  evaluate _ _ _ := .error ⟨.other, Fault.uncovered.message⟩

def complete {α : Type} (x : Result α) (answer : Except EngineFault α) : Result α :=
  match x with
  | .error .uncovered => answer.mapError .engine
  | x => x

@[simp]
theorem complete_ok {α : Type} (a : α) (answer : Except EngineFault α) :
    complete (.ok a) answer = .ok a := rfl

theorem complete_of_ne {α : Type} {x : Result α} (answer : Except EngineFault α)
    (h : x ≠ .error .uncovered) : complete x answer = x := by
  unfold complete
  split
  · exact absurd rfl h
  · rfl

def names (e : Engine) (source : Text) : Result (List Text) :=
  complete (Template.lookups source) (e.lookups source)

def missing (e : Engine) (source : Text) (c : Context) : Result (List Text) := do
  return (← e.names source).filter (!c.supplies ·)

def text (e : Engine) (load : Text → Except LoadFault Text) (source : Text) (c : Context) :
    Result Text :=
  complete (Template.evaluate source c) (e.evaluate load source c)

theorem missing_of_ok {e : Engine} {source : Text} {c : Context} {ns : List Text}
    (h : Template.missing source c = .ok ns) : e.missing source c = .ok ns := by
  unfold Template.missing at h
  unfold missing names
  cases hl : Template.lookups source with
  | error f => rw [hl] at h; cases h
  | ok names => rw [hl] at h; exact h

end Engine

end CrateScaffold.Template
