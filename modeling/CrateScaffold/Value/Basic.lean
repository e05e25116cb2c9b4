import CrateScaffold.Value.Moment

/-!
Values: what a manifest holds and what templates compute with. A table keeps the order in which
its entries were made. `undefined` stands for a value that is not there, and says why.
-/

namespace CrateScaffold

inductive Missing where
  | name (name : Text)
  | attribute (owner name : Text)
  | element (owner index : Text)
  | endpoint (first : Bool)
  | branch (line : Nat)
  deriving DecidableEq, Repr

def Missing.message : Missing → Text
  | .name n => Text.quote n ++ " is undefined"
  | .attribute owner n => Text.quote owner ++ " has no attribute " ++ Text.quote n
  | .element owner index => owner ++ " has no element " ++ index
  | .endpoint true => "No first item, sequence was empty."
  | .endpoint false => "No last item, sequence was empty."
  | .branch line => "the inline if-expression on line " ++ Text.ofNat line ++
      " evaluated to false and no else section was defined."

def Missing.isLenient : Missing → Bool
  | .branch _ => true
  | _ => false

inductive Value where
  | null
  | bool (b : Bool)
  | int (n : Int)
  | float (x : Float)
  | text (s : Text)
  | markup (s : Text)
  | moment (m : Moment)
  | list (items : List Value)
  | tuple (items : List Value)
  | table (entries : List (Value × Value))
  | entries (entries : List (Value × Value))
  | range (start stop step : Int)
  | loop (index total : Nat)
  | method (owner : Value) (name : Text)
  | builtin (name : Text)
  | undefined (cause : Missing)
  deriving Inhabited

namespace Value

def kind : Value → Text
  | .null => "NoneType"
  | .bool _ => "bool"
  | .int _ => "int"
  | .float _ => "float"
  | .text _ => "str"
  | .markup _ => "Markup"
  | .moment m => m.kind
  | .list _ => "list"
  | .tuple _ => "tuple"
  | .table _ => "dict"
  | .entries _ => "dict_items"
  | .range .. => "range"
  | .loop .. => "LoopContext"
  | .method .. => "builtin_function_or_method"
  | .builtin n => if n = "lipsum" then "function" else "type"
  | .undefined m => if m.isLenient then "Undefined" else "StrictUndefined"

def rangeItems (start step : Int) : Nat → List Value
  | 0 => []
  | n + 1 => .int start :: rangeItems (start + step) step n

def rangeLength (start stop step : Int) : Nat :=
  if 0 < step then ((stop - start + step - 1) / step).toNat
  else if step < 0 then ((start - stop - step - 1) / -step).toNat
  else 0

def toInt? : Value → Option Int
  | .bool b => some (if b then 1 else 0)
  | .int n => some n
  | _ => none

def toText? : Value → Option Text
  | .text s => some s
  | .markup s => some s
  | _ => none

/-- Whether a value only stands for something in a run: the progress of a loop, a method or a
global. -/
def isHandle : Value → Bool
  | .loop .. => true
  | .method .. => true
  | .builtin _ => true
  | _ => false

def isAtom : Value → Bool
  | .null => true
  | .bool _ => true
  | .int _ => true
  | .float _ => true
  | .text _ => true
  | .markup _ => true
  | _ => false

def isTrue : Value → Bool
  | .null => false
  | .bool b => b
  | .int n => n != 0
  | .float x => x != 0.0
  | .text s => !s.isEmpty
  | .markup s => !s.isEmpty
  | .list xs => !xs.isEmpty
  | .tuple xs => !xs.isEmpty
  | .table es => !es.isEmpty
  | .entries es => !es.isEmpty
  | .range a b c => rangeLength a b c != 0
  | .undefined _ => false
  | _ => true

end Value

end CrateScaffold
