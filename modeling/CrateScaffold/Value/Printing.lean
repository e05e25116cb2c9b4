import CrateScaffold.Decimal.Binary
import CrateScaffold.Value.Basic

/-!
The two texts of a value: `display`, which is a text itself where the value is one, and `literal`,
which shows how the value is written. Inside lists and tables only literals stand.
-/

namespace CrateScaffold.Value

def ofBool (b : Bool) : Text := if b then "True" else "False"

def commas : List Text → Text := Text.joinWith ", "

def rangeText (start stop step : Int) : Text :=
  let ends := Text.ofInt start ++ ", " ++ Text.ofInt stop
  "range(" ++ (if step = 1 then ends else ends ++ ", " ++ Text.ofInt step) ++ ")"

def bracketed (l : Text) (items : List Text) (r : Text) : Text := l ++ commas items ++ r

def parenthesised : List Text → Text
  | [t] => '(' :: t ++ [',', ')']
  | ts => bracketed ['('] ts [')']

mutual

def literal : Value → Text
  | .null => "None"
  | .bool b => ofBool b
  | .int n => Text.ofInt n
  | .float x => Decimal.ofFloat x
  | .text s => Text.quote s
  | .markup s => "Markup(" ++ Text.quote s ++ ")"
  | .moment m => m.literal
  | .list xs => bracketed ['['] (literals xs) [']']
  | .tuple xs => parenthesised (literals xs)
  | .table es => bracketed ['{'] (entryLiterals es) ['}']
  | .entries es => bracketed "dict_items([" (pairLiterals es) "])"
  | .range a b c => rangeText a b c
  | .loop index total => "<LoopContext " ++ Text.ofNat index ++ "/" ++ Text.ofNat total ++ ">"
  | .method owner name => "<built-in method " ++ name ++ " of " ++ owner.kind ++ " object>"
  | .builtin name => "<class " ++ Text.quote name ++ ">"
  | .undefined _ => "Undefined"

def literals : List Value → List Text
  | [] => []
  | x :: xs => literal x :: literals xs

def entryLiterals : List (Value × Value) → List Text
  | [] => []
  | (k, v) :: es => (literal k ++ ": " ++ literal v) :: entryLiterals es

def pairLiterals : List (Value × Value) → List Text
  | [] => []
  | (k, v) :: es => parenthesised [literal k, literal v] :: pairLiterals es

end

def display : Value → Text
  | .text s => s
  | .markup s => s
  | .moment m => Text.ofMoment m
  | .undefined _ => []
  | v => v.literal

end CrateScaffold.Value
