import CrateScaffold.Text.Printable

/-!
Quoted texts, as messages show them: between single quotes, or double ones when the text has a
single quote and no double one; every unprintable character is written as an escape.
-/

namespace CrateScaffold.Text

def hexDigits (width n : Nat) : Text := padLeft width '0' (Nat.toDigits 16 n)

def quoteMark (s : Text) : Char := if '\'' ∈ s ∧ '"' ∉ s then '"' else '\''

def quoteChar (mark c : Char) : Text :=
  if c = mark ∨ c = '\\' then ['\\', c]
  else if c = '\t' then ['\\', 't']
  else if c = '\n' then ['\\', 'n']
  else if c = '\r' then ['\\', 'r']
  else if isPrintable c then [c]
  else if c.toNat < 0x100 then '\\' :: 'x' :: hexDigits 2 c.toNat
  else if c.toNat < 0x10000 then '\\' :: 'u' :: hexDigits 4 c.toNat
  else '\\' :: 'U' :: hexDigits 8 c.toNat

def quote (s : Text) : Text := quoteMark s :: s.flatMap (quoteChar (quoteMark s)) ++ [quoteMark s]

end CrateScaffold.Text
