import CrateScaffold.Text.Basic

/-!
Blocks of a build script: the text between an opening brace and the one that closes it. Braces
inside string literals do not count, and a backslash in a literal hides the character after it.
-/

namespace CrateScaffold.BuildScript

def bodyFrom? : Nat → Bool → Text → Option Text
  | _, _, [] => none
  | depth, true, ['\\'] => bodyFrom? depth true []
  | depth, true, '\\' :: c :: s => (bodyFrom? depth true s).map ('\\' :: c :: ·)
  | depth, true, c :: s => (bodyFrom? depth (c != '"') s).map (c :: ·)
  | depth, false, '"' :: s => (bodyFrom? depth true s).map ('"' :: ·)
  | depth, false, '{' :: s => (bodyFrom? (depth + 1) false s).map ('{' :: ·)
  | 0, false, '}' :: _ => some []
  | depth + 1, false, '}' :: s => (bodyFrom? depth false s).map ('}' :: ·)
  | depth, false, c :: s => (bodyFrom? depth false s).map (c :: ·)

def body? : Text → Option Text
  | '{' :: s => bodyFrom? 0 false s
  | _ => none

end CrateScaffold.BuildScript
