import CrateScaffold.Text.Basic

/-!
A binding: a type of the crate and the package that its class lives in.
-/

namespace CrateScaffold

structure Binding where
  type : Text
  package : Text
  deriving DecidableEq, Repr

namespace Binding

def qualifiedName (b : Binding) : Text := b.package ++ '.' :: b.type

def packagePath (b : Binding) : Text := Text.mapChar '.' '/' b.package

end Binding

end CrateScaffold
