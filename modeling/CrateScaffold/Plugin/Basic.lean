import CrateScaffold.Binding.Basic
import CrateScaffold.Reading

/-!
Plugins: named sources of contributions. What a plugin contributes may depend on what is asked of it
and on the tree, which it cannot change.
-/

namespace CrateScaffold

structure Brief where
  coordinates : Coordinates
  crate : Option Crate
  bindings : List Binding
  templates : Template.Library

structure Plugin where
  name : Text
  module : Text
  contributions : Brief → Reading (List Contribution)

end CrateScaffold
