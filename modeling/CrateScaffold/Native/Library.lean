import CrateScaffold.Value.Printing

/-!
Names of native libraries by platform.
-/

namespace CrateScaffold.Native

def fileName (platform : Text) (libName : Value) : Text :=
  if Text.startsWith platform "win" then libName.display ++ ".dll"
  else if platform = "darwin" then "lib" ++ libName.display ++ ".dylib"
  else "lib" ++ libName.display ++ ".so"

end CrateScaffold.Native
