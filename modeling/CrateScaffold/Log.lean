import CrateScaffold.Text.Case
import CrateScaffold.Text.Quoted

/-!
Log records and the level from which on they are shown.
-/

namespace CrateScaffold

inductive Level where
  | debug
  | info
  | warning
  | error
  | critical
  deriving DecidableEq, Repr

namespace Level

def number : Level → Nat
  | .debug => 10
  | .info => 20
  | .warning => 30
  | .error => 40
  | .critical => 50

def text : Level → Text
  | .debug => "DEBUG"
  | .info => "INFO"
  | .warning => "WARNING"
  | .error => "ERROR"
  | .critical => "CRITICAL"

end Level

structure Record where
  level : Level
  message : Text
  deriving DecidableEq, Repr

structure Verbosity where
  verbose : Bool
  quiet : Bool
  level : Option Text
  deriving DecidableEq, Repr

structure LevelFault where
  name : Text
  deriving DecidableEq, Repr

def LevelFault.message (f : LevelFault) : Text :=
  "module 'logging' has no attribute " ++ Text.quote f.name

def showsPlaces (threshold : Nat) : Bool := threshold ≤ Level.debug.number

namespace Verbosity

def levelNames : List (Text × Nat) := [
  ("DEBUG", 10), ("INFO", 20), ("WARNING", 30), ("WARN", 30), ("ERROR", 40), ("CRITICAL", 50),
  ("FATAL", 50), ("NOTSET", 0)]

def threshold (v : Verbosity) : Except LevelFault Nat :=
  match v.level.filter (!·.isEmpty) with
  | some name =>
    match levelNames.lookup (Text.upper name) with
    | some n => .ok n
    | none => .error ⟨Text.upper name⟩
  | none => .ok (if v.verbose then 10 else if v.quiet then 30 else 20)

end Verbosity

def Record.isShown (threshold : Nat) (r : Record) : Bool :=
  (if threshold = 0 then 30 else threshold) ≤ r.level.number

def loggerName (name : Text) : Text :=
  if Text.startsWith name "jni_cli" then name else "jni_cli." ++ name

end CrateScaffold
