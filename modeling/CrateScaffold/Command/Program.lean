import CrateScaffold.Command.Execution

/-!
The program as a whole: from the words of a command line and a world to a report and the world
after it.
-/

namespace CrateScaffold

def programVersion : Text := "jni-cli, version 0.1.0\n"

structure Report where
  code : Option Nat
  failure : Option Failure
  output : Text
  errors : Text
  records : List Record

namespace Report

def ofRun (threshold : Nat) (stop : Option Command.Stop) (w : World) : Report where
  code := match stop with
    | none => some 0
    | some s => s.code?
  failure := match stop with
    | some (.escaped f) => some f
    | _ => none
  output := match stop with
    | some .version => programVersion
    | _ => w.printed
  errors := Console.withoutSequences ((stop.map Command.Stop.errorText).getD [])
  records := w.records.filter (Record.isShown threshold)

end Report

def program (words : List Text) (environment : Command.Environment) (h : Host) (w : World) :
    Report × World :=
  let w := { w with printed := [], records := [] }
  match Command.read w.files environment words with
  | .error s => (.ofRun 0 (some s) w, w)
  | .ok (v, i) =>
    let (x, w) := Command.perform i h w
    let stop := match x with
      | .ok _ => none
      | .error s => some s
    (.ofRun (v.threshold.toOption.getD 0) stop w, w)

end CrateScaffold
