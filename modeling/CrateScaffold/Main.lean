import CrateScaffold.Command.Program

/-!
The program on a directory. The paths of the files that it may read come line by line from the
standard input; what it makes goes below the directory that it runs in. It starts no build tool and
has no external plugins.
-/

namespace CrateScaffold.Main

def addFile (t : FileTree) (l : Location) (content : Bytes) : FileTree :=
  let dirs := (List.range l.length).map fun n => l.take n
  let t := dirs.foldl (fun t d => if (t.at? d).isSome then t else t.put d .dir) t
  t.put l (.file content false)

def readTree (paths : List Text) : IO FileTree :=
  paths.foldlM (fun t p => do
    let content ← IO.FS.readBinFile (String.ofList p)
    return addFile t (Path.partsOf p) content.toList) []

def readLines (input : IO.FS.Stream) : Nat → IO (List Text)
  | 0 => return []
  | fuel + 1 => do
    let line ← input.getLine
    if line.isEmpty then return []
    else return Text.trim line.toList :: (← readLines input fuel)

def readEnvironment : IO Command.Environment := do
  let values ← [Command.groupVariable, Command.packageVariable].mapM fun key => do
    return (← IO.getEnv (String.ofList key)).map fun value => (key, value.toList)
  return values.filterMap id

def readWidth : IO Nat := do
  let columns := (← IO.getEnv "COLUMNS").filter (·.all Char.isDigit)
  return (columns.bind String.toNat?).getD 80

def writeEntry (l : Location) (e : Entry) : IO Unit := do
  let p := String.ofList (Text.joinWith ['/'] l)
  match e with
  | .dir => IO.FS.createDirAll p
  | .file content executable =>
    IO.FS.writeBinFile p ⟨content.toArray⟩
    if executable then
      let all : IO.AccessRight := ⟨true, true, true⟩
      IO.setAccessRights p ⟨all, all, all⟩

def writeChanges (before after : FileTree) : IO Unit :=
  after.forM fun e => do
    if before.lookup e.1 != some e.2 then writeEntry e.1 e.2

def present (r : Report) : IO UInt32 := do
  IO.print (String.ofList r.output)
  IO.eprint (String.ofList r.errors)
  r.records.forM fun x => IO.eprintln (String.ofList (x.level.text ++ ' ' :: x.message))
  match r.failure, r.code with
  | some f, _ =>
    IO.eprintln (String.ofList f.message)
    return 1
  | none, code => return UInt32.ofNat (code.getD 0)

end CrateScaffold.Main

open CrateScaffold in
def main (args : List String) : IO UInt32 := do
  let paths := (← Main.readLines (← IO.getStdin) 1000000).filter (!·.isEmpty)
  let files ← Main.readTree paths
  let host := { Host.plain with columns := ← Main.readWidth }
  let (report, world) := program (args.map String.toList) (← Main.readEnvironment) host
    (.ofFiles files)
  Main.writeChanges files world.files
  Main.present report
