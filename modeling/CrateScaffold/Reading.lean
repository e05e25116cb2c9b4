import CrateScaffold.Failure
import CrateScaffold.Log
import CrateScaffold.Template.Engine

/-!
Readings: work that depends on a tree, a platform and a template engine, logs, and may fail. By its
type it changes nothing, and what it logs does not depend on what was logged before.
-/

namespace CrateScaffold

structure Site where
  files : FileTree
  platform : Text
  engine : Template.Engine

def Reading (α : Type) : Type := Site → List Record × Except Failure α

namespace Reading

variable {α β : Type}

def bind (m : Reading α) (f : α → Reading β) : Reading β := fun s =>
  match m s with
  | (records, .error e) => (records, .error e)
  | (records, .ok a) => (records ++ (f a s).1, (f a s).2)

instance : Monad Reading where
  pure a := fun _ => ([], .ok a)
  bind := bind

theorem pure_apply (a : α) (s : Site) : (pure a : Reading α) s = ([], .ok a) := rfl

theorem bind_apply (m : Reading α) (f : α → Reading β) (s : Site) :
    (m >>= f) s = bind m f s := rfl

def log (level : Level) (message : Text) : Reading Unit := fun _ => ([⟨level, message⟩], .ok ())

def fail (f : Failure) : Reading α := fun _ => ([], .error f)

def ofExcept (x : Except Failure α) : Reading α := fun _ => ([], x)

def ofSite (f : Site → Except Failure α) : Reading α := fun s => ([], f s)

def ofTree (f : FileTree → Except Failure α) : Reading α := fun s => ([], f s.files)

def platform : Reading Text := fun s => ([], .ok s.platform)

end Reading

end CrateScaffold
