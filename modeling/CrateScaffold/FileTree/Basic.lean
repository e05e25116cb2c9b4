import CrateScaffold.FileTree.Path
import CrateScaffold.Text.Utf8

/-!
A tree of files below one directory, as a table from locations to entries. The directory itself is
the location without components and always there. There are no links: an entry has one location, and
what is written at a location is at no other.
-/

namespace CrateScaffold

abbrev Location := List Text

inductive Entry where
  | dir
  | file (content : Bytes) (executable : Bool)
  deriving DecidableEq, Repr

abbrev FileTree := List (Location × Entry)

namespace FileTree

def at? (t : FileTree) (l : Location) : Option Entry :=
  if l = [] then some .dir else t.lookup l

def put : FileTree → Location → Entry → FileTree
  | [], l, e => [(l, e)]
  | (k, x) :: t, l, e => if k = l then (k, e) :: t else (k, x) :: put t l e

theorem lookup_put_self (t : FileTree) (l : Location) (e : Entry) :
    (t.put l e).lookup l = some e := by
  induction t with
  | nil => simp [put]
  | cons p t ih =>
    obtain ⟨k, x⟩ := p
    by_cases h : k = l
    · simp [put, h]
    · simp [put, h, List.lookup_cons, beq_false_of_ne (Ne.symm h), ih]

theorem lookup_put_of_ne (t : FileTree) {l m : Location} (e : Entry) (h : m ≠ l) :
    (t.put l e).lookup m = t.lookup m := by
  induction t with
  | nil => simp [put, List.lookup_cons, beq_false_of_ne h]
  | cons p t ih =>
    obtain ⟨k, x⟩ := p
    by_cases hk : k = l
    · subst hk
      simp [put, List.lookup_cons, beq_false_of_ne h]
    · by_cases hm : m = k
      · simp [put, hk, hm]
      · simp [put, hk, List.lookup_cons, beq_false_of_ne hm, ih]

theorem at?_put_self (t : FileTree) {l : Location} (e : Entry) (h : l ≠ []) :
    (t.put l e).at? l = some e := by
  simp [at?, h, lookup_put_self]

theorem at?_put_of_ne (t : FileTree) {l m : Location} (e : Entry) (h : m ≠ l) :
    (t.put l e).at? m = t.at? m := by
  simp [at?, lookup_put_of_ne t e h]

theorem put_put (t : FileTree) (l : Location) (e f : Entry) : (t.put l e).put l f = t.put l f := by
  induction t with
  | nil => simp [put]
  | cons p t ih =>
    obtain ⟨k, x⟩ := p
    by_cases h : k = l
    · simp [put, h]
    · simp [put, h, ih]

/-- What is there need not be put there. -/
theorem put_eq_self {t : FileTree} {l : Location} {e : Entry} (h : t.lookup l = some e) :
    t.put l e = t := by
  induction t with
  | nil => cases h
  | cons p t ih =>
    obtain ⟨k, x⟩ := p
    by_cases hk : k = l
    · subst hk
      simp_all [put]
    · simp_all [put, List.lookup_cons, beq_false_of_ne (Ne.symm hk)]

def remove (t : FileTree) (l : Location) : FileTree := t.filter fun p => !l.isPrefixOf p.1

end FileTree

end CrateScaffold
