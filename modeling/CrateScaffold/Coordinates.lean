import CrateScaffold.Text.Blank
import CrateScaffold.Text.Quoted

/-!
The coordinates of a published library: a group and a package name that may stand inside a string
literal of a build script unchanged. `Coordinates` holds only such names, and `Coordinates.of?`
accepts all of them.
-/

namespace CrateScaffold

def isForbidden (c : Char) : Bool :=
  c == '"' || c == '\\' || c == '$' || c.toNat < 32 || c.toNat == 127

def isIdentifier (s : Text) : Bool := !Text.isAllBlank s && !s.any isForbidden

theorem identifier_ne_nil {s : Text} (h : isIdentifier s = true) : s ≠ [] := by
  rintro rfl
  cases h

theorem isIdentifier_p : isIdentifier "p" = true := by decide

inductive IdentifierFault where
  | empty
  | forbidden (c : Char) (value : Text)
  deriving DecidableEq, Repr

def identifierFault? (value : Text) : Option IdentifierFault :=
  if Text.isAllBlank value then some .empty
  else (value.find? isForbidden).map (.forbidden · value)

theorem identifierFault?_eq_none_iff {s : Text} :
    identifierFault? s = none ↔ isIdentifier s = true := by
  by_cases h : Text.isAllBlank s = true
  · simp [identifierFault?, isIdentifier, h]
  · simp [identifierFault?, isIdentifier, h]

structure CoordinateFault where
  field : Text
  fault : IdentifierFault
  deriving DecidableEq, Repr

def CoordinateFault.message (f : CoordinateFault) : Text :=
  match f.fault with
  | .empty => f.field ++ " must not be empty"
  | .forbidden c value =>
    f.field ++ " contains forbidden character " ++ Text.quote [c] ++ ": " ++ Text.quote value

def checkIdentifier (field : Text) (value : Option Text) : Except CoordinateFault Text :=
  match value with
  | none => .error ⟨field, .empty⟩
  | some s =>
    match identifierFault? s with
    | some fault => .error ⟨field, fault⟩
    | none => .ok s

structure Coordinates where
  group : Text
  package : Text
  group_identifier : isIdentifier group = true
  package_identifier : isIdentifier package = true
  deriving DecidableEq, Repr

namespace Coordinates

def of? (group package : Option Text) : Except CoordinateFault Coordinates :=
  match group, package with
  | none, _ => .error ⟨"group_id", .empty⟩
  | some g, package =>
    match hg : identifierFault? g with
    | some fault => .error ⟨"group_id", fault⟩
    | none =>
      match package with
      | none => .error ⟨"package_name", .empty⟩
      | some p =>
        match hp : identifierFault? p with
        | some fault => .error ⟨"package_name", fault⟩
        | none =>
          .ok ⟨g, p, identifierFault?_eq_none_iff.1 hg, identifierFault?_eq_none_iff.1 hp⟩

theorem of?_eq_ok {group package : Option Text} {c : Coordinates} :
    of? group package = .ok c ↔ group = some c.group ∧ package = some c.package := by
  unfold of?
  constructor
  · intro h
    split at h
    · cases h
    · split at h
      · cases h
      · split at h
        · cases h
        · split at h
          · cases h
          · cases h
            exact ⟨rfl, rfl⟩
  · rintro ⟨rfl, rfl⟩
    have hg := identifierFault?_eq_none_iff.2 c.group_identifier
    have hp := identifierFault?_eq_none_iff.2 c.package_identifier
    simp only
    split
    · next hfault => exact absurd (hg.symm.trans hfault) (by simp)
    · split
      · next hfault => exact absurd (hp.symm.trans hfault) (by simp)
      · rfl

def root (c : Coordinates) : Text := c.group ++ '.' :: c.package

def groupPath (c : Coordinates) : Text := Text.mapChar '.' '/' c.group

def context (c : Coordinates) : List (Text × Text) :=
  [("group_id", c.group), ("package_name", c.package), ("project_root", c.root)]

end Coordinates

end CrateScaffold
