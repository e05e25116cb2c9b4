import CrateScaffold.Failure
import CrateScaffold.Proofs.FileTree.Apart
import CrateScaffold.Proofs.World.Effect

/-!
Which manifests are met with a result or a refusal. Where members are looked up, tables have to
stand, the name of a crate has to be a text if the name of its library is derived from it, and no
table may have a key twice. What comes of any other manifest that can be decoded and parsed is a
fault that is neither a refusal nor the system's.
-/

namespace CrateScaffold

theorem Toml.parse_eq_ok {s : Text} {document : Value} (h : Toml.parse s = .ok document) :
    ∃ es, document = .table es := by
  obtain ⟨⟨t, rest⟩, -, ht⟩ := bind_eq_ok.1 h
  cases ht
  exact ⟨_, rfl⟩

namespace Manifest

variable {v document : Value} {k : Text} {ks : List Text} {p : Path} {t : FileTree}
variable {α : Type} {x : Except Fault α} {content : Bytes} {executable : Bool}

def IsTable (v : Value) : Prop := ∃ es, v = .table es

def member? (v : Value) (key : Text) : Option Value :=
  match v with
  | .table es => Value.find? (.text key) es
  | _ => none

def TablesAlong (v : Value) : List Text → Prop
  | [] => True
  | k :: ks => ∀ w, member? v k = some w → IsTable w ∧ TablesAlong w ks

/-- The shape in which defaults can be given. -/
def DefaultsShape (document : Value) : Prop :=
  TablesAlong document ["package", "metadata", metadataKey]

def packageName? (document : Value) : Option Value :=
  (given (member? document "package")).bind fun package => given (member? package "name")

def libraryName? (document : Value) : Option Value :=
  (member? document "lib").bind fun lib => given (member? lib "name")

/-- The shape in which a crate can be described, or its absence. -/
structure CrateShape (document : Value) : Prop where
  package : ∀ v, given (member? document "package") = some v → IsTable v
  lib : ∀ name, packageName? document = some name → TablesAlong document ["lib"]
  name : ∀ name, packageName? document = some name → libraryName? document = none →
    ∃ s, name = .text s

def IsSettled (x : Except Fault α) : Prop :=
  ∀ f, x = .error f → (Failure.manifest f).isRefusal = true

/-- A failure that is neither a refusal nor the system's. -/
def IsStray (x : Except Fault α) : Prop :=
  ∃ f, x = .error f ∧ (Failure.manifest f).isRefusal = false ∧
    (Failure.manifest f).isSystem = false

structure SettledIff (P : Prop) (x : Except Fault α) : Prop where
  settled : P → IsSettled x
  stray : ¬ P → IsStray x

theorem isSettled_ok (a : α) : IsSettled (.ok a) := by
  rintro _ ⟨⟩

theorem settledIff_of_true {P : Prop} (hP : P) (hx : IsSettled x) : SettledIff P x :=
  ⟨fun _ => hx, fun h => absurd hP h⟩

theorem settledIff_of_false {P : Prop} (hP : ¬ P) (hx : IsStray x) : SettledIff P x :=
  ⟨fun h => absurd h hP, fun _ => hx⟩

theorem get?_of_isTable (h : IsTable v) (k : Text) : get? v k = .ok (member? v k) := by
  obtain ⟨es, rfl⟩ := h
  rfl

theorem get?_of_not_isTable (h : ¬ IsTable v) (k : Text) :
    get? v k = .error (.noMember v.kind "get") := by
  cases v with
  | table es => exact absurd ⟨es, rfl⟩ h
  | _ => rfl

theorem isStray_get? {β : Type} (h : ¬ IsTable v) (k : Text) (g : Option Value → Except Fault β) :
    IsStray (get? v k >>= g) := by
  rw [get?_of_not_isTable h]
  exact ⟨_, rfl, rfl, rfl⟩

/-- A table can be asked for what is under a key, and then has tables along the keys from there. -/
theorem exists_table (h : IsTable v) (k : Text) : ∃ w, table v k = .ok w ∧
    ∀ ks, TablesAlong v (k :: ks) ↔ IsTable w ∧ TablesAlong w ks := by
  refine ⟨(member? v k).getD (.table []), by rw [table, get?_of_isTable h]; rfl, fun ks => ?_⟩
  rw [TablesAlong]
  cases hw : member? v k with
  | none =>
    have hempty : TablesAlong (.table []) ks := by
      cases ks with
      | nil => trivial
      | cons k ks => rintro w ⟨⟩
    constructor
    · intro _
      exact ⟨⟨[], rfl⟩, hempty⟩
    · rintro - w ⟨⟩
  | some w =>
    constructor
    · intro h
      exact h w rfl
    · rintro h _ ⟨⟩
      exact h

theorem isStray_table {β : Type} (h : ¬ IsTable v) (k : Text) (g : Value → Except Fault β) :
    IsStray (table v k >>= g) := by
  rw [table, get?_of_not_isTable h]
  exact ⟨_, rfl, rfl, rfl⟩

theorem settledIff_defaultsOf (hd : IsTable document) :
    SettledIff (DefaultsShape document) (defaultsOf document) := by
  obtain ⟨package, hpackage, halong⟩ := exists_table hd "package"
  rw [DefaultsShape, halong, defaultsOf, hpackage, ok_bind]
  by_cases hp : IsTable package
  · obtain ⟨metadata, hmetadata, halong⟩ := exists_table hp "metadata"
    rw [halong, hmetadata, ok_bind]
    by_cases hm : IsTable metadata
    · obtain ⟨entries, hentries, halong⟩ := exists_table hm metadataKey
      rw [halong, hentries, ok_bind]
      by_cases he : IsTable entries
      · obtain ⟨es, rfl⟩ := he
        exact settledIff_of_true ⟨hp, hm, ⟨es, rfl⟩, trivial⟩ (isSettled_ok _)
      · refine settledIff_of_false (fun h => he h.2.2.1) ?_
        cases entries with
        | table es => exact absurd ⟨es, rfl⟩ he
        | _ => exact ⟨_, rfl, rfl, rfl⟩
    · exact settledIff_of_false (fun h => hm h.2.1) (isStray_table hm _ _)
  · exact settledIff_of_false (fun h => hp h.1) (isStray_table hp _ _)

theorem settledIff_derivedName (name : Value) (g : Value → Except Fault α)
    (hg : ∀ s, IsSettled (g s)) : SettledIff (∃ s, name = .text s) (derivedName name >>= g) := by
  cases name with
  | text s => exact settledIff_of_true ⟨s, rfl⟩ (hg _)
  | _ => exact settledIff_of_false nofun ⟨_, rfl, rfl, rfl⟩

theorem libraryName?_of_table {lib : Value} (hd : IsTable document)
    (hlib : table document "lib" = .ok lib) :
    libraryName? document = given (member? lib "name") := by
  rw [table, get?_of_isTable hd] at hlib
  cases hlib
  rw [libraryName?]
  cases member? document "lib" <;> rfl

/-- The crate of a package that has a name. -/
theorem settledIff_named (hd : IsTable document) (name : Value) :
    SettledIff
      (TablesAlong document ["lib"] ∧ (libraryName? document = none → ∃ s, name = .text s))
      (table document "lib" >>= fun lib => get? lib "name" >>= fun libName =>
        match given libName with
        | some libName => return (⟨name, libName, p⟩ : Crate)
        | none => derivedName name >>= fun libName => return ⟨name, libName, p⟩) := by
  obtain ⟨lib, hlib, halong⟩ := exists_table hd "lib"
  rw [halong, libraryName?_of_table hd hlib, hlib, ok_bind]
  by_cases hl : IsTable lib
  · rw [get?_of_isTable hl, ok_bind]
    cases given (member? lib "name") with
    | some libName => exact settledIff_of_true ⟨⟨hl, trivial⟩, nofun⟩ (isSettled_ok _)
    | none =>
      have hderived := settledIff_derivedName name
        (fun libName => return (⟨name, libName, p⟩ : Crate)) fun _ => isSettled_ok _
      exact ⟨fun h => hderived.settled (h.2 rfl),
        fun h => hderived.stray fun hs => h ⟨⟨hl, trivial⟩, fun _ => hs⟩⟩
  · exact settledIff_of_false (fun h => hl h.1.1) (isStray_get? hl _ _)

section Named

variable (hpackage : ∀ v, given (member? document "package") = some v → IsTable v)

include hpackage

theorem crateShape_of_unnamed (hname : packageName? document = none) : CrateShape document := by
  refine ⟨hpackage, ?_, ?_⟩
  · rw [hname]
    rintro _ ⟨⟩
  · rw [hname]
    rintro _ ⟨⟩

theorem crateShape_iff_of_named {name : Value} (hname : packageName? document = some name) :
    CrateShape document ↔
      TablesAlong document ["lib"] ∧ (libraryName? document = none → ∃ s, name = .text s) := by
  constructor
  · intro h
    exact ⟨h.lib name hname, h.name name hname⟩
  · rintro ⟨hlib, htext⟩
    refine ⟨hpackage, ?_, ?_⟩
    · rw [hname]
      rintro _ ⟨⟩
      exact hlib
    · rw [hname]
      rintro _ ⟨⟩
      exact htext

end Named

theorem settledIff_crateOf (hd : IsTable document) :
    SettledIff (CrateShape document) (crateOf p document) := by
  have hsettled : IsSettled (.error (.noPackage p) : Except Fault Crate) := by
    rintro _ ⟨⟩
    rfl
  rw [crateOf, get?_of_isTable hd, ok_bind]
  cases hpackage : given (member? document "package") with
  | none =>
    have hname : packageName? document = none := by rw [packageName?, hpackage, Option.bind_none]
    exact settledIff_of_true (crateShape_of_unnamed (by rw [hpackage]; rintro _ ⟨⟩) hname) hsettled
  | some package =>
    by_cases hp : IsTable package
    · have hname : packageName? document = given (member? package "name") := by
        rw [packageName?, hpackage, Option.bind_some]
      have hshape : ∀ v, given (member? document "package") = some v → IsTable v := by
        rw [hpackage]
        rintro _ ⟨⟩
        exact hp
      simp only [get?_of_isTable hp, ok_bind]
      cases hgiven : given (member? package "name") with
      | none =>
        exact settledIff_of_true (crateShape_of_unnamed hshape (hname.trans hgiven)) hsettled
      | some name =>
        rw [crateShape_iff_of_named hshape (hname.trans hgiven)]
        exact settledIff_named hd name
    · exact settledIff_of_false (fun h => hp (h.package _ hpackage)) (isStray_get? hp _ _)

/-- A content that cannot be decoded or parsed, or one whose tables have no key twice and whose
document has this shape. -/
def Fits (shape : Value → Prop) (content : Bytes) : Prop :=
  ∀ text, Utf8.decode content = .ok text →
    (∀ key, Toml.parse (Text.foldBreaks text) ≠ .error (.duplicate key)) ∧
    ∀ document, Toml.parse (Text.foldBreaks text) = .ok document → shape document

theorem holds_of_stat {e : Entry} (h : t.stat p = .ok e) : holds t p = .ok true := by
  rw [holds, FileTree.holds, FileTree.look_of_stat h]
  rfl

theorem readText_of_stat (h : t.stat p = .ok (.file content executable)) : t.readText p =
    ((Utf8.decode content).mapError .decoding).map Text.foldBreaks := by
  have hread : t.read p = .ok content := by
    rw [FileTree.read, h]
    rfl
  rw [FileTree.readText, FileTree.readExact, hread]
  rfl

/-- What is done with the document of a manifest decides about its content. -/
theorem settledIff_load {shape : Value → Prop} {g : Value → Except Fault α}
    (h : t.stat p = .ok (.file content executable))
    (hg : ∀ document, IsTable document → SettledIff (shape document) (g document)) :
    SettledIff (Fits shape content) (load t p >>= g) := by
  rw [load, holds_of_stat h, readText_of_stat h, Fits]
  cases hdecoded : Utf8.decode content with
  | error f =>
    refine settledIff_of_true (by rintro _ ⟨⟩) ?_
    rintro _ ⟨⟩
    rfl
  | ok text =>
    simp only [Except.ok.injEq, forall_eq', ok_bind, Except.mapError, Except.map]
    cases hparsed : Toml.parse (Text.foldBreaks text) with
    | ok document =>
      have hdocument := hg document (Toml.parse_eq_ok hparsed)
      refine ⟨fun hfits => hdocument.settled (hfits.2 document rfl), fun hfits => ?_⟩
      refine hdocument.stray fun hshape => hfits ⟨by rintro _ ⟨⟩, ?_⟩
      rintro _ ⟨⟩
      exact hshape
    | error f =>
      cases f with
      | unread =>
        refine settledIff_of_true ⟨by rintro _ ⟨⟩, by rintro _ ⟨⟩⟩ ?_
        rintro _ ⟨⟩
        rfl
      | duplicate key =>
        exact settledIff_of_false (fun hfits => hfits.1 key rfl) ⟨_, rfl, rfl, rfl⟩

theorem settledIff_read (h : t.stat p = .ok (.file content executable)) :
    SettledIff (Fits CrateShape content) (read t p) :=
  settledIff_load h fun _ => settledIff_crateOf

theorem settledIff_defaults (h : t.stat p = .ok (.file content executable)) :
    SettledIff (Fits DefaultsShape content) (defaults t p) := by
  rw [defaults, holds_of_stat h]
  exact settledIff_load h fun _ => settledIff_defaultsOf

end Manifest

end CrateScaffold
