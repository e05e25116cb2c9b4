import CrateScaffold.Proofs.Command.Execution
import CrateScaffold.Proofs.Manifest.Shape

/-!
Bad manifests and the names that are taken from them. A manifest that has to be read is met with a
result or a report just when no table in it has a key twice and tables stand where members are
looked up; all others leave the program.
-/

namespace CrateScaffold

namespace Manifest

/-- A result, a value that was refused, or what the system refuses. -/
def IsReported {α : Type} (x : Except Fault α) : Prop :=
  ∀ f, x = .error f →
    (Failure.manifest f).isRefusal = true ∨ (Failure.manifest f).isSystem = true

instance {α : Type} (x : Except Fault α) : Decidable (IsReported x) :=
  match x with
  | .ok _ => .isTrue (by rintro _ ⟨⟩)
  | .error f =>
    decidable_of_iff ((Failure.manifest f).isRefusal = true ∨ (Failure.manifest f).isSystem = true)
      ⟨by rintro h _ ⟨⟩; exact h, fun h => h f rfl⟩

theorem SettledIff.isReported_iff {α : Type} {P : Prop} {x : Except Fault α}
    (h : SettledIff P x) : IsReported x ↔ P := by
  constructor
  · intro hx
    by_contra hP
    obtain ⟨f, hf, hrefusal, hsystem⟩ := h.stray hP
    rcases hx f hf with hyes | hyes
    · exact absurd hyes (by simp [hrefusal])
    · exact absurd hyes (by simp [hsystem])
  · intro hP f hf
    exact .inl (h.settled hP f hf)

end Manifest

namespace Command

open Manifest (Fits CrateShape DefaultsShape)

variable {c : Command} {s : Selection} {t : FileTree} {x : Except Stop (Text × Text)}
variable {content : Bytes} {executable : Bool} {g p : Text} {ds : List (Text × Text)}

inductive IsAnswered : Except Stop (Text × Text) → Prop
  | names {g p : Text} (hg : g ≠ []) (hp : p ≠ []) : IsAnswered (.ok (g, p))
  | usage (c : Option Command) (f : UsageFault) : IsAnswered (.error (.usage c f))
  | reported (f : Failure) : IsAnswered (.error (.reported f))

instance : DecidablePred IsAnswered
  | .ok (g, p) =>
    decidable_of_iff (g ≠ [] ∧ p ≠ []) ⟨fun h => .names h.1 h.2, by rintro ⟨hg, hp⟩; exact ⟨hg, hp⟩⟩
  | .error (.usage c f) => .isTrue (.usage c f)
  | .error (.reported f) => .isTrue (.reported f)
  | .error (.exit _) => .isFalse nofun
  | .error .version => .isFalse nofun
  | .error (.word _) => .isFalse nofun
  | .error (.escaped _) => .isFalse nofun

/-- Both names are given. -/
def Selection.IsFilled (s : Selection) : Prop :=
  (filled s.group).isSome = true ∧ (filled s.package).isSome = true

theorem ne_nil_of_filled {o : Option Text} (h : filled o = some g) : g ≠ [] := by
  rw [filled, Option.filter_eq_some_iff] at h
  rintro rfl
  exact absurd h.2 (by decide)

theorem ne_nil_of_or_filled {o d : Option Text} (h : (filled o).or (filled d) = some g) :
    g ≠ [] := by
  rcases Option.or_eq_some_iff.1 h with hg | ⟨-, hg⟩
  · exact ne_nil_of_filled hg
  · exact ne_nil_of_filled hg

theorem isAnswered_of_isFilled (h : s.IsFilled) : IsAnswered (s.resolve c t) := by
  obtain ⟨g, hg⟩ := Option.isSome_iff_exists.1 h.1
  obtain ⟨p, hp⟩ := Option.isSome_iff_exists.1 h.2
  rw [Selection.resolve, hg, hp]
  exact .names (ne_nil_of_filled hg) (ne_nil_of_filled hp)

theorem resolve_of_not_isFilled (h : ¬ s.IsFilled) : s.resolve c t =
    match Manifest.defaults t s.manifest with
    | .error f => .error (.ofFailure Failure.isRefusal (.manifest f))
    | .ok ds =>
      match (filled s.group).or (filled (ds.lookup "group".toList)),
          (filled s.package).or (filled (ds.lookup "package".toList)) with
      | none, _ => .error (.usage (some c) (.noGroup s.manifest))
      | _, none => .error (.usage (some c) (.noPackage s.manifest))
      | some g, some p => .ok (g, p) := by
  rw [Selection.resolve]
  split
  · next g p hg hp => exact absurd ⟨by rw [hg]; rfl, by rw [hp]; rfl⟩ h
  · rfl

theorem isAnswered_of_defaults (h : ¬ s.IsFilled) (hds : Manifest.defaults t s.manifest = .ok ds) :
    IsAnswered (s.resolve c t) := by
  rw [resolve_of_not_isFilled h, hds]
  simp only
  split
  · exact .usage _ _
  · exact .usage _ _
  · next hg hp => exact .names (ne_nil_of_or_filled hg) (ne_nil_of_or_filled hp)

theorem isAnswered_ofFailure_iff {handled : Failure → Bool} {f : Failure} :
    IsAnswered (.error (.ofFailure handled f)) ↔ handled f = true := by
  unfold Stop.ofFailure
  split
  · next h => exact ⟨fun _ => h, fun _ => .reported f⟩
  · next h => exact ⟨by rintro ⟨⟩, fun hf => absurd hf h⟩

theorem isAnswered_iff_of_fault {f : Manifest.Fault} (h : ¬ s.IsFilled)
    (hf : Manifest.defaults t s.manifest = .error f) :
    IsAnswered (s.resolve c t) ↔ (Failure.manifest f).isRefusal = true := by
  rw [resolve_of_not_isFilled h, hf]
  exact isAnswered_ofFailure_iff

/-- A selection is answered just when the manifest is not needed or its defaults can be taken. -/
theorem isAnswered_resolve_iff (h : t.stat s.manifest = .ok (.file content executable)) :
    IsAnswered (s.resolve c t) ↔ s.IsFilled ∨ Fits DefaultsShape content := by
  have hdefaults := Manifest.settledIff_defaults h
  by_cases hs : s.IsFilled
  · exact ⟨fun _ => .inl hs, fun _ => isAnswered_of_isFilled hs⟩
  rw [or_iff_right hs]
  constructor
  · intro hx
    by_contra hfits
    obtain ⟨f, hf, hrefusal, -⟩ := hdefaults.stray hfits
    rw [isAnswered_iff_of_fault hs hf, hrefusal] at hx
    cases hx
  · intro hfits
    cases hds : Manifest.defaults t s.manifest with
    | ok ds => exact isAnswered_of_defaults hs hds
    | error f =>
      rw [isAnswered_iff_of_fault hs hds]
      exact hdefaults.settled hfits f hds

/-- A manifest is reported, as a crate, for its defaults and where names are missing, just when no
table in it has a key twice and its document has the shape that is looked for. -/
theorem manifest_reported_iff (t : FileTree) (m : Path) (content : Bytes) (executable : Bool)
    (h : t.stat m = .ok (.file content executable)) :
    (Manifest.IsReported (Manifest.read t m) ↔ Fits CrateShape content) ∧
      (Manifest.IsReported (Manifest.defaults t m) ↔ Fits DefaultsShape content) ∧
      ∀ (c : Command) (group package : Option Text),
        IsAnswered ((Selection.mk group package m).resolve c t) ↔
          (Selection.mk group package m).IsFilled ∨ Fits DefaultsShape content :=
  ⟨(Manifest.settledIff_read h).isReported_iff, (Manifest.settledIff_defaults h).isReported_iff,
    fun _ _ _ => isAnswered_resolve_iff h⟩

def manifestOf (content : Bytes) : FileTree := [(["Cargo.toml"], .file content false)]

def lackingGroup : Selection := ⟨none, some "lib".toList, "Cargo.toml"⟩

theorem manifest_reported_iff_undecodable :
    (manifestOf [255]).stat "Cargo.toml" = .ok (.file [255] false) ∧
      Manifest.IsReported (Manifest.read (manifestOf [255]) "Cargo.toml") ∧
      Manifest.IsReported (Manifest.defaults (manifestOf [255]) "Cargo.toml") ∧
      IsAnswered (lackingGroup.resolve .render (manifestOf [255])) := by
  have hfits : ∀ shape, Fits shape [255] := by
    intro shape text htext
    have hno : (Utf8.decode [255]).toOption = none := by decide +kernel
    rw [htext] at hno
    cases hno
  have hstat : (manifestOf [255]).stat "Cargo.toml" = .ok (.file [255] false) := by decide +kernel
  obtain ⟨hread, hdefaults, hresolve⟩ :=
    manifest_reported_iff (manifestOf [255]) "Cargo.toml" [255] false hstat
  have hanswered := (hresolve .render none (some "lib".toList)).2 (.inr (hfits _))
  exact ⟨hstat, hread.2 (hfits _), hdefaults.2 (hfits _), hanswered⟩

/-- A manifest that is there and leaves the program, as a crate, for its defaults and where a name
is missing. -/
structure Escapes (content : Bytes) : Prop where
  stat : (manifestOf content).stat "Cargo.toml" = .ok (.file content false)
  read : ¬ Manifest.IsReported (Manifest.read (manifestOf content) "Cargo.toml")
  defaults : ¬ Manifest.IsReported (Manifest.defaults (manifestOf content) "Cargo.toml")
  resolve : ¬ IsAnswered (lackingGroup.resolve .render (manifestOf content))

/-- A package that is a number and a key that is there twice leave the program. -/
theorem manifest_escapes :
    Escapes (Utf8.encode "package = 1\n") ∧
      Escapes (Utf8.encode "[package]\nname = 1\nname = 2\n") := by
  constructor
  · exact ⟨by decide +kernel, by decide +kernel, by decide +kernel, by decide +kernel⟩
  · exact ⟨by decide +kernel, by decide +kernel, by decide +kernel, by decide +kernel⟩

end Command

end CrateScaffold
