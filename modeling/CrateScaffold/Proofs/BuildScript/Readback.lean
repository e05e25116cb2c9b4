import CrateScaffold.Proofs.BuildScript.Block
import CrateScaffold.Proofs.BuildScript.Published

/-!
Reading the publication back from the packaged build script. The block is always found, and so is
the group; an artifact or a version is taken from elsewhere when a value before it ends in an
assignment.
-/

namespace CrateScaffold.BuildScript

open Template

variable {g p s v : Text} {d e : Nat}

def isPlain (x : Char) : Bool := x != '"' && x != '\\'

theorem all_isPlain (h : isIdentifier s = true) : s.all isPlain = true := by
  refine List.all_eq_true.2 fun x hx => ?_
  have hx' := not_isForbidden_of_mem h hx
  simp only [isForbidden, Bool.or_eq_false_iff, beq_eq_false_iff_ne] at hx'
  simp [isPlain, hx'.1.1.1.1, hx'.1.1.1.2]

theorem not_mem_of_all_isPlain (h : s.all isPlain = true) : '"' ∉ s :=
  fun hm => absurd (List.all_eq_true.1 h '"' hm) (by decide)

theorem walk?_joinWith {ps : List Text} (hs : walk? d false s = some (e, false))
    (hv : v.all isPlain = true) (hps : ps ≠ []) :
    walk? d false (Text.joinWith ['"'] (s :: v :: ps)) =
      walk? e false (Text.joinWith ['"'] ps) := by
  obtain ⟨w, ps, rfl⟩ := List.exists_cons_of_ne_nil hps
  have hv' : ∀ x ∈ v, x ≠ '"' ∧ x ≠ '\\' := by
    intro x hx
    simpa [isPlain] using List.all_eq_true.1 hv x hx
  rw [joinWith_cons_cons, joinWith_cons_cons, walk?_append hs, List.singleton_append, walk?,
    walk?_append (walk?_literal e hv'), List.singleton_append, walk?_literal_cons (by decide)]
  rfl

/-- The braces of the block are balanced, whatever the values are. -/
theorem walk?_pieces (hg : g.all isPlain = true) (hp : p.all isPlain = true) :
    walk? 0 false (Text.joinWith ['"'] (pieces g p)) = some (0, false) := by
  unfold pieces
  repeat rw [String.toList_ofList]
  rw [walk?_joinWith (e := 1) (by decide) (by decide) (by simp),
    walk?_joinWith (e := 2) (by decide) hg (by simp),
    walk?_joinWith (e := 2) (by decide) hp (by simp),
    walk?_joinWith (e := 2) (by decide) (by decide) (by simp),
    walk?_joinWith (e := 2) (by decide) (by decide) (by simp)]
  decide

theorem quote_not_mem_pieces (hg : g.all isPlain = true) (hp : p.all isPlain = true) :
    ∀ s ∈ pieces g p, '"' ∉ s := by
  unfold pieces
  simp only [List.forall_mem_cons]
  have hg' := not_mem_of_all_isPlain hg
  have hp' := not_mem_of_all_isPlain hp
  refine ⟨?_, ?_, ?_, hg', ?_, hp', ?_, ?_, ?_, ?_, ?_⟩ <;> decide

theorem publishing?_preamble :
    publishing? true preamble = none ∧ preamble.getLast? = some '\n' := by
  unfold preamble Packaged.buildScript
  repeat rw [Packaged.page_ofList_cons]
  repeat rw [String.toList_ofList]
  decide +kernel

theorem publishing?_published (g p : Text) : publishing? true (published g p) =
    some ('{' :: (Text.joinWith ['"'] (pieces g p) ++ ['}', '\n'])) := by
  have hnil : preamble = [] → true = true := fun _ => rfl
  have hgap : ([' '] : Text).all Text.isBlank = true := by decide
  have hblock := publishing?_append publishing?_preamble.1 hnil
    (fun _ => publishing?_preamble.2) hgap (Text.joinWith ['"'] (pieces g p) ++ ['}', '\n'])
  rw [published, hblock]

def artifactOf (g p : Text) : Text :=
  if endsInAssignment "artifactId" true g then "\n            artifactId = " else p

def versionOf (g p : Text) : Text :=
  if endsInAssignment "version" true g then "\n            artifactId = "
  else if endsInAssignment "version" true p then "\n            version = " else "1.1"

variable {name s w : Text} {ps : List Text}

theorem assignedPiece?_skip (h : endsInAssignment name true s = false) :
    assignedPiece? name (s :: v :: w :: ps) = assignedPiece? name (v :: w :: ps) := by
  rw [assignedPiece?, h, if_neg Bool.false_ne_true]

theorem assignedPiece?_take (h : endsInAssignment name true s = true) :
    assignedPiece? name (s :: v :: w :: ps) = some v := by
  rw [assignedPiece?, if_pos h]

theorem assignedPiece?_group : assignedPiece? "groupId" (pieces g p) = some g := by
  unfold pieces
  repeat rw [String.toList_ofList]
  rw [assignedPiece?_skip (by decide), assignedPiece?_skip (by decide),
    assignedPiece?_take (by decide)]

theorem assignedPiece?_artifact :
    assignedPiece? "artifactId" (pieces g p) = some (artifactOf g p) := by
  unfold pieces artifactOf
  repeat rw [String.toList_ofList]
  rw [assignedPiece?_skip (by decide), assignedPiece?_skip (by decide),
    assignedPiece?_skip (by decide), assignedPiece?]
  split
  · rfl
  · rw [assignedPiece?_take (by decide)]

theorem assignedPiece?_version :
    assignedPiece? "version" (pieces g p) = some (versionOf g p) := by
  unfold pieces versionOf
  repeat rw [String.toList_ofList]
  rw [assignedPiece?_skip (by decide), assignedPiece?_skip (by decide),
    assignedPiece?_skip (by decide), assignedPiece?]
  split
  · rfl
  · rw [assignedPiece?_skip (by decide), assignedPiece?]
    split
    · rfl
    · rw [assignedPiece?_take (by decide)]

theorem valueOf_eq (hn : name ≠ []) (hname : '"' ∉ name)
    (hps : ∀ s ∈ ps, '"' ∉ s) (h : assignedPiece? name ps = some v) :
    valueOf (Text.joinWith ['"'] ps) name = .ok v := by
  unfold valueOf
  rw [assigned?_joinWith hn hname hps, h]

theorem read_published_eq (hg : g.all isPlain = true) (hp : p.all isPlain = true) :
    Publication.read (published g p) = .ok ⟨g, artifactOf g p, versionOf g p⟩ := by
  have hps := quote_not_mem_pieces hg hp
  have hgroup := valueOf_eq (by decide) (by decide) hps assignedPiece?_group
  have hartifact := valueOf_eq (by decide) (by decide) hps assignedPiece?_artifact
  have hversion := valueOf_eq (by decide) (by decide) hps assignedPiece?_version
  rw [read_of_body? (publishing?_published g p) (body?_eq_some (walk?_pieces hg hp) ['\n'])]
  unfold Publication.ofBody
  rw [hgroup, hartifact, hversion]
  rfl

theorem artifactOf_eq_iff (hp : '\n' ∉ p) :
    artifactOf g p = p ↔ ¬ EndsInAssignment "artifactId" g := by
  rw [← endsInAssignment_true_iff (by decide), artifactOf]
  split
  · next h =>
    refine iff_of_false (fun he => hp ?_) (not_not_intro h)
    rw [← he]
    decide
  · next h => exact iff_of_true rfl h

theorem versionOf_eq_iff : versionOf g p = "1.1" ↔
    ¬ EndsInAssignment "version" g ∧ ¬ EndsInAssignment "version" p := by
  rw [← endsInAssignment_true_iff (by decide), ← endsInAssignment_true_iff (by decide), versionOf]
  split
  · next h => exact iff_of_false (by decide) fun hn => hn.1 h
  · next h =>
    split
    · next h' => exact iff_of_false (by decide) fun hn => hn.2 h'
    · next h' => exact iff_of_true rfl ⟨h, h'⟩

theorem not_mem_lf (h : isIdentifier s = true) : '\n' ∉ s :=
  fun hm => absurd (not_isForbidden_of_mem h hm) (by decide)

/-- The packaged build script always renders, and its publication is always read, with the right
group. Artifact and version are right exactly when no value ends in an assignment to a name that is
still to be read. -/
theorem read_renderBuildScript_iff (c : Coordinates) (site : Site) :
    ∃ script, (Library.packaged.renderBuildScript c site).2 = .ok script ∧
      (∃ p, Publication.read script = .ok p ∧ p.group = c.group) ∧
      (Publication.read script = .ok ⟨c.group, c.package, "1.1"⟩ ↔
        ¬ EndsInAssignment "artifactId" c.group ∧ ¬ EndsInAssignment "version" c.group ∧
          ¬ EndsInAssignment "version" c.package) := by
  have hread :=
    read_published_eq (all_isPlain c.group_identifier) (all_isPlain c.package_identifier)
  refine ⟨published c.group c.package, renderBuildScript_packaged c site, ⟨_, hread, rfl⟩, ?_⟩
  rw [hread, ← artifactOf_eq_iff (not_mem_lf c.package_identifier), ← versionOf_eq_iff,
    Except.ok.injEq, Publication.mk.injEq]
  exact and_iff_right rfl

def misleading : Coordinates := ⟨"artifactId=", "p", by decide +kernel, isIdentifier_p⟩

theorem read_renderBuildScript_misleading :
    ¬ ∃ script,
      (Library.packaged.renderBuildScript misleading ⟨[], "linux", .refusing⟩).2 = .ok script ∧
      Publication.read script = .ok ⟨misleading.group, misleading.package, "1.1"⟩ := by
  rintro ⟨script, hs, hr⟩
  have he := Except.ok.inj
    ((renderBuildScript_packaged misleading ⟨[], "linux", .refusing⟩).symm.trans hs)
  rw [← he, read_published_eq (by decide) (by decide)] at hr
  have hartifact : artifactOf misleading.group misleading.package = misleading.package :=
    congrArg Publication.artifact (Except.ok.inj hr)
  have hend : EndsInAssignment "artifactId" misleading.group :=
    (endsInAssignment_true_iff (by decide)).1 (by decide)
  exact (artifactOf_eq_iff (by decide)).1 hartifact hend

end CrateScaffold.BuildScript
