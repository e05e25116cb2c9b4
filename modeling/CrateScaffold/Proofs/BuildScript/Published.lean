import CrateScaffold.Proofs.BuildScript.Assignment
import CrateScaffold.Proofs.BuildScript.Heading
import CrateScaffold.Proofs.Template.SkeletonRun
import Mathlib.Data.List.Forall2

/-!
The packaged build script with the values of coordinates in it. Quotes divide the body of its
publishing block into pieces, and each value is a piece of its own.
-/

namespace CrateScaffold.BuildScript

open Template

theorem not_isForbidden_of_mem {s : Text} (h : isIdentifier s = true) {x : Char} (hx : x ∈ s) :
    isForbidden x = false := by
  rw [isIdentifier, Bool.and_eq_true, Bool.not_eq_true', Bool.not_eq_true'] at h
  exact Bool.eq_false_iff.2 (List.any_eq_false.1 h.2 x hx)

def preamble : Text := ((Text.cut? "publishing " Packaged.buildScript).map (·.1)).getD []

def pieces (group package : Text) : List Text := [
  "\n    publications \x7b\n        create<MavenPublication>(", "maven",
  ") \x7b\n            groupId = ", group, "\n            artifactId = ", package,
  "\n            version = ", "1.1",
  "\n\n            from(components[", "java", "])\n        \x7d\n    \x7d\n"]

def published (group package : Text) : Text :=
  preamble ++ heading [' '] (Text.joinWith ['"'] (pieces group package) ++ ['}', '\n'])

theorem buildScript_eq_published :
    Packaged.buildScript = published (placeholder [] .group []) (placeholder [] .package []) := by
  unfold published preamble pieces heading Packaged.buildScript
  repeat rw [Packaged.page_ofList_cons]
  repeat rw [String.toList_ofList]
  decide +kernel

theorem isStatic_preamble : isStatic preamble = true := by
  unfold preamble Packaged.buildScript
  repeat rw [Packaged.page_ofList_cons]
  repeat rw [String.toList_ofList]
  decide +kernel

theorem fills_joinWith {c : Coordinates} {ps qs : List Text} {t s : Text}
    (h : List.Forall₂ (fun p q => ∀ {t s}, Fills c t s → Fills c (p ++ t) (q ++ s)) ps qs)
    (hts : Fills c t s) :
    Fills c (Text.joinWith ['"'] ps ++ t) (Text.joinWith ['"'] qs ++ s) := by
  induction h with
  | nil => exact hts
  | @cons p q ps qs hpq hrest ih =>
    cases hrest with
    | nil => simpa [Text.joinWith] using hpq hts
    | cons =>
      simp only [joinWith_cons_cons, List.append_assoc]
      exact hpq (.static (opensTag_eq_false_of_head (x := '"') (by decide) _) ih)

theorem fills_pieces {c : Coordinates} {t s : Text} (h : Fills c t s) :
    Fills c
      (Text.joinWith ['"'] (pieces (placeholder [] .group []) (placeholder [] .package [])) ++ t)
      (Text.joinWith ['"'] (pieces c.group c.package) ++ s) := by
  have hs {u : Text} (hu : isStatic u = true) {t s : Text} (h : Fills c t s) :
      Fills c (u ++ t) (u ++ s) := h.static_append hu
  refine fills_joinWith ?_ h
  refine .cons (hs (by decide)) (.cons (hs (by decide)) ?_)
  refine .cons (hs (by decide)) (.cons (.value .group rfl rfl) ?_)
  refine .cons (hs (by decide)) (.cons (.value .package rfl rfl) ?_)
  refine .cons (hs (by decide)) (.cons (hs (by decide)) ?_)
  refine .cons (hs (by decide)) (.cons (hs (by decide)) ?_)
  exact .cons (hs (by decide)) .nil

theorem fills_published (c : Coordinates) :
    Fills c Packaged.buildScript (published c.group c.package) := by
  have hend : Fills c ['}', '\n'] ['}', '\n'] := .of_isStatic (by decide)
  rw [buildScript_eq_published]
  refine .static_append isStatic_preamble (.static_append (by decide) ?_)
  exact .static (by decide) (.static (by rfl) (fills_pieces hend))

theorem breaks_buildScript : ∀ x ∈ Text.breaks Packaged.buildScript, x = .lf := by
  unfold Packaged.buildScript
  repeat rw [Packaged.page_ofList_cons]
  decide

theorem renderBuildScript_packaged (c : Coordinates) (site : Site) :
    (Library.packaged.renderBuildScript c site).2 = .ok (published c.group c.package) :=
  congrArg Prod.snd (Library.renderBuildScript_of_rendersTo rfl
    (rendersTo_of_fills (fills_published c) ⟨.lf, breaks_buildScript⟩))

end CrateScaffold.BuildScript
