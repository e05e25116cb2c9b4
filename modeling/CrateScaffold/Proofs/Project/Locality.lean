import CrateScaffold.Proofs.Plugin.Locality
import CrateScaffold.Proofs.Project.Generation

/-!
What is read for a project. A manifest, sources and templates that are apart from the output
directory are found again after anything is written there, so the brief and the plan are the same.
-/

namespace CrateScaffold

open FileTree (SameApart HasShortNames)

variable {output p : Path} {t t' : FileTree} {s s' : Site}

/-- A manifest that was read is read again, where the same is found. -/
theorem Manifest.read_eq_ok {c : Crate} (h : SameApart output t t') (hp : p.Apart output)
    (hshort : HasShortNames p) (hc : Manifest.read t p = .ok c) : Manifest.read t' p = .ok c := by
  have hholds : Manifest.holds t' p = Manifest.holds t p := by
    rw [holds, FileTree.holds, h.look_eq hp hshort, holds, FileTree.holds]
  obtain ⟨document, hload, hcrate⟩ := bind_eq_ok.1 hc
  refine bind_eq_ok.2 ⟨document, ?_, hcrate⟩
  unfold load at hload ⊢
  rw [hholds]
  obtain ⟨present, hpresent, hload⟩ := bind_eq_ok.1 hload
  refine bind_eq_ok.2 ⟨present, hpresent, ?_⟩
  cases present with
  | false => cases hload
  | true =>
    obtain ⟨text, htext, hparse⟩ := bind_eq_ok.1 hload
    exact bind_eq_ok.2 ⟨text, mapError_eq_ok.2 (h.readText_eq hp (mapError_eq_ok.1 htext)), hparse⟩

/-- Sources that were scanned are scanned again with the same bindings. -/
theorem Discovery.collect_eq_ok {ps : List Path} {found bs : List Binding}
    (h : SameApart output s.files s'.files) (hps : ∀ q ∈ ps, q.Apart output)
    (hbs : (collect found ps s).2 = .ok bs) : (collect found ps s').2 = .ok bs := by
  induction ps generalizing found with
  | nil => exact hbs
  | cons q ps ih =>
    obtain ⟨hq, hps⟩ := List.forall_mem_cons.1 hps
    obtain ⟨own, hown, hbs⟩ := Reading.snd_bind_eq_ok.1 hbs
    obtain ⟨⟨⟩, -, hown⟩ := Reading.snd_bind_eq_ok.1 hown
    obtain ⟨text, htext, hpure⟩ := Reading.snd_bind_eq_ok.1 hown
    obtain ⟨all, hall, hbs⟩ := Reading.snd_bind_eq_ok.1 hbs
    have hread : s'.files.readText q = .ok text := h.readText_eq hq (mapError_eq_ok.1 htext)
    refine Reading.snd_bind_eq_ok.2 ⟨own, ?_, Reading.snd_bind_eq_ok.2 ⟨all, hall, ih hps hbs⟩⟩
    refine Reading.snd_bind_eq_ok.2 ⟨(), rfl, Reading.snd_bind_eq_ok.2 ⟨text, ?_, hpure⟩⟩
    exact mapError_eq_ok.2 hread

namespace Project

variable {o : Order} {b : Brief} {fs : List PlannedFile} {r : Registry}

/-- An order that reads, by the texts of its paths, nothing in the output directory or above it. -/
structure Order.Separated (o : Order) : Prop where
  output : ['.', '.'] ∉ o.output.parts
  manifest : ∀ p, o.manifest = some p → p.Apart o.output ∧ HasShortNames p
  source : ∀ p, o.source = some p → p.Apart o.output ∧ HasShortNames p
  templates : (library o.root).Apart o.output

theorem crate_eq_ok {manifest : Option Path} {build : Bool} {c : Option Crate}
    (h : SameApart output s.files s'.files)
    (hm : ∀ p, manifest = some p → p.Apart output ∧ HasShortNames p)
    (hc : (crate manifest build s).2 = .ok c) : (crate manifest build s').2 = .ok c := by
  cases manifest with
  | none =>
    cases build with
    | false => exact hc
    | true => cases hc
  | some p =>
    obtain ⟨happart, hshort⟩ := hm p rfl
    unfold crate at hc ⊢
    obtain ⟨present, hpresent, hc⟩ := Reading.snd_bind_eq_ok.1 hc
    have hholds : (holds p s').2 = (holds p s).2 := by
      rw [holds, Reading.snd_ofTree, Reading.snd_ofTree, FileTree.holds, FileTree.holds,
        h.look_eq happart hshort]
    refine Reading.snd_bind_eq_ok.2 ⟨present, hholds.trans hpresent, ?_⟩
    cases present with
    | false =>
      cases build with
      | false => exact hc
      | true => cases hc
    | true =>
      obtain ⟨d, hread, hpure⟩ := Reading.snd_bind_eq_ok.1 hc
      refine Reading.snd_bind_eq_ok.2 ⟨d, ?_, hpure⟩
      exact mapError_eq_ok.2 (Manifest.read_eq_ok h happart hshort (mapError_eq_ok.1 hread))

theorem bindings_eq_ok {source : Option Path} {bs : List Binding} (hs : s.files.Sound)
    (h : SameApart output s.files s'.files)
    (hsource : ∀ p, source = some p → p.Apart output ∧ HasShortNames p)
    (hbs : (bindings source s).2 = .ok bs) : (bindings source s').2 = .ok bs := by
  cases source with
  | none => exact hbs
  | some p =>
    obtain ⟨happart, hshort⟩ := hsource p rfl
    unfold bindings at hbs ⊢
    obtain ⟨isDir, hisDir, hbs⟩ := Reading.snd_bind_eq_ok.1 hbs
    have hdir : s.files.isDir p = .ok isDir := mapError_eq_ok.1 hisDir
    have hdir' : s'.files.isDir p = .ok isDir := by
      rw [FileTree.isDir, h.look_eq happart hshort]
      exact hdir
    refine Reading.snd_bind_eq_ok.2 ⟨isDir, mapError_eq_ok.2 hdir', ?_⟩
    cases isDir with
    | false => exact hbs
    | true =>
      have hstat := FileTree.isDir_eq_true_iff.1 hdir
      obtain ⟨qs, hqs, hbs⟩ := Reading.snd_bind_eq_ok.1 hbs
      have hbelow : s.files.below p ".rs" = .ok qs := mapError_eq_ok.1 hqs
      refine Reading.snd_bind_eq_ok.2 ⟨qs, ?_, ?_⟩
      · exact mapError_eq_ok.2 ((h.below p _ happart hstat).trans hbelow)
      · exact Discovery.collect_eq_ok h (hs.apart_of_below happart hstat hbelow) hbs

theorem brief_again (hs : s.files.Sound) (h : SameApart o.output s.files s'.files)
    (hsep : o.Separated) (hb : (brief o s).2 = .ok b) : (brief o s').2 = .ok b := by
  unfold brief at hb ⊢
  obtain ⟨coordinates, hcoordinates, hb⟩ := Reading.snd_bind_eq_ok.1 hb
  obtain ⟨crate, hcrate, hb⟩ := Reading.snd_bind_eq_ok.1 hb
  obtain ⟨bindings, hbindings, hpure⟩ := Reading.snd_bind_eq_ok.1 hb
  refine Reading.snd_bind_eq_ok.2 ⟨coordinates, hcoordinates, ?_⟩
  refine Reading.snd_bind_eq_ok.2 ⟨crate, crate_eq_ok h hsep.manifest hcrate, ?_⟩
  exact Reading.snd_bind_eq_ok.2 ⟨bindings, bindings_eq_ok hs h hsep.source hbindings, hpure⟩

theorem files_again (h : SameApart output s.files s'.files) (hplatform : s'.platform = s.platform)
    (hengine : s'.engine = s.engine) (hb : b.templates.Apart output)
    (hr : ∀ p ∈ r.plugins, p.ReadsApart output) (hfs : (files r b s).2 = .ok fs) :
    (files r b s').2 = .ok fs := by
  obtain ⟨cs, hcs, hof⟩ := (files_eq_ok (List.Perm.refl _)).1 hfs
  have hcs' := hcs.elsewhere fun p hp => hr p hp b s s' hb hplatform hengine h
  exact (files_eq_ok (List.Perm.refl _)).2 ⟨cs, hcs', hof⟩

end Project

end CrateScaffold
