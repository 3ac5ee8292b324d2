import ModuleBundler.Proofs.Build.Recursion
import ModuleBundler.Proofs.Path.Resolve

/-! A build over other files goes as it went, as long as those files give the same answers to what
it asked. What it asks for next depends on the answers so far, so the two builds are followed side
by side. -/
namespace ModuleBundler

open Build Script

def Files.AgreeOn (files other : Files) (paths : List Path) : Prop :=
  ∀ path ∈ paths, other.read path = files.read path ∧ other.isFile path = files.isFile path

theorem Files.AgreeOn.mono {files other : Files} {paths paths' : List Path}
    (h : files.AgreeOn other paths') (hsub : paths ⊆ paths') : files.AgreeOn other paths :=
  fun path hpath => h path (hsub hpath)

namespace Resolver

variable {r : Resolver} {isFile isFile' : Path → Bool}

theorem firstFile_congr {paths : List Path}
    (h : ∀ path ∈ (firstFile isFile paths).2, isFile' path = isFile path) :
    firstFile isFile' paths = firstFile isFile paths := by
  induction paths with
  | nil => rfl
  | cons path more ih =>
    unfold firstFile at h ⊢
    cases hfile : isFile path with
    | true =>
      simp only [hfile, if_true, List.mem_singleton, forall_eq] at h
      rw [h, if_pos rfl, if_pos rfl]
    | false =>
      simp only [hfile, Bool.false_eq_true, if_false, List.forall_mem_cons] at h
      rw [h.1, ih h.2]

theorem resolve_snd (specifier : String) (directory : Path) :
    (r.resolve isFile specifier directory).2 =
      (firstFile isFile (r.attempts specifier directory)).2 := by
  unfold resolve
  split <;> simp_all

theorem resolve_congr {specifier : String} {directory : Path}
    (h : ∀ path ∈ (r.resolve isFile specifier directory).2, isFile' path = isFile path) :
    r.resolve isFile' specifier directory = r.resolve isFile specifier directory := by
  rw [resolve_snd] at h
  rw [resolve, resolve, firstFile_congr h]

end Resolver

namespace Sources

def withFiles (s : Sources) (files : Files) : Sources := { s with files }

variable {s : Sources} {files : Files} {path : Path}

theorem reading_withFiles (h : files.read path = s.files.read path) :
    (s.withFiles files).reading path = s.reading path := by
  unfold reading Files.readModule withFiles
  rw [h]

theorem targets_probes_withFiles {directory : Path} {calls : List DependencyCall}
    (h : s.files.AgreeOn files (s.probes directory calls)) :
    (s.withFiles files).targets directory calls = s.targets directory calls ∧
      (s.withFiles files).probes directory calls = s.probes directory calls := by
  induction calls with
  | nil => exact ⟨rfl, rfl⟩
  | cons call more ih =>
    have htried : (s.resolver.resolve s.files.isFile call.specifier directory).2 ⊆
        s.probes directory (call :: more) := by
      rw [probes]
      rcases s.resolver.resolve s.files.isFile call.specifier directory with ⟨_ | _, tried⟩
      · exact List.Subset.refl _
      · exact List.subset_append_left ..
    have hresolve : (s.withFiles files).resolver.resolve (s.withFiles files).files.isFile
        call.specifier directory = s.resolver.resolve s.files.isFile call.specifier directory :=
      Resolver.resolve_congr fun path hpath => (h path (htried hpath)).2
    rw [probes] at h
    rw [targets, targets, List.mapM_cons, List.mapM_cons, ← targets, ← targets, target, target,
      probes, probes, hresolve]
    rcases hout : s.resolver.resolve s.files.isFile call.specifier directory with ⟨_ | _, tried⟩
    · exact ⟨rfl, rfl⟩
    · rw [hout] at h
      obtain ⟨htargets, hprobes⟩ := ih (h.mono (List.subset_append_right ..))
      exact ⟨by rw [htargets], congrArg _ hprobes⟩

theorem draft_examined_withFiles {p : Progress}
    (h : s.files.AgreeOn files (s.examined path p).looked) :
    (s.withFiles files).draft path = s.draft path ∧
      (s.withFiles files).examined path p = s.examined path p := by
  have hread : (s.withFiles files).reading path = s.reading path := by
    refine reading_withFiles (h path ?_).1
    unfold examined
    split <;> simp [Progress.reading, Progress.probing]
  unfold examined at h ⊢
  rw [draft, draft, hread]
  rcases hreading : s.reading path with e | r
  · exact ⟨rfl, rfl⟩
  · rw [hreading] at h
    obtain ⟨htargets, hprobes⟩ := targets_probes_withFiles (h.mono (List.subset_append_right ..))
    have hdirectory : (s.withFiles files).directory path = s.directory path := rfl
    simp only [hdirectory, hprobes, and_true]
    simp only [bind, Except.bind, htargets]

theorem found_withFiles {p : Progress} (h : s.files.AgreeOn files (s.examined path p).looked)
    (entry : String) (d : Draft) :
    (s.withFiles files).found entry path d p = s.found entry path d p := by
  rw [found, found, (draft_examined_withFiles h).2]
  rfl

variable {entry : String} {paths : List Path} {p q : Progress} {r : Except BuildError Unit}

theorem looked_examined (s : Sources) (path : Path) (p : Progress) :
    p.looked <+: (s.examined path p).looked := by
  unfold examined
  split
  · exact (List.prefix_append ..).trans (List.prefix_append ..)
  · exact List.prefix_append ..

namespace Visits

theorem looked_prefix (h : s.Visits entry paths p r q) : p.looked <+: q.looked := by
  induction h with
  | nil => exact List.prefix_refl _
  | known _ _ ih => exact ih
  | failed => exact looked_examined ..
  | stopped _ _ _ ih => exact (looked_examined ..).trans ih
  | found _ _ _ _ ihinner ihmore => exact ((looked_examined ..).trans ihinner).trans ihmore

theorem withFiles (h : s.Visits entry paths p r q) (hagree : s.files.AgreeOn files q.looked) :
    (s.withFiles files).Visits entry paths p r q := by
  induction h with
  | nil p => exact .nil p
  | known hid _ ih => exact .known hid (ih hagree)
  | failed hid hd =>
    obtain ⟨hdraft, hexamined⟩ := draft_examined_withFiles hagree
    exact hexamined ▸ .failed hid (hdraft.trans hd)
  | @stopped path more p q d e hid hd hinner ih =>
    have hlooked : s.files.AgreeOn files (s.examined path p).looked :=
      hagree.mono hinner.looked_prefix.subset
    exact .stopped hid ((draft_examined_withFiles hlooked).1.trans hd)
      (found_withFiles hlooked entry d ▸ ih hagree)
  | @found path more p p' q d r hid hd hinner hmore ihinner ihmore =>
    have hagree' := hagree.mono hmore.looked_prefix.subset
    have hlooked : s.files.AgreeOn files (s.examined path p).looked :=
      hagree'.mono hinner.looked_prefix.subset
    exact .found hid ((draft_examined_withFiles hlooked).1.trans hd)
      (found_withFiles hlooked entry d ▸ ihinner hagree') (ihmore hagree)

end Visits

end Sources

end ModuleBundler
