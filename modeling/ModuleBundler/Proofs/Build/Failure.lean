import ModuleBundler.Proofs.Build.Needed
import ModuleBundler.Proofs.Build.Recursion
import ModuleBundler.Proofs.Path.Resolve
import ModuleBundler.Proofs.Transform.Order

/-! Where an error of a build comes from. It ends the build unchanged, so it is the error of some
file that is needed; and a file fails at the first of its steps that does. -/
namespace ModuleBundler

open Build Script

variable {path directory : Path} {e : BuildError}

namespace Resolver

variable {r : Resolver} {isFile : Path → Bool} {specifier : String}

theorem resolve_eq_error (h : (r.resolve isFile specifier directory).1 = .error e) :
    e = .resolution specifier directory ∧
      ∀ probe ∈ r.attempts specifier directory, isFile probe = false := by
  rw [resolve_eq] at h
  cases hfind : (r.attempts specifier directory).find? isFile with
  | some found =>
    rw [hfind] at h
    cases h
  | none =>
    rw [hfind] at h
    refine ⟨(Except.error.inj h).symm, fun probe hprobe => ?_⟩
    simpa using List.find?_eq_none.1 hfind probe hprobe

end Resolver

namespace Sources

variable {s : Sources} {roots roots' : List Path}

theorem targets_error {calls : List DependencyCall} (h : s.targets directory calls = .error e) :
    ∃ call ∈ calls, s.target directory call.specifier = .error e := by
  induction calls with
  | nil => cases h
  | cons call more ih =>
    rw [targets, List.mapM_cons, ← targets] at h
    rcases bind_eq_error.1 h with htarget | ⟨target, -, hrest⟩
    · exact ⟨call, List.mem_cons_self, htarget⟩
    · rcases bind_eq_error.1 hrest with hmore | ⟨rest, -, hpure⟩
      · obtain ⟨call', hmem, htarget⟩ := ih hmore
        exact ⟨call', List.mem_cons_of_mem _ hmem, htarget⟩
      · cases hpure

/-- How a file can fail: it cannot be read, a transform of it fails, its text is not in the
language, or one of its calls means no file. -/
inductive Fails (s : Sources) (path : Path) : BuildError → Prop where
  | read {cause : IoCause} (h : s.files.read path = .error cause) : Fails s path (.io path cause)
  | transform {raw : String} {e : BuildError} (hraw : s.files.read path = .ok raw)
      (h : Transform.apply s.rules path raw = .error e) : Fails s path e
  | parse {raw text : String} {fault : Fault} (hraw : s.files.read path = .ok raw)
      (htext : Transform.apply s.rules path raw = .ok text)
      (h : Program.read (.ofPath path) text.toList = .error fault) :
      Fails s path (.parse path fault.message)
  | resolution {r : Reading} {call : DependencyCall} (hr : s.reading path = .ok r)
      (hcall : call ∈ r.scan.calls)
      (h : ∀ probe ∈ s.resolver.attempts call.specifier (s.directory path),
        s.files.isFile probe = false) :
      Fails s path (.resolution call.specifier (s.directory path))

theorem fails_of_reading (h : s.reading path = .error e) : s.Fails path e := by
  unfold reading at h
  rcases bind_eq_error.1 h with hraw | ⟨raw, hraw, h⟩
  · obtain ⟨cause, hread, rfl⟩ := Files.readModule_eq_error.1 hraw
    exact .read hread
  rw [Files.readModule_eq_ok] at hraw
  rcases bind_eq_error.1 h with htext | ⟨text, htext, h⟩
  · exact .transform hraw htext
  split at h
  next => cases h
  next fault hscan =>
    cases h
    rcases bind_eq_error.1 hscan with hread | ⟨program, -, hpure⟩
    · exact .parse hraw htext hread
    · cases hpure

theorem fails_of_draft (h : s.draft path = .error e) : s.Fails path e := by
  rcases draft_eq_error.1 h with hreading | ⟨r, hreading, htargets⟩
  · exact fails_of_reading hreading
  · -- only a call that means no file can end the resolution
    obtain ⟨call, hcall, htarget⟩ := targets_error htargets
    obtain ⟨rfl, hprobes⟩ := Resolver.resolve_eq_error htarget
    exact .resolution hreading hcall hprobes

theorem Needed.trans (h : s.Needed roots' path) (hroots : ∀ t ∈ roots', s.Needed roots t) :
    s.Needed roots path := by
  induction h with
  | root h => exact hroots _ h
  | call _ hr hcall htarget ih => exact .call ih hr hcall htarget

/-- A build that fails does so at a file that it needs. -/
theorem Visits.fails {entry : String} {paths : List Path} {p q : Progress}
    (h : s.Visits entry paths p (.error e) q) : ∃ t, s.Needed paths t ∧ s.Fails t e := by
  generalize hr : (.error e : Except BuildError Unit) = r at h
  induction h with
  | nil => cases hr
  | known _ _ ih =>
    obtain ⟨t, ht, hfails⟩ := ih hr
    exact ⟨t, ht.mono (List.subset_cons_self ..), hfails⟩
  | failed _ hd =>
    cases hr
    exact ⟨_, .root List.mem_cons_self, fails_of_draft hd⟩
  | stopped _ hd _ ih =>
    obtain ⟨t, ht, hfails⟩ := ih hr
    refine ⟨t, ht.trans fun u hu => ?_, hfails⟩
    exact (Needed.root List.mem_cons_self).target hd (Draft.mem_targets_of_mem_paths hd hu)
  | found _ _ _ _ _ ihmore =>
    obtain ⟨t, ht, hfails⟩ := ihmore hr
    exact ⟨t, ht.mono (List.subset_cons_self ..), hfails⟩

end Sources

end ModuleBundler
