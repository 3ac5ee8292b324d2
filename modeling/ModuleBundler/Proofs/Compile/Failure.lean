import ModuleBundler.Proofs.Build.Failure
import ModuleBundler.Proofs.Compile.Termination

/-! Why a compilation fails. Each error that can end one names what is wrong: with the
configuration, or with a file that the entries need. -/
namespace ModuleBundler

open Build

namespace Sources

variable {s : Sources}

theorem buildEntries_fails {es : List (String × Path)} {p q : Progress} {e : BuildError}
    (hmodule : ∀ entry path p q,
      outcome (s.buildModule entry (s.bound + 1) path) p = (.error e, q) →
        ∃ t, s.Needed [path] t ∧ s.Fails t e)
    (h : outcome (es.mapM s.buildEntry) p = (.error e, q)) :
    ∃ t, s.Needed (es.map Prod.snd) t ∧ s.Fails t e := by
  induction es generalizing p with
  | nil => cases h
  | cons first more ih =>
    rw [List.map_cons]
    obtain ⟨err, hbuild, hr⟩ | ⟨p', err | rest, -, hmore, hr⟩ := buildEntries_cases h
    · cases hr
      obtain ⟨t, ht, hfails⟩ := hmodule _ _ _ _ hbuild
      exact ⟨t, ht.mono (by simp), hfails⟩
    · cases hr
      obtain ⟨t, ht, hfails⟩ := ih hmore
      exact ⟨t, ht.mono (List.subset_cons_self ..), hfails⟩
    · cases hr

end Sources

namespace BuildConfig

/-- What has to be so for a compilation over a memory to end with an error. -/
def Explains (c : BuildConfig) (cwd : Path) (m : Memory) : BuildError → Prop
  | .config .noEntry => c.entries = []
  | .config (.sharedFile file) => ∃ e ∈ c.entries, ∃ e' ∈ c.entries, e.1 ≠ e'.1 ∧
      c.output.fileFor e.1 = file ∧ c.output.fileFor e'.1 = file
  | .config _ | .report _ => False
  | .io path cause => path ∈ c.roots cwd ∧ m.get? path = none ∧ cause = .noSuchFile ∧
      ∀ directory specifier t, (c.sources cwd m.view).target directory specifier = .ok t →
        t.components ≠ path.components
  | .transform path name message => (c.sources cwd m.view).Needed (c.roots cwd) path ∧
      ∃ raw before t after text chain, m.get? path = some raw ∧
        (Transform.selected c.rules path).reverse = before ++ t :: after ∧
        Transform.runAll path before raw = .ok text ∧ t.run text = .error chain ∧
        t.name = name ∧ Transform.chainMessage chain = message
  | .parse path message => (c.sources cwd m.view).Needed (c.roots cwd) path ∧
      ∃ raw text fault, m.get? path = some raw ∧ Transform.apply c.rules path raw = .ok text ∧
        Script.Program.read (.ofPath path) text.toList = .error fault ∧ fault.message = message
  | .resolution specifier directory => ∃ path r,
      (c.sources cwd m.view).Needed (c.roots cwd) path ∧
      (c.sources cwd m.view).reading path = .ok r ∧
      (∃ call ∈ r.scan.calls, call.specifier = specifier) ∧
      (path.parent = some directory ∨
        path.parent = none ∧ path.components = [.root] ∧ directory = c.root cwd) ∧
      ∀ probe ∈ (Resolver.ofExtensions c.extensions).attempts specifier directory,
        m.get? probe = none

variable {c : BuildConfig} {cwd : Path} {m : Memory} {e : BuildError} {p q : Progress}

section Emission

variable {output : Output} {assets : List (String × String)} {chunks : List Chunk}

theorem emitAll_error (h : outcome (chunks.foldlM (emit output) assets) p = (.error e, q)) :
    ∃ before chunk after, chunks = before ++ chunk :: after ∧
      output.fileFor chunk.name ∈ (assets ++ before.map (asset output)).map Prod.fst ∧
      e = .config (.sharedFile (output.fileFor chunk.name)) := by
  induction chunks generalizing assets p with
  | nil => cases h
  | cons chunk more ih =>
    rw [List.foldlM_cons] at h
    by_cases hfile : output.fileFor chunk.name ∈ assets.map Prod.fst
    · rw [outcome_bind_error (outcome_emit_error hfile)] at h
      cases h
      exact ⟨[], chunk, more, rfl, by simpa using hfile, rfl⟩
    · rw [outcome_bind_ok (outcome_emit_ok hfile)] at h
      obtain ⟨before, chunk', after, rfl, hmem, rfl⟩ := ih h
      refine ⟨chunk :: before, chunk', after, rfl, ?_, rfl⟩
      rwa [List.append_assoc] at hmem

end Emission

theorem sharedFile_of_built {files : Files} {entries : List Entry} (hne : c.entries ≠ [])
    (hbuild : outcome (c.buildEntries cwd files) (c.begun cwd) = (.ok entries, q))
    (h : c.compile cwd files = (.error e, p)) :
    ∃ file, e = .config (.sharedFile file) ∧ ∃ a ∈ c.entries, ∃ b ∈ c.entries, a.1 ≠ b.1 ∧
      c.output.fileFor a.1 = file ∧ c.output.fileFor b.1 = file := by
  obtain ⟨rfl, hown⟩ := owning_of_buildEntries hbuild
  rw [compile_emits hne hbuild] at h
  have hnames := hown.map_name_chunks.trans (map_name_entries c cwd files)
  generalize ((c.entryPaths cwd).map (c.sources cwd files).entry).filterMap
    (chunkOf q.graph) = chunks at h hnames
  obtain ⟨before, chunk, after, rfl, hmem, rfl⟩ : ∃ before chunk after,
      chunks = before ++ chunk :: after ∧
        c.output.fileFor chunk.name ∈ (before.map (asset c.output)).map Prod.fst ∧
        e = .config (.sharedFile (c.output.fileFor chunk.name)) := by
    rcases hemit : outcome (chunks.foldlM (emit c.output) [])
      (q.noting (.completed "Building module graph")) with ⟨e' | assets, p'⟩
    · rw [outcome_bind_error hemit] at h
      cases h
      exact emitAll_error hemit
    · rw [outcome_bind_ok hemit] at h
      cases h
  rw [List.map_append, List.map_cons] at hnames
  have hnd := hnames ▸ c.names_nodup
  -- a chunk before has the file already, and the two go by the names of two entries
  obtain ⟨other, hother, hfile⟩ : ∃ other ∈ before,
      c.output.fileFor other.name = c.output.fileFor chunk.name := by
    simpa [asset] using hmem
  have hname : ∀ name ∈ before.map Chunk.name ++ chunk.name :: after.map Chunk.name,
      ∃ a ∈ c.entries, a.1 = name := by
    intro name hname
    rw [hnames] at hname
    exact List.mem_map.1 hname
  obtain ⟨a, ha, haname⟩ := hname other.name
    (List.mem_append_left _ (List.mem_map_of_mem hother))
  obtain ⟨b, hb, hbname⟩ := hname chunk.name (List.mem_append_right _ List.mem_cons_self)
  refine ⟨_, rfl, a, ha, b, hb, ?_, by rw [haname, hfile], by rw [hbname]⟩
  rw [haname, hbname]
  exact (List.nodup_append.1 hnd).2.2 _ (List.mem_map_of_mem hother) _ List.mem_cons_self

section Files

variable (hcwd : cwd.isAbsolute)

include hcwd in
theorem isAbsolute_of_needed {t : Path} (h : (c.sources cwd m.view).Needed (c.roots cwd) t) :
    t.isAbsolute := by
  induction h with
  | root h => exact (canonical_of_mem_roots hcwd h).isAbsolute
  | call _ _ _ htarget ih =>
    have hmem := List.mem_of_find?_eq_some (Resolver.resolve_eq_ok.1 htarget)
    obtain ⟨ending, -, rfl⟩ := List.mem_map.1 hmem
    exact Resolver.isAbsolute_withEnding
      (Resolver.canonical_candidate (isAbsolute_directory hcwd ih) _).isAbsolute ending

include hcwd in
theorem directory_cases {t : Path} (h : (c.sources cwd m.view).Needed (c.roots cwd) t) :
    t.parent = some ((c.sources cwd m.view).directory t) ∨
      t.parent = none ∧ t.components = [.root] ∧
        (c.sources cwd m.view).directory t = c.root cwd := by
  unfold Sources.directory
  cases hparent : t.parent with
  | some directory => exact .inl rfl
  | none =>
    exact .inr ⟨rfl, Path.components_of_parent (isAbsolute_of_needed hcwd h) hparent, rfl⟩

theorem get?_of_read {t : Path} {raw : String} (h : m.view.read t = .ok raw) :
    m.get? t = some raw := by
  change m.read t = .ok raw at h
  unfold Memory.read at h
  cases hget : m.get? t with
  | none =>
    rw [hget] at h
    cases h
  | some text =>
    rw [hget] at h
    rw [Except.ok.inj h]

theorem get?_of_not_isFile {t : Path} (h : m.view.isFile t = false) : m.get? t = none :=
  Option.not_isSome_iff_eq_none.1 (Bool.eq_false_iff.1 h)

theorem explains_read {t : Path} {cause : IoCause}
    (hneeded : (c.sources cwd m.view).Needed (c.roots cwd) t)
    (h : m.view.read t = .error cause) : c.Explains cwd m (.io t cause) := by
  have hget : m.get? t = none ∧ cause = .noSuchFile := by
    change m.read t = .error cause at h
    unfold Memory.read at h
    cases hget : m.get? t with
    | none =>
      rw [hget] at h
      exact ⟨rfl, (Except.error.inj h).symm⟩
    | some text =>
      rw [hget] at h
      cases h
  -- a call means only files that are stored
  have hfree : ∀ directory specifier u,
      (c.sources cwd m.view).target directory specifier = .ok u →
        u.components ≠ t.components := by
    intro directory specifier u htarget hu
    have hfile : (m.get? u).isSome = true := Resolver.isFile_of_resolve htarget
    rw [Memory.get?, hu, ← Memory.get?, hget.1] at hfile
    cases hfile
  refine ⟨?_, hget.1, hget.2, hfree⟩
  cases hneeded with
  | root h => exact h
  | call _ _ _ htarget => exact absurd rfl (hfree _ _ _ htarget)

include hcwd in
theorem explains_of_fails {t : Path} (hneeded : (c.sources cwd m.view).Needed (c.roots cwd) t)
    (h : (c.sources cwd m.view).Fails t e) : c.Explains cwd m e := by
  cases h with
  | read h => exact explains_read hneeded h
  | transform hraw h =>
    obtain ⟨before, t', after, text, chain, hsplit, hbefore, hfails, rfl⟩ :=
      Transform.runAll_error h
    exact ⟨hneeded, _, before, t', after, text, chain, get?_of_read hraw, hsplit, hbefore, hfails,
      rfl, rfl⟩
  | parse hraw htext h => exact ⟨hneeded, _, _, _, get?_of_read hraw, htext, h, rfl⟩
  | resolution hr hcall h =>
    exact ⟨t, _, hneeded, hr, ⟨_, hcall, rfl⟩, directory_cases hcwd hneeded,
      fun probe hprobe => get?_of_not_isFile (h probe hprobe)⟩

end Files

theorem explains_of_error (hcwd : cwd.isAbsolute) (h : c.compile cwd m.view = (.error e, p)) :
    c.Explains cwd m e := by
  by_cases hne : c.entries = []
  · rw [compile_of_empty hne] at h
    cases h
    exact hne
  rcases hbuild : outcome (c.buildEntries cwd m.view) (c.begun cwd) with ⟨err | entries, q⟩
  · rw [compile_of_error hne hbuild] at h
    cases h
    rw [buildEntries_eq] at hbuild
    obtain ⟨t, hneeded, hfails⟩ := Sources.buildEntries_fails
      (fun _ _ _ _ hmodule => (visits_iff_outcome.2 hmodule).fails) hbuild
    exact explains_of_fails hcwd hneeded hfails
  · obtain ⟨file, rfl, hshared⟩ := sharedFile_of_built hne hbuild h
    exact hshared

def brokenFiles : Memory :=
  .ofList [(.ofString "/app/a.js", "require('./b');"),
    (.ofString "/app/b.js", "require('./a'); require('./gone');")]

def brokenConfig : BuildConfig := (new (.ofString "app")).withEntry "main" (.ofString "a.js")

/-- The call for which no file was found, if that is how a compilation ended. -/
def unresolved? : Except BuildError Report → Option (String × Path)
  | .error (.resolution specifier directory) => some (specifier, directory)
  | _ => none

theorem compile_of_unresolved {files : Files} {specifier : String} {directory : Path}
    (h : unresolved? (c.compile cwd files).1 = some (specifier, directory)) :
    ∃ p, c.compile cwd files = (.error (.resolution specifier directory), p) := by
  refine ⟨(c.compile cwd files).2, Prod.ext ?_ rfl⟩
  unfold unresolved? at h
  split at h
  next hr =>
    cases h
    exact hr
  next => cases h

end BuildConfig

end ModuleBundler
