import ModuleBundler.Proofs.Path.Normal

/-! What a specifier comes to: the first file among the paths that are tried. From an absolute
directory it is a plain path, as long as endings cannot lead elsewhere. -/
namespace ModuleBundler.Resolver

open ModuleBundler.Path

variable {r : Resolver} {isFile : Path → Bool} {specifier : String} {directory path : Path}

theorem firstFile_fst (isFile : Path → Bool) (paths : List Path) :
    (firstFile isFile paths).1 = paths.find? isFile := by
  induction paths with
  | nil => rfl
  | cons p more ih =>
    rw [firstFile, List.find?_cons]
    cases isFile p with
    | true => rfl
    | false => exact ih

theorem resolve_eq (r : Resolver) (isFile : Path → Bool) (specifier : String) (directory : Path) :
    (r.resolve isFile specifier directory).1 =
      match (r.attempts specifier directory).find? isFile with
      | some path => .ok path
      | none => .error (.resolution specifier directory) := by
  rw [← firstFile_fst, resolve]
  rcases firstFile isFile (r.attempts specifier directory) with ⟨_ | found, tried⟩ <;> rfl

theorem resolve_eq_ok : (r.resolve isFile specifier directory).1 = .ok path ↔
    (r.attempts specifier directory).find? isFile = some path := by
  rw [resolve_eq]
  cases (r.attempts specifier directory).find? isFile <;> simp

theorem isFile_of_resolve (h : (r.resolve isFile specifier directory).1 = .ok path) :
    isFile path = true :=
  List.find?_some (resolve_eq_ok.1 h)

section Extensions

variable {extensions : List String}

theorem prefix_foldl_addProbe (extensions probes : List String) :
    probes <+: extensions.foldl addProbe probes := by
  induction extensions generalizing probes with
  | nil => exact List.prefix_refl probes
  | cons e more ih =>
    refine List.IsPrefix.trans ?_ (ih _)
    unfold addProbe
    split
    · exact List.prefix_refl probes
    · exact List.prefix_append ..

theorem mem_foldl_addProbe {probes : List String} {ending : String}
    (h : ending ∈ extensions.foldl addProbe probes) : ending ∈ probes ∨ ending ∈ extensions := by
  induction extensions generalizing probes with
  | nil => exact .inl h
  | cons e more ih =>
    rcases ih h with h | h
    · unfold addProbe at h
      split at h
      · exact .inl h
      · rcases List.mem_append.1 h with h | h
        · exact .inl h
        · exact .inr (List.mem_singleton.1 h ▸ List.mem_cons_self)
    · exact .inr (List.mem_cons_of_mem _ h)

theorem probes_ofExtensions (extensions : List String) :
    ∃ more, (ofExtensions extensions).probes = "" :: more := by
  obtain ⟨more, hmore⟩ := prefix_foldl_addProbe extensions [""]
  exact ⟨more, hmore.symm⟩

theorem mem_probes {ending : String} (h : ending ∈ (ofExtensions extensions).probes) :
    ending = "" ∨ ending ∈ extensions :=
  (mem_foldl_addProbe h).imp_left List.mem_singleton.1

/-- Extensions that stay within the last name of a path. -/
def Local (extensions : List String) : Prop := ∀ e ∈ extensions, '/' ∉ e.toList ∧ e ≠ ".."

instance (extensions : List String) : Decidable (Local extensions) :=
  inferInstanceAs (Decidable (∀ e ∈ extensions, '/' ∉ e.toList ∧ e ≠ ".."))

theorem Local.probe (hlocal : Local extensions) {ending : String}
    (h : ending ∈ (ofExtensions extensions).probes) : '/' ∉ ending.toList ∧ ending ≠ ".." := by
  rcases mem_probes h with rfl | h
  · decide
  · exact hlocal ending h

theorem resolve_cases (hlocal : Local extensions) (hdirectory : directory.isAbsolute)
    (h : ((ofExtensions extensions).resolve isFile specifier directory).1 = .ok path) :
    path.Canonical ∨ path.components = (candidate specifier directory).components := by
  obtain ⟨ending, hending, rfl⟩ := List.mem_map.1 (List.mem_of_find?_eq_some (resolve_eq_ok.1 h))
  obtain ⟨hslash, hup⟩ := hlocal.probe hending
  exact canonical_withEnding (canonical_candidate hdirectory specifier) hslash hup

theorem plain_of_resolve (hlocal : Local extensions) (hdirectory : directory.isAbsolute)
    (h : ((ofExtensions extensions).resolve isFile specifier directory).1 = .ok path) :
    path.Plain := by
  rcases resolve_cases hlocal hdirectory h with hpath | hpath
  · exact hpath.plain
  · obtain ⟨names, hnames, heq⟩ := (canonical_candidate hdirectory specifier).plain
    exact ⟨names, hnames, hpath.trans heq⟩

theorem canonical_of_resolve (hlocal : Local extensions) (hdirectory : directory.isAbsolute)
    (hcongr : ∀ p q : Path, p.components = q.components → isFile p = isFile q)
    (h : ((ofExtensions extensions).resolve isFile specifier directory).1 = .ok path) :
    path.Canonical := by
  have hcandidate := canonical_candidate hdirectory specifier
  rcases resolve_cases hlocal hdirectory h with hpath | hpath
  · exact hpath
  · obtain ⟨more, hprobes⟩ := probes_ofExtensions extensions
    have hfind := resolve_eq_ok.1 h
    -- the name as it stands is tried first, and it means the same file
    have hfirst := (hcongr _ _ hpath).symm.trans (isFile_of_resolve h)
    rw [attempts, hprobes, List.map_cons, withEnding_empty, List.find?_cons_of_pos hfirst] at hfind
    exact Option.some.inj hfind ▸ hcandidate

end Extensions

end ModuleBundler.Resolver
