import ModuleBundler.Proofs.Build.Needed
import ModuleBundler.Proofs.Compile.Ownership
import ModuleBundler.Proofs.Path.Name
import ModuleBundler.Proofs.Path.Resolve

/-! Whether calls reach the files that they mean. A call is redirected to the name of its file, and
a module with that name is there; but the module is made from whichever file with that name was
found first. -/
namespace ModuleBundler

namespace Sources

variable (s : Sources) (roots : List Path) (modules : List Module)

/-- A path that a call in some module means. -/
def Called (path : Path) : Prop :=
  ∃ m ∈ modules, ∃ d : Draft, s.draft m.path = .ok d ∧ path ∈ d.targets

/-- A path that a build met: an entry's, or one that a call means. -/
def Met (path : Path) : Prop := path ∈ roots ∨ s.Called modules path

/-- The module with the name of a path is made from the file at that path. -/
def Reached (path : Path) : Prop :=
  ∃ m ∈ modules, m.id = s.name path ∧ m.path.components = path.components

/-- Paths of one name are those of one file. -/
def Separated (P Q : Path → Prop) : Prop :=
  ∀ t u, P t → Q u → s.name t = s.name u → t.components = u.components

variable {s roots modules}

theorem Traced.met {path : Path} (h : s.Traced roots modules path) : s.Met roots modules path := by
  cases h with
  | root h => exact .inl h
  | call hm _ hd htarget => exact .inr ⟨_, hm, _, hd, htarget⟩

/-- All paths of some kind are reached if and only if none of them has its name from a path of
another file, among these paths and those of the modules. -/
theorem reached_iff_separated {P Q : Path → Prop} (hnd : (modules.map Module.id).Nodup)
    (hgives : ∀ m ∈ modules, ∃ d : Draft, d.Gives s m)
    (hnames : ∀ t, P t → s.name t ∈ modules.map Module.id) (hpaths : ∀ m ∈ modules, Q m.path)
    (hQ : ∀ u, Q u → P u ∨ ∃ m ∈ modules, m.path = u) :
    (∀ t, P t → s.Reached modules t) ↔ s.Separated P Q := by
  constructor
  · intro hreached t u ht hu hname
    obtain ⟨m, hm, hid, hpath⟩ := hreached t ht
    have hown : ∃ n ∈ modules, n.id = s.name u ∧ n.path.components = u.components := by
      rcases hQ u hu with hu | ⟨n, hn, rfl⟩
      · exact hreached u hu
      · obtain ⟨d, hd⟩ := hgives n hn
        exact ⟨n, hn, hd.id_eq, rfl⟩
    obtain ⟨n, hn, hid', hpath'⟩ := hown
    obtain rfl := Module.eq_of_id_eq hnd hm hn (hid.trans (hname.trans hid'.symm))
    exact hpath.symm.trans hpath'
  · intro hsep t ht
    obtain ⟨m, hm, hid⟩ := List.mem_map.1 (hnames t ht)
    obtain ⟨d, hd⟩ := hgives m hm
    exact ⟨m, hm, hid, (hsep t m.path ht (hpaths m hm) (hid.symm.trans hd.id_eq)).symm⟩

end Sources

namespace BuildConfig

open Build

variable {c : BuildConfig} {cwd : Path} {files : Files} {report : Report} {p : Progress}

def roots (c : BuildConfig) (cwd : Path) : List Path := (c.entryPaths cwd).map Prod.snd

theorem covers_of_compile (h : c.compile cwd files = (.ok report, p)) :
    (c.sources cwd files).Covers (c.roots cwd) report.modules := by
  obtain ⟨g, rfl, hcovers⟩ := report_invariant h
    (I := fun es g => (c.sources cwd files).Covers (es.map Prod.snd) g.modules) (.nil _)
    fun done e more p q _ hcovers hbuild => by
      rw [List.map_append, List.map_singleton]
      exact Sources.covers_buildModule hbuild hcovers
  exact hcovers

theorem plain_root (hcwd : cwd.isAbsolute) : (c.root cwd).Plain :=
  (Path.canonical_normalize (Path.isAbsolute_join hcwd _)).plain

theorem canonical_of_mem_roots (hcwd : cwd.isAbsolute) {t : Path} (ht : t ∈ c.roots cwd) :
    t.Canonical := by
  obtain ⟨e, he, rfl⟩ := List.mem_map.1 ht
  obtain ⟨entry, -, rfl⟩ := List.mem_map.1 he
  exact Path.canonical_normalize (Path.isAbsolute_join (plain_root hcwd).isAbsolute _)

theorem isAbsolute_directory (hcwd : cwd.isAbsolute) {t : Path} (ht : t.isAbsolute) :
    ((c.sources cwd files).directory t).isAbsolute := by
  unfold Sources.directory
  cases hparent : t.parent with
  | none => exact (plain_root hcwd).isAbsolute
  | some q => exact Path.isAbsolute_parent ht hparent

theorem plain_of_needed (hcwd : cwd.isAbsolute) (hlocal : Resolver.Local c.extensions) {t : Path}
    (h : (c.sources cwd files).Needed (c.roots cwd) t) : t.Plain := by
  induction h with
  | root h => exact (canonical_of_mem_roots hcwd h).plain
  | call _ _ _ htarget ih =>
    exact Resolver.plain_of_resolve hlocal (isAbsolute_directory hcwd ih.isAbsolute) htarget

/-- Every call of a module is redirected to the name of the file that it means, and there is a
module with that name. The calls reach their files if and only if no such file has its name from
another one. With the files of the entries, they do if and only if different files have different
names. Files always have when their paths are clear, so texts without a backslash. -/
theorem compile_reached_iff_separated (h : c.compile cwd files = (.ok report, p)) :
    (∀ m ∈ report.modules, ∃ d : Draft, d.Gives (c.sources cwd files) m ∧
      ∀ t ∈ d.targets, (c.sources cwd files).name t ∈ report.modules.map Module.id) ∧
    ((∀ t, (c.sources cwd files).Called report.modules t →
        (c.sources cwd files).Reached report.modules t) ↔
      (c.sources cwd files).Separated ((c.sources cwd files).Called report.modules) fun u =>
        (c.sources cwd files).Called report.modules u ∨ ∃ m ∈ report.modules, m.path = u) ∧
    ((∀ t, (c.sources cwd files).Met (c.roots cwd) report.modules t →
        (c.sources cwd files).Reached report.modules t) ↔
      (c.sources cwd files).Separated ((c.sources cwd files).Met (c.roots cwd) report.modules)
        ((c.sources cwd files).Met (c.roots cwd) report.modules)) ∧
    (cwd.isAbsolute → Resolver.Local c.extensions → (c.sources cwd files).Separated
      (fun t => (c.sources cwd files).Met (c.roots cwd) report.modules t ∧ Path.Clear t.bytes)
      (fun u =>
        (c.sources cwd files).Met (c.roots cwd) report.modules u ∧ Path.Clear u.bytes)) := by
  have hcovers := covers_of_compile h
  obtain ⟨hnd, hcomplete⟩ : (report.modules.map Module.id).Nodup ∧
      ∀ a b, Module.Loads report.modules a b → b ∈ report.modules.map Module.id := by
    obtain ⟨g, rfl, hown⟩ := owning_of_compile h
    exact ⟨g.names_nodup, hown.complete⟩
  have hcalled : ∀ t, (c.sources cwd files).Called report.modules t →
      (c.sources cwd files).name t ∈ report.modules.map Module.id := by
    rintro t ⟨m, hm, d, hd, ht⟩
    obtain ⟨d', hd'⟩ := hcovers.gives m hm
    obtain rfl := Except.ok.inj (hd'.draft_eq.symm.trans hd)
    exact hcomplete m.id _ (hd'.loads hm ht)
  refine ⟨fun m hm => ?_, ?_, ?_, fun hcwd hlocal => ?_⟩
  · obtain ⟨d, hd⟩ := hcovers.gives m hm
    exact ⟨d, hd, fun t ht => hcalled t ⟨m, hm, d, hd.draft_eq, ht⟩⟩
  · exact Sources.reached_iff_separated hnd hcovers.gives hcalled
      (fun m hm => .inr ⟨m, hm, rfl⟩) fun u hu => hu
  · exact Sources.reached_iff_separated hnd hcovers.gives
      (fun t ht => ht.elim (hcovers.roots t) (hcalled t))
      (fun m hm => (hcovers.traced m hm).met) fun u hu => .inl hu
  · -- normalized clear paths have different names
    have hplain : ∀ t, (c.sources cwd files).Met (c.roots cwd) report.modules t → t.Plain := by
      rintro t (ht | ⟨m, hm, d, hd, ht⟩)
      · exact (canonical_of_mem_roots hcwd ht).plain
      · exact plain_of_needed hcwd hlocal ((hcovers.traced m hm).needed.target hd ht)
    rintro t u ⟨ht, htb⟩ ⟨hu, hub⟩ hname
    exact Path.moduleId_injective (plain_root hcwd) (hplain t ht) (hplain u hu) htb hub hname

def backslashFiles : Memory :=
  .ofList [(.ofString "/app/main.js", "require('./a\\\\b.js'); require('./a/b.js');"),
    (.ofString "/app/a\\b.js", "1;"), (.ofString "/app/a/b.js", "2;")]

def backslashConfig : BuildConfig :=
  (new (.ofString "/app")).withEntry "main" (.ofString "main.js")

/-- The second of the files gets the module of the first. -/
theorem compile_reached_backslash :
    ∃ report p, backslashConfig.compile (.ofString "/") backslashFiles.view = (.ok report, p) ∧
      (report.modules.map fun m => (m.id, m.path)) =
        [("./main.js", .ofString "/app/main.js"), ("./a/b.js", .ofString "/app/a\\b.js")] ∧
      ¬ ∀ t, (backslashConfig.sources (.ofString "/") backslashFiles.view).Called report.modules t →
        (backslashConfig.sources (.ofString "/") backslashFiles.view).Reached report.modules t := by
  have hmodules : (backslashConfig.compile (.ofString "/") backslashFiles.view).1.toOption.map
      (fun r => r.modules.map fun m => (m.id, m.path)) =
        some [("./main.js", .ofString "/app/main.js"), ("./a/b.js", .ofString "/app/a\\b.js")] := by
    decide +kernel
  have htargets : ((backslashConfig.sources (.ofString "/") backslashFiles.view).draft
      (.ofString "/app/main.js")).toOption.map Draft.targets =
        some [.ofString "/app/a\\b.js", .ofString "/app/a/b.js"] := by
    decide +kernel
  obtain ⟨report, p, h, hmodules⟩ := report_of_toOption hmodules
  refine ⟨report, p, h, hmodules, fun hreached => ?_⟩
  have hsep := (compile_reached_iff_separated h).2.1.1 hreached
  obtain ⟨m, hm, hpath⟩ : ∃ m ∈ report.modules, m.path = .ofString "/app/main.js" := by
    have hmem : ("./main.js", Path.ofString "/app/main.js") ∈
        report.modules.map fun m => (m.id, m.path) := hmodules ▸ List.mem_cons_self
    obtain ⟨m, hm, heq⟩ := List.mem_map.1 hmem
    exact ⟨m, hm, congrArg Prod.snd heq⟩
  obtain ⟨d, hd, htargets⟩ : ∃ d, (backslashConfig.sources (.ofString "/")
      backslashFiles.view).draft m.path = .ok d ∧
        d.targets = [.ofString "/app/a\\b.js", .ofString "/app/a/b.js"] := by
    rw [hpath]
    exact ok_of_toOption htargets
  have hcalled : ∀ t ∈ d.targets, (backslashConfig.sources (.ofString "/")
      backslashFiles.view).Called report.modules t := fun t ht => ⟨m, hm, d, hd, ht⟩
  rw [htargets] at hcalled
  have hsame := hsep _ _ (hcalled (.ofString "/app/a\\b.js") (by simp))
    (.inl (hcalled (.ofString "/app/a/b.js") (by simp))) (by decide +kernel)
  exact absurd hsame (by decide +kernel)

end BuildConfig

end ModuleBundler
