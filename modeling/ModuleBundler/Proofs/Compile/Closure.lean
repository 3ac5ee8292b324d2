import ModuleBundler.Proofs.Build.Success
import ModuleBundler.Proofs.Compile.Identity

/-! What a compilation over a memory builds, and when it succeeds. The files that its entries need
are a closure, and it builds that closure: names tell stored files apart as long as all of them
are clear: texts without a backslash. An entry that is not clear is then not stored; it can still go
by the name of a file that is. -/
namespace ModuleBundler

open Build

/-- A path that is told by its name. -/
structure Path.Telling (p : Path) : Prop where
  canonical : p.Canonical
  clear : Path.Clear p.bytes

theorem Path.Telling.eq_of_moduleId_eq {root p q : Path} (hroot : root.Plain) (hp : p.Telling)
    (hq : q.Telling) (h : moduleId root p = moduleId root q) : p = q :=
  hp.canonical.eq_of_components_eq hq.canonical (moduleId_injective hroot hp.canonical.plain
    hq.canonical.plain hp.clear hq.clear h)

namespace Memory

variable {m : Memory} {path : Path}

theorem isFile_view : m.view.isFile path = true ↔ path.components ∈ m.files.map Prod.fst :=
  Keyed.get?_isSome

theorem isFile_of_read {text : String} (h : m.view.read path = .ok text) :
    m.view.isFile path = true := by
  change m.read path = .ok text at h
  show (m.get? path).isSome = true
  unfold read at h
  cases hget : m.get? path with
  | none =>
    rw [hget] at h
    cases h
  | some text => rfl

theorem telling_of_isFile (hstored : ∀ f ∈ m.files, ∀ x ∈ f.1, Path.Clear x.bytes)
    (hpath : path.Canonical) (h : m.view.isFile path = true) : path.Telling := by
  refine ⟨hpath, ?_⟩
  obtain ⟨f, hf, hkey⟩ := List.mem_map.1 (isFile_view.1 h)
  obtain ⟨names, hnames, rfl⟩ := hpath
  rw [Path.components_ofNames hnames] at hkey
  have hnone : Path.Clear [] := ⟨[], rfl, List.not_mem_nil⟩
  refine Path.clear_append_slash.2 ⟨hnone, Path.clear_joinSegments.2 fun n hn => ?_⟩
  refine hstored f hf (.name n) ?_
  rw [hkey]
  exact List.mem_cons_of_mem _ (List.mem_map_of_mem hn)

end Memory

namespace BuildConfig

def cleanFiles (es : List (String × Path)) : List Path :=
  (es.map Prod.snd).filter fun t => Path.Clear t.bytes

theorem cleanFiles_append (es es' : List (String × Path)) :
    cleanFiles (es ++ es') = cleanFiles es ++ cleanFiles es' := by
  simp [cleanFiles]

theorem mem_cleanFiles {es : List (String × Path)} {t : Path} :
    t ∈ cleanFiles es ↔ t ∈ es.map Prod.snd ∧ Path.Clear t.bytes := by
  rw [cleanFiles, List.mem_filter, decide_eq_true_iff]

section Files

variable {c : BuildConfig} {cwd : Path} {m : Memory} {path t u : Path} {d : Draft}

theorem isFile_of_reading {r : Reading} (h : (c.sources cwd m.view).reading path = .ok r) :
    m.view.isFile path = true := by
  obtain ⟨raw, hraw, -⟩ := Sources.reading_eq_ok.1 h
  exact Memory.isFile_of_read hraw

theorem isFile_of_draft (h : (c.sources cwd m.view).draft path = .ok d) :
    m.view.isFile path = true :=
  isFile_of_reading (Sources.draft_eq_ok.1 h).1

section Closure

variable (hcwd : cwd.isAbsolute) (hlocal : Resolver.Local c.extensions)
  (hstored : ∀ f ∈ m.files, ∀ x ∈ f.1, Path.Clear x.bytes)
  {es : List (String × Path)} (hes : es.map Prod.snd ⊆ c.roots cwd)

include hcwd hlocal hes in
theorem canonical_of_needed (h : (c.sources cwd m.view).Needed (es.map Prod.snd) t) :
    t.Canonical := by
  induction h with
  | root h => exact canonical_of_mem_roots hcwd (hes h)
  | call _ _ _ htarget ih =>
    refine Resolver.canonical_of_resolve hlocal (isAbsolute_directory hcwd ih.isAbsolute) ?_ htarget
    intro p q hpq
    show (Keyed.get? p.components m.files).isSome = (Keyed.get? q.components m.files).isSome
    rw [hpq]

include hcwd hlocal hstored hes in
theorem telling_of_needed (h : (c.sources cwd m.view).Needed (es.map Prod.snd) t)
    (hfile : m.view.isFile t = true) : t.Telling :=
  Memory.telling_of_isFile hstored (canonical_of_needed hcwd hlocal hes h) hfile

include hcwd hlocal hstored hes in
theorem needed_cleanFiles (h : (c.sources cwd m.view).Needed (es.map Prod.snd) t)
    (hfile : m.view.isFile t = true) : (c.sources cwd m.view).Needed (cleanFiles es) t := by
  induction h with
  | root h =>
    have htelling := telling_of_needed hcwd hlocal hstored hes (.root h) hfile
    exact .root (mem_cleanFiles.2 ⟨h, htelling.clear⟩)
  | call _ hr hcall htarget ih => exact .call (ih (isFile_of_reading hr)) hr hcall htarget

variable {modules : List Module} (hcovers : (c.sources cwd m.view).Covers (es.map Prod.snd) modules)
  (hcomplete : ∀ a b, Module.Loads modules a b → b ∈ modules.map Module.id)

include hcwd hlocal hstored hes hcovers hcomplete in
/-- The modules are those of the files that the clear entries need. -/
theorem mem_paths_iff_needed :
    t ∈ modules.map Module.path ↔ (c.sources cwd m.view).Needed (cleanFiles es) t := by
  have hmodule : ∀ n ∈ modules, ∃ d : Draft, d.Gives (c.sources cwd m.view) n ∧
      n.path.Telling ∧ (c.sources cwd m.view).Needed (cleanFiles es) n.path := by
    intro n hn
    obtain ⟨d, hd⟩ := hcovers.gives n hn
    have hneeded := (hcovers.traced n hn).needed
    have hfile := isFile_of_draft hd.draft_eq
    exact ⟨d, hd, telling_of_needed hcwd hlocal hstored hes hneeded hfile,
      needed_cleanFiles hcwd hlocal hstored hes hneeded hfile⟩
  have hnamed : ∀ u : Path, u.Telling → (c.sources cwd m.view).name u ∈ modules.map Module.id →
      ∃ n ∈ modules, n.path = u := by
    intro u hu hname
    obtain ⟨n, hn, hid⟩ := List.mem_map.1 hname
    obtain ⟨d, hd, htelling, -⟩ := hmodule n hn
    exact ⟨n, hn, htelling.eq_of_moduleId_eq (plain_root hcwd) hu (hd.id_eq.symm.trans hid)⟩
  constructor
  · intro ht
    obtain ⟨n, hn, rfl⟩ := List.mem_map.1 ht
    exact (hmodule n hn).elim fun _ h => h.2.2
  · intro ht
    rw [List.mem_map]
    induction ht with
    | @root t h =>
      obtain ⟨hmem, hclean⟩ := mem_cleanFiles.1 h
      exact hnamed t ⟨canonical_of_mem_roots hcwd (hes hmem), hclean⟩
        (hcovers.roots t hmem)
    | @call t u r call ht hr hcall htarget ih =>
      -- the module of the caller depends on the name, and no dependency is missing
      obtain ⟨n, hn, rfl⟩ := ih
      obtain ⟨d, hd, -, -⟩ := hmodule n hn
      have hu : u ∈ d.targets := by
        obtain rfl := Except.ok.inj ((Sources.draft_eq_ok.1 hd.draft_eq).1.symm.trans hr)
        exact (Draft.mem_targets hd.draft_eq).2 ⟨call, hcall, htarget⟩
      have hneeded := ((hcovers.traced n hn).needed).target hd.draft_eq hu
      refine hnamed u (telling_of_needed hcwd hlocal hstored hes hneeded
        (Resolver.isFile_of_resolve htarget)) (hcomplete n.id _ (hd.loads hn hu))

include hcwd hlocal hstored hes hcovers in
theorem made_cleanFiles : (c.sources cwd m.view).Made (cleanFiles es) modules := by
  have hclean : ∀ t, (c.sources cwd m.view).Traced (es.map Prod.snd) modules t →
      m.view.isFile t = true → (c.sources cwd m.view).Traced (cleanFiles es) modules t := by
    intro t ht hfile
    induction ht with
    | root h =>
      have htelling := telling_of_needed hcwd hlocal hstored hes (.root h) hfile
      exact .root (mem_cleanFiles.2 ⟨h, htelling.clear⟩)
    | call hn _ hd htarget ih => exact .call hn (ih (isFile_of_draft hd)) hd htarget
  refine ⟨hcovers.gives, fun n hn => ?_⟩
  obtain ⟨d, hd⟩ := hcovers.gives n hn
  exact hclean n.path (hcovers.traced n hn) (isFile_of_draft hd.draft_eq)

end Closure

theorem length_lt_bound (c : BuildConfig) (cwd : Path) (m : Memory) :
    m.files.length < (c.sources cwd m.view).bound := by
  obtain ⟨more, hmore⟩ := Resolver.probes_ofExtensions c.extensions
  have hpos : 0 < (Resolver.ofExtensions c.extensions).probes.length := by simp [hmore]
  exact Nat.le_mul_of_pos_right (m.files.length + 1) hpos

/-- Entries that are not clear go by the name of a file that earlier entries need. -/
def Covered (s : Sources) (es : List (String × Path)) : Prop :=
  ∀ done e more, es = done ++ e :: more → ¬ Path.Clear e.2.bytes →
    ∃ q, s.Needed (cleanFiles done) q ∧ s.name q = s.name e.2

theorem Covered.concat {s : Sources} {es : List (String × Path)} {e : String × Path}
    (h : Covered s es)
    (he : ¬ Path.Clear e.2.bytes → ∃ q, s.Needed (cleanFiles es) q ∧ s.name q = s.name e.2) :
    Covered s (es ++ [e]) := by
  intro done e' more hes hunclear
  rcases List.eq_nil_or_concat more with rfl | ⟨init, last, rfl⟩
  · obtain ⟨rfl, rfl⟩ := List.append_singleton_inj.1 hes
    exact he hunclear
  · rw [List.concat_eq_append, ← List.cons_append, ← List.append_assoc] at hes
    exact h done e' init (List.append_singleton_inj.1 hes).1 hunclear

section Entries

variable (hcwd : cwd.isAbsolute) (hlocal : Resolver.Local c.extensions)
  (hstored : ∀ f ∈ m.files, ∀ x ∈ f.1, Path.Clear x.bytes)

structure Built (c : BuildConfig) (cwd : Path) (files : Files) (done : List (String × Path))
    (g : Graph) : Prop where
  owning : g.Owning (done.map (c.sources cwd files).entry)
  covers : (c.sources cwd files).Covers (done.map Prod.snd) g.modules

theorem Built.nil (c : BuildConfig) (cwd : Path) (files : Files) : c.Built cwd files [] .empty :=
  ⟨.empty, .nil _⟩

theorem Built.next {files : Files} {done more : List (String × Path)} {e : String × Path}
    {p q : Progress} (h : c.Built cwd files done p.graph)
    (hes : c.entryPaths cwd = done ++ e :: more) {levels : Nat}
    (hbuild : outcome ((c.sources cwd files).buildModule e.1 levels e.2) p = (.ok ⟨⟩, q)) :
    c.Built cwd files (done ++ [e]) q.graph := by
  refine ⟨owning_step hes h.owning hbuild, ?_⟩
  rw [List.map_append, List.map_singleton]
  exact Sources.covers_buildModule hbuild h.covers

theorem done_subset {done more : List (String × Path)} (hes : c.entryPaths cwd = done ++ more) :
    done.map Prod.snd ⊆ c.roots cwd := by
  rw [roots, hes, List.map_append]
  exact List.subset_append_left ..

include hcwd hlocal hstored in
theorem Built.mem_paths_iff {done more : List (String × Path)} {g : Graph}
    (h : c.Built cwd m.view done g) (hes : c.entryPaths cwd = done ++ more) :
    t ∈ g.modules.map Module.path ↔ (c.sources cwd m.view).Needed (cleanFiles done) t :=
  mem_paths_iff_needed hcwd hlocal hstored (done_subset hes) h.covers h.owning.complete

include hcwd hlocal hstored in
theorem Built.buildEntry_ok {done more : List (String × Path)} {e : String × Path} {p : Progress}
    (h : c.Built cwd m.view done p.graph) (hes : c.entryPaths cwd = done ++ e :: more)
    (hall : (c.sources cwd m.view).Buildable (cleanFiles (c.entryPaths cwd)))
    (hcovered : Covered (c.sources cwd m.view) (c.entryPaths cwd)) :
    ∃ q, outcome ((c.sources cwd m.view).buildModule e.1 ((c.sources cwd m.view).bound + 1) e.2) p =
      (.ok ⟨⟩, q) := by
  by_cases hclear : Path.Clear e.2.bytes
  case neg =>
    -- the entry has the name of a module that earlier entries need
    obtain ⟨q, hq, hname⟩ := hcovered done e more hes hclear
    obtain ⟨n, hn, rfl⟩ := List.mem_map.1 ((h.mem_paths_iff hcwd hlocal hstored hes).2 hq)
    obtain ⟨d, hd⟩ := h.covers.gives n hn
    refine ⟨_, Sources.outcome_buildModule_known (List.mem_map.2 ⟨n, hn, ?_⟩) _⟩
    exact hd.id_eq.trans hname
  case pos =>
    have hes' : c.entryPaths cwd = (done ++ [e]) ++ more := by
      rw [hes, List.append_assoc, List.singleton_append]
    have hbuildable : (c.sources cwd m.view).Buildable (cleanFiles (done ++ [e])) := by
      intro t ht
      refine hall t (ht.mono ?_)
      rw [hes', cleanFiles_append (done ++ [e])]
      exact List.subset_append_left ..
    have hmade : (c.sources cwd m.view).Made (cleanFiles (done ++ [e])) p.graph.modules := by
      have hdone := made_cleanFiles hcwd hlocal hstored (done_subset hes) h.covers
      refine ⟨hdone.gives, fun n hn => (hdone.traced n hn).mono ?_ (List.Subset.refl _)⟩
      rw [cleanFiles_append]
      exact List.subset_append_left ..
    have hroot : e.2 ∈ cleanFiles (done ++ [e]) :=
      mem_cleanFiles.2 ⟨List.mem_map_of_mem List.mem_concat_self, hclear⟩
    have hbound := length_lt_bound c cwd m
    refine Sources.buildModule_ok (m.files.map Prod.fst) hbuildable ?_ ?_ (.root hroot) hmade
    · exact fun t d hd => Memory.isFile_view.1 (isFile_of_draft hd)
    · rw [List.length_map]
      omega

include hcwd hlocal hstored in
theorem built_of_compile_view {report : Report} {p : Progress}
    (h : c.compile cwd m.view = (.ok report, p)) :
    ∃ g, report = c.reportOn ((c.entryPaths cwd).map (c.sources cwd m.view).entry) g ∧
      c.Built cwd m.view (c.entryPaths cwd) g ∧
        Covered (c.sources cwd m.view) (c.entryPaths cwd) := by
  refine report_invariant h
    (I := fun es g => c.Built cwd m.view es g ∧ Covered (c.sources cwd m.view) es)
    ⟨.nil c cwd m.view, by simp [Covered]⟩ ?_
  intro done e more p q hes ⟨hbuilt, hcovered⟩ hbuild
  refine ⟨hbuilt.next hes hbuild, hcovered.concat fun hunclear => ?_⟩
  rcases Sources.known_or_draft hbuild with hknown | ⟨d, hd⟩
  · obtain ⟨n, hn, hid⟩ := List.mem_map.1 hknown
    obtain ⟨d, hd⟩ := hbuilt.covers.gives n hn
    refine ⟨n.path, (hbuilt.mem_paths_iff hcwd hlocal hstored hes).1 (List.mem_map_of_mem hn), ?_⟩
    exact hd.id_eq.symm.trans hid
  · have hmem : e.2 ∈ c.roots cwd := by
      rw [roots, hes]
      exact List.mem_map_of_mem (List.mem_append_right _ List.mem_cons_self)
    have htelling := Memory.telling_of_isFile hstored (canonical_of_mem_roots hcwd hmem)
      (isFile_of_draft hd)
    exact absurd htelling.clear hunclear

include hcwd hlocal hstored in
theorem compile_ok_iff (hne : c.entries ≠ []) :
    (∃ report p, c.compile cwd m.view = (.ok report, p)) ↔
      (c.sources cwd m.view).Buildable (cleanFiles (c.entryPaths cwd)) ∧
      Covered (c.sources cwd m.view) (c.entryPaths cwd) ∧
      (c.entries.map fun e => c.output.fileFor e.1).Nodup := by
  constructor
  · rintro ⟨report, p, h⟩
    have hnd : (report.assets.map Prod.fst).Nodup :=
      (built_of_compile h).2.elim fun _ ⟨_, _, _, hnd⟩ => hnd
    obtain ⟨g, rfl, hbuilt, hcovered⟩ := built_of_compile_view hcwd hlocal hstored h
    refine ⟨fun t ht => ?_, hcovered, map_fst_assets hbuilt.owning ▸ hnd⟩
    -- a file that is needed has become a module, which was made from it
    have hes : c.entryPaths cwd = c.entryPaths cwd ++ [] := (List.append_nil _).symm
    obtain ⟨n, hn, rfl⟩ := List.mem_map.1 ((hbuilt.mem_paths_iff hcwd hlocal hstored hes).2 ht)
    exact (hbuilt.covers.gives n hn).imp fun _ hd => hd.draft_eq
  · rintro ⟨hall, hcovered, hnd⟩
    -- entry by entry, what was built so far is all that its entries need
    obtain ⟨q, hbuild, hbuilt⟩ := Sources.buildEntries_ok (s := c.sources cwd m.view)
      (p := c.begun cwd) (I := c.Built cwd m.view) (.nil c cwd m.view)
      fun done e more p hes hbuilt => by
        obtain ⟨q, hq⟩ := hbuilt.buildEntry_ok hcwd hlocal hstored hes hall hcovered
        exact ⟨q, hq, hbuilt.next hes hq⟩
    rw [← buildEntries_eq] at hbuild
    rcases compile_of_built hne hbuild with ⟨⟨p, hok⟩, -⟩ | ⟨-, hshared⟩
    · exact ⟨_, p, hok⟩
    · exact absurd (map_fst_assets hbuilt.owning ▸ hnd) hshared

include hcwd hstored in
theorem clear_of_buildable (h : (c.sources cwd m.view).Buildable (c.roots cwd)) :
    ∀ t ∈ c.roots cwd, Path.Clear t.bytes := by
  intro t ht
  obtain ⟨d, hd⟩ := h t (.root ht)
  exact (Memory.telling_of_isFile hstored (canonical_of_mem_roots hcwd ht)
    (isFile_of_draft hd)).clear

theorem covered_of_clear (s : Sources) (h : ∀ t ∈ c.roots cwd, Path.Clear t.bytes) :
    cleanFiles (c.entryPaths cwd) = c.roots cwd ∧ Covered s (c.entryPaths cwd) := by
  refine ⟨List.filter_eq_self.2 fun t ht => decide_eq_true (h t ht), ?_⟩
  intro done e more hes hunclear
  refine absurd (h e.2 ?_) hunclear
  rw [roots, hes]
  exact List.mem_map_of_mem (List.mem_append_right _ List.mem_cons_self)

end Entries

/-- When a compilation over a memory of clear names succeeds, and what it then builds: the files
that its entries need, each once. A name is clear when its bytes are a text, in UTF-8, without a
backslash. A compilation succeeds if and only if all of the files can be built and the output files
have different names, unless it does so with an entry that is not clear: such an entry is not
stored, and goes by the name of a file that is. -/
theorem compile_ok_iff_buildable (hcwd : cwd.isAbsolute) (hlocal : Resolver.Local c.extensions)
    (hstored : ∀ f ∈ m.files, ∀ x ∈ f.1, Path.Clear x.bytes) (hne : c.entries ≠ []) :
    ((∃ report p, c.compile cwd m.view = (.ok report, p)) ↔
      (c.sources cwd m.view).Buildable (cleanFiles (c.entryPaths cwd)) ∧
      Covered (c.sources cwd m.view) (c.entryPaths cwd) ∧
      (c.entries.map fun e => c.output.fileFor e.1).Nodup) ∧
    (((∃ report p, c.compile cwd m.view = (.ok report, p)) ↔
        (c.sources cwd m.view).Buildable (c.roots cwd) ∧
        (c.entries.map fun e => c.output.fileFor e.1).Nodup) ↔
      ((∃ report p, c.compile cwd m.view = (.ok report, p)) →
        ∀ t ∈ c.roots cwd, Path.Clear t.bytes)) ∧
    ∀ report p, c.compile cwd m.view = (.ok report, p) →
      (report.modules.map Module.path).Nodup ∧
      (∀ t, t ∈ report.modules.map Module.path ↔
        (c.sources cwd m.view).Needed (cleanFiles (c.entryPaths cwd)) t) ∧
      ∀ n ∈ report.modules, ∃ d : Draft, d.Gives (c.sources cwd m.view) n := by
  have hok := compile_ok_iff hcwd hlocal hstored hne
  refine ⟨hok, ⟨fun hiff h => ?_, fun hclean => ⟨fun h => ?_, fun h => ?_⟩⟩, ?_⟩
  · exact clear_of_buildable hcwd hstored (hiff.1 h).1
  · obtain ⟨hall, -, hnd⟩ := hok.1 h
    exact ⟨(covered_of_clear (c.sources cwd m.view) (hclean h)).1 ▸ hall, hnd⟩
  · obtain ⟨hfiles, hcovered⟩ := covered_of_clear (c.sources cwd m.view)
      (clear_of_buildable hcwd hstored h.1)
    exact hok.2 ⟨hfiles.symm ▸ h.1, hcovered, h.2⟩
  · intro report p h
    obtain ⟨g, rfl, hbuilt, -⟩ := built_of_compile_view hcwd hlocal hstored h
    have hes : c.entryPaths cwd = c.entryPaths cwd ++ [] := (List.append_nil _).symm
    refine ⟨?_, fun t => hbuilt.mem_paths_iff hcwd hlocal hstored hes, hbuilt.covers.gives⟩
    -- the graph has no name twice, so it has no path twice
    have hids : g.modules.map Module.id =
        (g.modules.map Module.path).map (c.sources cwd m.view).name := by
      rw [List.map_map]
      refine List.map_congr_left fun n hn => ?_
      obtain ⟨d, hd⟩ := hbuilt.covers.gives n hn
      exact hd.id_eq
    exact List.Nodup.of_map _ (hids ▸ g.names_nodup)

end Files

def coveredFiles : Memory :=
  .ofList [(.ofString "/app/main.js", "require('./a/b');"), (.ofString "/app/a/b.js", "2;")]

def coveredConfig : BuildConfig :=
  ((new (.ofString "/app")).withEntry "main" (.ofString "main.js")).withEntry "other"
    (.ofString "a\\b.js")

theorem compile_ok_covered :
    ∃ report p, coveredConfig.compile (.ofString "/") coveredFiles.view = (.ok report, p) ∧
      report.modules.map Module.path = [.ofString "/app/main.js", .ofString "/app/a/b.js"] ∧
      (coveredConfig.sources (.ofString "/") coveredFiles.view).Buildable
        (cleanFiles (coveredConfig.entryPaths (.ofString "/"))) ∧
      ¬ (coveredConfig.sources (.ofString "/") coveredFiles.view).Buildable
        (coveredConfig.roots (.ofString "/")) := by
  have hpaths : (coveredConfig.compile (.ofString "/") coveredFiles.view).1.toOption.map
      (fun r => r.modules.map Module.path) =
        some [.ofString "/app/main.js", .ofString "/app/a/b.js"] := by
    decide +kernel
  have hdraft : ((coveredConfig.sources (.ofString "/") coveredFiles.view).draft
      (.ofString "/app/a\\b.js")).toOption.isNone = true := by
    decide +kernel
  obtain ⟨report, p, h, hpaths⟩ := report_of_toOption hpaths
  have hiff := compile_ok_iff_buildable (c := coveredConfig) (m := coveredFiles)
    (show (Path.ofString "/").isAbsolute by decide) (by decide) (by decide +kernel) (by decide)
  refine ⟨report, p, h, hpaths, (hiff.1.1 ⟨report, p, h⟩).1, fun hall => ?_⟩
  obtain ⟨d, hd⟩ := hall (.ofString "/app/a\\b.js") (.root (by decide +kernel))
  rw [hd] at hdraft
  cases hdraft

end BuildConfig

end ModuleBundler
