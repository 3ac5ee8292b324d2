import ModuleBundler.Proofs.Compile.Closure
import ModuleBundler.Proofs.Graph.Agreement

/-! One graph for all entries, and one for each. A module that was found for another entry is the
one that would have been built, so what is built along with an entry does not change its chunk. What
another entry can change is whether an entry that is not stored has the name of a module. -/
namespace ModuleBundler

open Build
open ModuleBundler.Module (Agree Complete Reaches content)

/-- Chunks of one entry module, with modules of one content up to their order. -/
structure Chunk.Alike (c c' : Chunk) : Prop where
  entry : c.entryModule.id = c'.entryModule.id
  modules : (c.modules.map content).Perm (c'.modules.map content)

namespace BuildConfig

def withEntries (c : BuildConfig) (es : List (String × Path)) (hnd : (es.map Prod.fst).Nodup) :
    BuildConfig :=
  { c with entries := es, names_nodup := hnd }

def only (c : BuildConfig) (e : String × Path) : BuildConfig :=
  c.withEntries [e] (List.nodup_singleton e.1)

def pathOf (c : BuildConfig) (cwd : Path) (e : String × Path) : Path :=
  ((c.root cwd).join e.2).normalize

variable {c : BuildConfig} {cwd : Path} {m : Memory}

theorem entryPaths_only (c : BuildConfig) (cwd : Path) (e : String × Path) :
    (c.only e).entryPaths cwd = [(e.1, c.pathOf cwd e)] := rfl

theorem roots_eq (c : BuildConfig) (cwd : Path) : c.roots cwd = c.entries.map (c.pathOf cwd) := by
  rw [roots, entryPaths, List.map_map]
  rfl

theorem needed_singleton {s : Sources} {roots : List Path} {t : Path} (h : s.Needed roots t) :
    ∃ r ∈ roots, s.Needed [r] t := by
  induction h with
  | @root t h => exact ⟨t, h, .root List.mem_cons_self⟩
  | call _ hr hcall htarget ih => exact ih.imp fun _ h => ⟨h.1, .call h.2 hr hcall htarget⟩

theorem buildable_iff {s : Sources} {roots : List Path} :
    s.Buildable roots ↔ ∀ r ∈ roots, s.Buildable [r] := by
  constructor
  · exact fun h r hr t ht => h t (ht.mono (List.cons_subset.2 ⟨hr, List.nil_subset _⟩))
  intro h t ht
  obtain ⟨r, hr, hneeded⟩ := needed_singleton ht
  exact h r hr t hneeded

theorem covered_singleton {s : Sources} {e : String × Path} :
    Covered s [e] ↔ Path.Clear e.2.bytes := by
  constructor
  · intro h
    by_contra hunclear
    obtain ⟨q, hq, -⟩ := h [] e [] rfl hunclear
    obtain ⟨r, hr, -⟩ := needed_singleton hq
    cases hr
  · intro h
    have hnil : Covered s [] := by simp [Covered]
    exact hnil.concat fun hunclear => absurd h hunclear

theorem cleanFiles_singleton {e : String × Path} (h : Path.Clear e.2.bytes) :
    cleanFiles [e] = [e.2] :=
  List.filter_cons_of_pos (decide_eq_true h)

section Success

variable (hcwd : cwd.isAbsolute) (hlocal : Resolver.Local c.extensions)
  (hstored : ∀ f ∈ m.files, ∀ x ∈ f.1, Path.Clear x.bytes)

include hcwd hlocal hstored in
theorem only_ok_iff (e : String × Path) :
    (∃ report p, (c.only e).compile cwd m.view = (.ok report, p)) ↔
      Path.Clear (c.pathOf cwd e).bytes ∧ (c.sources cwd m.view).Buildable [c.pathOf cwd e] := by
  rw [compile_ok_iff (c := c.only e) hcwd hlocal hstored (List.cons_ne_nil _ _), entryPaths_only,
    covered_singleton]
  constructor
  · rintro ⟨hall, hclean, -⟩
    exact ⟨hclean, cleanFiles_singleton hclean ▸ hall⟩
  · rintro ⟨hclean, hall⟩
    exact ⟨(cleanFiles_singleton (e := (e.1, c.pathOf cwd e)) hclean).symm ▸ hall, hclean,
      List.nodup_singleton _⟩

theorem mem_cleanFiles_entryPaths {t : Path} : t ∈ cleanFiles (c.entryPaths cwd) ↔
    ∃ e ∈ c.entries, Path.Clear (c.pathOf cwd e).bytes ∧ c.pathOf cwd e = t := by
  rw [mem_cleanFiles, ← roots, roots_eq, List.mem_map]
  constructor
  · rintro ⟨⟨e, he, rfl⟩, hclean⟩
    exact ⟨e, he, hclean, rfl⟩
  · rintro ⟨e, he, hclean, rfl⟩
    exact ⟨⟨e, he, rfl⟩, hclean⟩

include hcwd hlocal hstored in
theorem compile_ok_iff_only (hne : c.entries ≠ [])
    (hfiles : (c.entries.map fun e => c.output.fileFor e.1).Nodup) :
    (∃ report p, c.compile cwd m.view = (.ok report, p)) ↔
      (∀ e ∈ c.entries, Path.Clear (c.pathOf cwd e).bytes →
        ∃ report p, (c.only e).compile cwd m.view = (.ok report, p)) ∧
      Covered (c.sources cwd m.view) (c.entryPaths cwd) := by
  rw [compile_ok_iff hcwd hlocal hstored hne, buildable_iff]
  constructor
  · rintro ⟨hall, hcovered, -⟩
    refine ⟨fun e he hclean => (only_ok_iff hcwd hlocal hstored e).2 ⟨hclean, ?_⟩, hcovered⟩
    exact hall _ (mem_cleanFiles_entryPaths.2 ⟨e, he, hclean, rfl⟩)
  · rintro ⟨heach, hcovered⟩
    refine ⟨fun t ht => ?_, hcovered, hfiles⟩
    obtain ⟨e, he, hclean, rfl⟩ := mem_cleanFiles_entryPaths.1 ht
    exact ((only_ok_iff hcwd hlocal hstored e).1 (heach e he hclean)).2

end Success

section Chunks

variable {g g' : Graph} {es : List (String × Path)} {hnd : (es.map Prod.fst).Nodup}

theorem Built.path_telling (hcwd : cwd.isAbsolute) (hlocal : Resolver.Local c.extensions)
    (hstored : ∀ f ∈ m.files, ∀ x ∈ f.1, Path.Clear x.bytes)
    (h : c.Built cwd m.view (c.entryPaths cwd) g) {n : Module} (hn : n ∈ g.modules) :
    n.path.Telling := by
  obtain ⟨d, hd⟩ := h.covers.gives n hn
  exact telling_of_needed hcwd hlocal hstored (List.Subset.refl _) (h.covers.traced n hn).needed
    (isFile_of_draft hd.draft_eq)

theorem Built.agree (hcwd : cwd.isAbsolute) (hlocal : Resolver.Local c.extensions)
    (hstored : ∀ f ∈ m.files, ∀ x ∈ f.1, Path.Clear x.bytes)
    (h : c.Built cwd m.view (c.entryPaths cwd) g)
    (h' : (c.withEntries es hnd).Built cwd m.view ((c.withEntries es hnd).entryPaths cwd) g') :
    Agree g.modules g'.modules := by
  intro n hn n' hn' hid
  -- one name is one file here, and a file is drafted in one way
  obtain ⟨d, hd⟩ := h.covers.gives n hn
  obtain ⟨d', hd'⟩ := h'.covers.gives n' hn'
  have htelling := h.path_telling hcwd hlocal hstored hn
  have htelling' := h'.path_telling (c := c.withEntries es hnd) hcwd hlocal hstored hn'
  have hpath : n.path = n'.path := htelling.eq_of_moduleId_eq (plain_root hcwd) htelling'
    (hd.id_eq.symm.trans (hid.trans hd'.id_eq))
  have hdraft : d = d' := Except.ok.inj (hd.draft_eq.symm.trans (hpath ▸ hd'.draft_eq))
  subst hdraft
  have hsource : n.source = n'.source := hd.source_eq.trans hd'.source_eq.symm
  have hdependencies : n.dependencies = n'.dependencies :=
    hd.dependencies_eq.trans hd'.dependencies_eq.symm
  rw [content, content, hid, hpath, hsource, hdependencies]

theorem chunk?_reportOn {entries : List Entry} (hown : g.Owning entries)
    (hnames : (entries.map Entry.name).Nodup) {e : Entry} (he : e ∈ entries) :
    (c.reportOn entries g).chunk? e.name = chunkOf g e := by
  obtain ⟨n, -, -, hchunk⟩ := hown.chunkOf_eq he
  rw [hchunk]
  have hmem := List.mem_filterMap.2 ⟨e, he, hchunk⟩
  rw [← hown.map_name_chunks] at hnames
  show (entries.filterMap (chunkOf g)).find? _ = _
  cases hfind : (entries.filterMap (chunkOf g)).find? (fun ch => ch.name = e.name) with
  | none => exact absurd (List.find?_eq_none.1 hfind _ hmem) (by simp)
  | some chunk =>
    refine congrArg some (List.inj_on_of_nodup_map hnames (List.mem_of_find?_eq_some hfind) hmem ?_)
    simpa using List.find?_some hfind

theorem mem_entries (cwd : Path) (m : Memory) {e : String × Path} (he : e ∈ c.entries) :
    (⟨e.1, (c.sources cwd m.view).name (c.pathOf cwd e)⟩ : Entry) ∈
      (c.entryPaths cwd).map (c.sources cwd m.view).entry :=
  List.mem_map.2 ⟨(e.1, c.pathOf cwd e), List.mem_map.2 ⟨e, he, rfl⟩, rfl⟩

theorem Built.chunk?_eq {e : String × Path} (he : e ∈ c.entries)
    (h : c.Built cwd m.view (c.entryPaths cwd) g) :
    (c.reportOn ((c.entryPaths cwd).map (c.sources cwd m.view).entry) g).chunk? e.1 =
      chunkOf g ⟨e.1, (c.sources cwd m.view).name (c.pathOf cwd e)⟩ := by
  have hnames := c.names_nodup
  rw [← map_name_entries c cwd m.view] at hnames
  exact chunk?_reportOn h.owning hnames (mem_entries cwd m he)

theorem alike_of_owning {done done' : List Entry} {e : Entry} (h : g.Owning done)
    (h' : g'.Owning done') (hagree : Agree g.modules g'.modules) (he : e ∈ done) (he' : e ∈ done') :
    ∃ chunk chunk', chunkOf g e = some chunk ∧ chunkOf g' e = some chunk' ∧ chunk.Alike chunk' := by
  obtain ⟨n, hn, hid, hchunk⟩ := h.chunkOf_eq he
  obtain ⟨n', hn', hid', hchunk'⟩ := h'.chunkOf_eq he'
  refine ⟨_, _, hchunk, hchunk', hid.trans hid'.symm, ?_⟩
  exact hagree.perm_reached g.names_nodup g'.names_nodup h.complete h'.complete
    (hid ▸ List.mem_map_of_mem hn) (hid' ▸ List.mem_map_of_mem hn')

end Chunks

/-- Compiling all entries and compiling each alone, over a memory whose names are clear, so
texts without a backslash. All compile together if and only if each clear one compiles alone and
each other one has the name of a file that earlier entries need. All compile together when and only
when each compiles alone, unless they do so together with an entry that is not clear. Whatever else
is compiled along with an entry, and in whatever order, its chunk has the same entry module, and the
same modules up to their order. -/
theorem compile_ok_iff_each_only (hcwd : cwd.isAbsolute) (hlocal : Resolver.Local c.extensions)
    (hstored : ∀ f ∈ m.files, ∀ x ∈ f.1, Path.Clear x.bytes) (hne : c.entries ≠ [])
    (hfiles : (c.entries.map fun e => c.output.fileFor e.1).Nodup) :
    ((∃ report p, c.compile cwd m.view = (.ok report, p)) ↔
      (∀ e ∈ c.entries, Path.Clear (c.pathOf cwd e).bytes →
        ∃ report p, (c.only e).compile cwd m.view = (.ok report, p)) ∧
      Covered (c.sources cwd m.view) (c.entryPaths cwd)) ∧
    (((∃ report p, c.compile cwd m.view = (.ok report, p)) ↔
        ∀ e ∈ c.entries, ∃ report p, (c.only e).compile cwd m.view = (.ok report, p)) ↔
      ((∃ report p, c.compile cwd m.view = (.ok report, p)) →
        ∀ e ∈ c.entries, Path.Clear (c.pathOf cwd e).bytes)) ∧
    ∀ report p es hnd report' p', c.compile cwd m.view = (.ok report, p) →
      (c.withEntries es hnd).compile cwd m.view = (.ok report', p') →
        ∀ e ∈ c.entries, e ∈ es → ∃ chunk chunk', report.chunk? e.1 = some chunk ∧
          report'.chunk? e.1 = some chunk' ∧ chunk.Alike chunk' := by
  have hok := compile_ok_iff_only hcwd hlocal hstored hne hfiles
  refine ⟨hok, ⟨fun hiff h e he => ?_, fun hclean => ⟨fun h e he => ?_, fun heach => ?_⟩⟩, ?_⟩
  · exact ((only_ok_iff hcwd hlocal hstored e).1 (hiff.1 h e he)).1
  · exact (hok.1 h).1 e he (hclean h e he)
  · refine hok.2 ⟨fun e he _ => heach e he, (covered_of_clear _ ?_).2⟩
    rw [roots_eq]
    intro t ht
    obtain ⟨e, he, rfl⟩ := List.mem_map.1 ht
    exact ((only_ok_iff hcwd hlocal hstored e).1 (heach e he)).1
  · intro report p es hnd report' p' h h' e he he'
    obtain ⟨g, rfl, hbuilt, -⟩ := built_of_compile_view hcwd hlocal hstored h
    obtain ⟨g', rfl, hbuilt', -⟩ :=
      built_of_compile_view (c := c.withEntries es hnd) hcwd hlocal hstored h'
    -- the two graphs agree on all that the entry reaches, whoever it was built for
    rw [hbuilt.chunk?_eq he, hbuilt'.chunk?_eq he']
    exact alike_of_owning hbuilt.owning hbuilt'.owning (hbuilt.agree hcwd hlocal hstored hbuilt')
      (mem_entries cwd m he) (mem_entries (c := c.withEntries es hnd) cwd m he')

/-- The entry that is covered compiles along with another, and not alone. -/
theorem compile_each_only_covered :
    (∃ report p, coveredConfig.compile (.ofString "/") coveredFiles.view = (.ok report, p)) ∧
      ¬ (∀ e ∈ coveredConfig.entries, ∃ report p,
        (coveredConfig.only e).compile (.ofString "/") coveredFiles.view = (.ok report, p)) ∧
      ∃ report p report' p', coveredConfig.compile (.ofString "/") coveredFiles.view =
          (.ok report, p) ∧
        (coveredConfig.only ("main", .ofString "main.js")).compile (.ofString "/")
          coveredFiles.view = (.ok report', p') ∧
        ∃ chunk chunk', report.chunk? "main" = some chunk ∧ report'.chunk? "main" = some chunk' ∧
          chunk.Alike chunk' := by
  have hfiles : (coveredConfig.compile (.ofString "/") coveredFiles.view).1.toOption.map
      Report.files = some ["main.js", "other.js"] := by
    decide +kernel
  have hfiles' : ((coveredConfig.only ("main", .ofString "main.js")).compile (.ofString "/")
      coveredFiles.view).1.toOption.map Report.files = some ["main.js"] := by
    decide +kernel
  obtain ⟨report, p, h, -⟩ := report_of_toOption hfiles
  obtain ⟨report', p', h', -⟩ := report_of_toOption hfiles'
  obtain ⟨-, hiff, halike⟩ := compile_ok_iff_each_only (c := coveredConfig) (m := coveredFiles)
    (show (Path.ofString "/").isAbsolute by decide) (by decide) (by decide +kernel) (by decide)
    (by decide +kernel)
  refine ⟨⟨report, p, h⟩, fun heach => ?_, report, p, report', p', h, h', ?_⟩
  · have hclean := hiff.1 ⟨fun _ => heach, fun _ => ⟨report, p, h⟩⟩ ⟨report, p, h⟩
    exact absurd (hclean ("other", .ofString "a\\b.js") (by decide +kernel)) (by decide +kernel)
  · exact halike report p _ _ report' p' h h' ("main", .ofString "main.js") (by decide +kernel)
      List.mem_cons_self

end BuildConfig

end ModuleBundler
