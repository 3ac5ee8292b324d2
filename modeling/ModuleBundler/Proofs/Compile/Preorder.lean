import ModuleBundler.Proofs.Compile.Assets
import ModuleBundler.Proofs.Graph.Preorder

/-! The order of the modules in a report. They stand as the traversal lists them that starts with
the modules of the entries on its stack, the first entry on top. Every chunk keeps this order. -/
namespace ModuleBundler

open ModuleBundler.Module (Grows preorder)

open Build ModuleBundler.Graph in
/-- The recursion over the dependencies lists what the stack holds. -/
theorem Sources.traverses_buildModule {s : Sources} {entry : String} {levels : Nat} {path : Path}
    {p q : Progress} (h : outcome (s.buildModule entry levels path) p = (.ok ⟨⟩, q)) :
    Grows entry p.graph.modules q.graph.modules ∧ Traverses [s.name path] p.graph q.graph := by
  refine buildModule_induction_ok
    (fun path g g' => Grows entry g.modules g'.modules ∧ Traverses [s.name path] g g')
    (fun paths g g' => Grows entry g.modules g'.modules ∧ Traverses (paths.map s.name) g g')
    ?_ ?_ ?_ ?_ h
  · intro path g hid
    exact ⟨(claimed_claim g (s.name path) entry).grows, .claim hid entry⟩
  · rintro path g d g' hid - ⟨hgrows, hall⟩
    rw [d.map_name_paths] at hall
    have hinsert : Grows entry g.modules (g.insert (d.module s entry path)).modules :=
      .insert hid rfl
    exact ⟨hinsert.trans hgrows, .found (m := d.module s entry path) hid hgrows hall⟩
  · exact fun g => ⟨.refl entry g.modules, .nil g⟩
  · rintro path more g g' g'' ⟨hgrows, hpath⟩ ⟨hgrows', hmore⟩
    exact ⟨hgrows.trans hgrows', hpath.trans hmore hgrows'⟩

namespace BuildConfig

open ModuleBundler.Graph

variable {c : BuildConfig} {cwd : Path} {files : Files} {report : Report} {p : Progress}

theorem traverses_of_compile (h : c.compile cwd files = (.ok report, p)) :
    ∃ g, report = c.reportOn ((c.entryPaths cwd).map (c.sources cwd files).entry) g ∧
      Traverses ((c.entryPaths cwd).map fun e => (c.sources cwd files).name e.2) .empty g := by
  obtain ⟨g, hreport, htraverses⟩ := report_invariant h
    (I := fun es g => Traverses (es.map fun e => (c.sources cwd files).name e.2) .empty g)
    (Traverses.nil .empty)
    fun done e more p q _ hdone hbuild => by
      obtain ⟨hgrows, hentry⟩ := Sources.traverses_buildModule hbuild
      rw [List.map_append, List.map_singleton]
      exact hdone.trans hentry hgrows
  exact ⟨g, hreport, htraverses⟩

/-- The modules of a report stand in depth-first preorder, of the entries in their configured order
and of the dependencies in theirs. A chunk has its modules in the order of the report. -/
theorem compile_preorder (h : c.compile cwd files = (.ok report, p)) :
    report.entries.map Entry.moduleId =
      (c.entryPaths cwd).map (fun e => Path.moduleId (c.root cwd) e.2) ∧
    report.modules.map Module.id =
      preorder report.modules (report.entries.map Entry.moduleId) [] ∧
    ∀ chunk ∈ report.chunks, chunk.modules.Sublist report.modules := by
  obtain ⟨g, rfl, htraverses⟩ := traverses_of_compile h
  have hentries : ((c.entryPaths cwd).map (c.sources cwd files).entry).map Entry.moduleId =
      (c.entryPaths cwd).map fun e => (c.sources cwd files).name e.2 := List.map_map
  refine ⟨hentries, ?_, ?_⟩
  · -- the graph is told the dependencies by its own modules, and nothing is left on the stack
    have hlisted := htraverses g.modules g.toldBy_modules []
    rw [List.append_nil, Module.preorder_nil] at hlisted
    exact hlisted.symm.trans (congrArg (preorder g.modules · []) hentries.symm)
  · intro chunk hchunk
    obtain ⟨e, -, he⟩ := List.mem_filterMap.1 hchunk
    exact sublist_of_chunkOf he

theorem compile_preorder_sample :
    ∃ report p, sampleConfig.compile (.ofString "/") sampleFiles.view = (.ok report, p) ∧
      report.entries.map Entry.moduleId = ["./a.js", "./b.js", "./a.js", "./v.js"] ∧
      preorder report.modules ["./a.js", "./b.js", "./a.js", "./v.js"] [] =
        ["./a.js", "./b.js", "./u.js", "./v.js"] ∧
      ∀ chunk ∈ report.chunks, chunk.modules.Sublist report.modules := by
  have hids : (sampleConfig.compile (.ofString "/") sampleFiles.view).1.toOption.map
      (fun r => (r.entries.map Entry.moduleId, r.modules.map Module.id)) =
        some (["./a.js", "./b.js", "./a.js", "./v.js"],
          ["./a.js", "./b.js", "./u.js", "./v.js"]) := by
    decide +kernel
  obtain ⟨report, p, h, hids⟩ := report_of_toOption hids
  obtain ⟨hentries, hmodules⟩ := Prod.ext_iff.1 hids
  obtain ⟨-, hpreorder, hchunks⟩ := compile_preorder h
  have hlisted := hmodules.symm.trans (hpreorder.trans (congrArg (preorder report.modules · [])
    hentries))
  exact ⟨report, p, h, hentries, hlisted.symm, hchunks⟩

end BuildConfig

end ModuleBundler
