import ModuleBundler.Proofs.Chunk.Script
import ModuleBundler.Proofs.Compile.Identity
import ModuleBundler.Proofs.Edit.Substitution

/-! What a compilation writes can be read again: when every source can be the body of a function,
and every entry has a name of one line, each output file is a script. -/
namespace ModuleBundler.BuildConfig

open Script

variable {c : BuildConfig} {cwd : Path} {files : Files} {report : Report} {p : Progress}

theorem sublist_of_chunkOf {g : Graph} {e : Entry} {chunk : Chunk} (h : chunkOf g e = some chunk) :
    chunk.modules.Sublist g.modules := by
  obtain ⟨entryModule, -, rfl⟩ := Option.map_eq_some_iff.1 h
  exact List.filter_sublist

theorem chunk_of_asset (h : c.compile cwd files = (.ok report, p)) {a : String × String}
    (ha : a ∈ report.assets) : ∃ chunk : Chunk, a.2 = chunk.script ∧
      chunk.name ∈ c.entries.map Prod.fst ∧ ∀ m ∈ chunk.modules, m ∈ report.modules := by
  obtain ⟨g, rfl, hown⟩ := owning_of_compile h
  obtain ⟨chunk, hchunk, rfl⟩ := List.mem_map.1 ha
  obtain ⟨e, -, he⟩ := List.mem_filterMap.1 hchunk
  refine ⟨chunk, rfl, ?_, fun m hm => (sublist_of_chunkOf he).subset hm⟩
  rw [← map_name_entries c cwd files, ← hown.map_name_chunks]
  exact List.mem_map_of_mem hchunk

theorem ofFileName_cjs {fileName : List Char}
    (h : Dialect.extension? fileName = some "cjs".toList) :
    Dialect.ofFileName fileName = .script := by
  unfold Dialect.ofFileName
  rw [h]
  rfl

/-- Every output file is read as a script, if every source can be the body of a function and every
name of an entry stands on one line. -/
theorem compile_assets_scan (h : c.compile cwd files = (.ok report, p))
    (hnames : ∀ e ∈ c.entries, ∀ d ∈ e.1.toList, isLineBreak d = false)
    (hbodies : ∀ m ∈ report.modules, ReadsAsBody (Chunk.body m).toList) (callee : String)
    {path : Path} (hpath : Dialect.extension? ((path.fileName?.bind Utf8.chars?).getD []) =
      some "cjs".toList) :
    ∀ a ∈ report.assets, ∃ found, scan callee (.ofPath path) a.2 = .ok found := by
  intro a ha
  obtain ⟨chunk, htext, hname, hmodules⟩ := chunk_of_asset h ha
  obtain ⟨e, he, hentry⟩ := List.mem_map.1 hname
  obtain ⟨program, -, hread, -⟩ := Chunk.read_script (c := chunk)
    (fun d hd => hnames e he d (hentry ▸ hd)) (fun m hm => hbodies m (hmodules m hm))
  refine ⟨⟨program.tree.dependencies callee, program.hashbang⟩, ?_⟩
  rw [scan, Dialect.ofPath, ofFileName_cjs hpath, htext, hread]
  rfl

theorem readsAsBody_of_draft (h : c.compile cwd files = (.ok report, p)) {m : Module}
    (hm : m ∈ report.modules) {edits : List Edit} {text text' : List Char}
    (hdraft : ((c.sources cwd files).draft m.path).toOption.map
      (fun d => ((d.rewrite (c.sources cwd files)).edits, d.reading.text)) =
        some (edits, String.ofList text))
    (htext : Substituted 0 text edits text') (ids : List String)
    (hcalls : Unicode.trimEnd text' = Chunk.loaderCalls ids) :
    ReadsAsBody (Chunk.body m).toList := by
  obtain ⟨d, hd⟩ := (covers_of_compile h).gives m hm
  rw [hd.draft_eq] at hdraft
  obtain ⟨rfl, hread⟩ := Prod.mk.inj (Option.some.inj hdraft)
  have hsource : m.source = String.ofList text' :=
    (hread ▸ hd.source_eq).trans (EditPlan.apply_eq htext (.refl _))
  rw [Chunk.body, hsource, String.toList_ofList, String.toList_ofList, hcalls]
  exact Chunk.readsAsBody_loaderCalls ids

def pairFiles : Memory :=
  .ofList [(.ofString "/app/main.js", "require('./b');"), (.ofString "/app/b.js", "")]

def pairConfig : BuildConfig :=
  ((new (.ofString "/app")).withEntry "main" (.ofString "main.js")).withEntry "side"
    (.ofString "b.js")

theorem pair_substituted : Substituted 0 "require('./b');".toList
    [⟨⟨0, 7⟩, loaderName⟩, ⟨⟨8, 13⟩, "\"./b.js\""⟩]
    ([] ++ loaderName.toList ++ ("(".toList ++ "\"./b.js\"".toList ++ ");".toList)) :=
  .cons [] (show "require".toList ≠ [] by decide) loaderName <|
    .cons "(".toList (show "'./b'".toList ≠ [] by decide) "\"./b.js\"" <| .nil _ ");".toList

/-- Two entries of which one needs the other. -/
theorem compile_assets_scan_pair :
    ∃ report p, pairConfig.compile (.ofString "/") pairFiles.view = (.ok report, p) ∧
      report.files = ["main.js", "side.js"] ∧
      ∀ a ∈ report.assets, ∃ found,
        scan "require" (.ofPath (.ofString "/app/dist/main.cjs")) a.2 = .ok found := by
  have hreport : (pairConfig.compile (.ofString "/") pairFiles.view).1.toOption.map
      (fun r => (r.files, r.modules.map Module.path)) =
        some (["main.js", "side.js"], [.ofString "/app/main.js", .ofString "/app/b.js"]) := by
    decide +kernel
  have hmain : ((pairConfig.sources (.ofString "/") pairFiles.view).draft
      (.ofString "/app/main.js")).toOption.map (fun d =>
        ((d.rewrite (pairConfig.sources (.ofString "/") pairFiles.view)).edits, d.reading.text)) =
          some ([⟨⟨0, 7⟩, loaderName⟩, ⟨⟨8, 13⟩, "\"./b.js\""⟩], "require('./b');") := by
    decide +kernel
  have hside : ((pairConfig.sources (.ofString "/") pairFiles.view).draft
      (.ofString "/app/b.js")).toOption.map (fun d =>
        ((d.rewrite (pairConfig.sources (.ofString "/") pairFiles.view)).edits, d.reading.text)) =
          some ([], "") := by
    decide +kernel
  obtain ⟨report, p, h, hreport⟩ := report_of_toOption hreport
  obtain ⟨hfiles, hpaths⟩ := Prod.mk.inj hreport
  have hnames : (pairConfig.entries.all fun e => e.1.toList.all fun d => !isLineBreak d) = true :=
    by decide +kernel
  refine ⟨report, p, h, hfiles, compile_assets_scan h (by simpa using hnames) ?_ "require"
    (by decide +kernel)⟩
  intro m hm
  have hpath : m.path ∈ report.modules.map Module.path := List.mem_map_of_mem hm
  rw [hpaths] at hpath
  simp only [List.mem_cons, List.not_mem_nil, or_false] at hpath
  rcases hpath with hpath | hpath
  · exact readsAsBody_of_draft h hm (hpath ▸ hmain) pair_substituted ["./b.js"] (by decide +kernel)
  · exact readsAsBody_of_draft h hm (hpath ▸ hside) (.nil 0 []) [] (by decide +kernel)

end ModuleBundler.BuildConfig
