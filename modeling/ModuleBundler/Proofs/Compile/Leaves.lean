import ModuleBundler.Proofs.Compile.Failure
import ModuleBundler.Proofs.Compile.Record
import ModuleBundler.Proofs.Path.Place
import ModuleBundler.Proofs.Transform.JsonModule

/-! JSON documents as leaves of a build. A file whose path ends as those of documents do, and whose
one transform makes a module of a document, is never refused for its syntax and depends on
nothing. -/
namespace ModuleBundler

open Build Script

section Ending

def jsonEnding : List Char := ".json".toList

theorem ofFileName_append_jsonEnding (name : List Char) :
    Dialect.ofFileName (name ++ jsonEnding) = .plain := by
  have hspan : (name ++ jsonEnding).reverse.span (· != '.') =
      ("nosj".toList, '.' :: name.reverse) := by
    simp [jsonEnding, List.span_eq_takeWhile_dropWhile]
  have hextension : Dialect.extension? (name ++ jsonEnding) = none ∨
      Dialect.extension? (name ++ jsonEnding) = some "json".toList := by
    rw [Dialect.extension?, hspan]
    cases name.reverse with
    | nil => exact .inl rfl
    | cons c more => exact .inr rfl
  unfold Dialect.ofFileName
  rcases hextension with hextension | hextension
  all_goals
    rw [hextension]
    rfl

theorem ofPath_of_jsonEnding {path : Path} (h : Utf8.encode jsonEnding <:+ path.bytes) :
    Dialect.ofPath path = .plain := by
  obtain ⟨before, hbytes⟩ := h
  obtain ⟨init, last, hsegments⟩ := Path.exists_segmentsOf_append before
    (show Path.slash ∉ Utf8.encode jsonEnding by decide)
  have hlength : 5 ≤ (last ++ Utf8.encode jsonEnding).length := by
    rw [List.length_append]
    exact Nat.le_add_left ..
  have hname : Component.ofSegment? (last ++ Utf8.encode jsonEnding) =
      some (.name (last ++ Utf8.encode jsonEnding)) :=
    Component.ofSegment?_of_length (by omega)
  rw [hbytes] at hsegments
  rw [Dialect.ofPath, Path.fileName?_of_segmentsOf hsegments hname, Option.bind_some]
  -- a name that is no text announces nothing
  cases htext : Utf8.chars? (last ++ Utf8.encode jsonEnding) with
  | none => rfl
  | some name =>
    obtain ⟨stem, ending, rfl, -, hending⟩ :=
      Utf8.encode_eq_append_cons (Utf8.chars?_eq_some.1 htext) (by decide)
    rw [Utf8.encode_injective (show Utf8.encode ending = Utf8.encode "json".toList from hending)]
    exact ofFileName_append_jsonEnding stem

end Ending

section File

variable {rules : List Rule} {path : Path} {raw text source : String}

/-- What becomes of a document is read without a fault under every path that ends so, and no call
is found in it, whatever the document holds. -/
theorem scan_json (hpath : Utf8.encode jsonEnding <:+ path.bytes)
    (h : Transform.json.run text = .ok source) (callee : String) :
    scan callee (.ofPath path) source = .ok ⟨[], none⟩ := by
  obtain ⟨document, hparse, rfl⟩ := Transform.document_of_run h
  rw [ofPath_of_jsonEnding hpath]
  exact Transform.scan_jsonModule rfl hparse callee

theorem run_of_apply (hselected : Transform.selected rules path = [Transform.json])
    (h : Transform.apply rules path raw = .ok text) : Transform.json.run raw = .ok text := by
  rw [Transform.apply, hselected, List.reverse_singleton, Transform.runAll_singleton,
    Transform.attempt] at h
  cases hrun : Transform.json.run raw with
  | ok result =>
    rw [hrun] at h
    exact congrArg Except.ok (Except.ok.inj h)
  | error chain =>
    rw [hrun] at h
    cases h

end File

/-- The modules that were read from a path are leaves. -/
def Graph.LeafAt (g : Graph) (path : Path) : Prop :=
  ∀ m ∈ g.modules, m.path = path → m.dependencies = []

namespace Sources

variable {s : Sources} {path : Path} {d : Draft} {g : Graph}

theorem not_fails_parse (hpath : Utf8.encode jsonEnding <:+ path.bytes)
    (hselected : Transform.selected s.rules path = [Transform.json]) {t : Path}
    {message : String} : ¬ s.Fails t (.parse path message) := by
  intro h
  generalize he : BuildError.parse path message = e at h
  cases h with
  | read => cases he
  | transform _ hfails =>
    obtain ⟨_, _, _, _, _, _, _, _, rfl⟩ := Transform.runAll_error hfails
    cases he
  | parse hraw htext hread =>
    cases he
    have hscan := scan_json hpath (run_of_apply hselected htext) s.callee
    rw [scan, hread] at hscan
    cases hscan
  | resolution => cases he

theorem targets_of_draft (hpath : Utf8.encode jsonEnding <:+ path.bytes)
    (hselected : Transform.selected s.rules path = [Transform.json])
    (h : s.draft path = .ok d) : d.targets = [] := by
  obtain ⟨hreading, htargets⟩ := draft_eq_ok.1 h
  obtain ⟨raw, -, htext, hscan⟩ := reading_eq_ok.1 hreading
  have hnone := scan_json hpath (run_of_apply hselected htext) s.callee
  rw [← Except.ok.inj (hnone.symm.trans hscan)] at htargets
  exact (Except.ok.inj htargets).symm

theorem leafAt_claim (h : g.LeafAt path) (id entry : String) : (g.claim id entry).LeafAt path := by
  intro m' hm' hpath
  obtain ⟨m, hm, hgrows⟩ := Graph.exists_of_mem_claim hm'
  rw [hgrows.dependencies_eq]
  exact h m hm (hgrows.path_eq.symm.trans hpath)

theorem leafAt_insert (h : g.LeafAt path) (hpath : Utf8.encode jsonEnding <:+ path.bytes)
    (hselected : Transform.selected s.rules path = [Transform.json]) (entry : String) {t : Path}
    (hid : s.name t ∉ g.names) (hd : s.draft t = .ok d) :
    (g.insert (d.module s entry t)).LeafAt path := by
  intro m hm hmpath
  rcases (Graph.mem_insert hid).1 hm with hm | rfl
  · exact h m hm hmpath
  · obtain rfl : t = path := hmpath
    rw [(Draft.gives_module hd entry).dependencies_eq, targets_of_draft hpath hselected hd]
    rfl

/-- A run leaves the modules of a path leaves, however it ends, and does not end for their
syntax. -/
def KeepsLeaf {α : Type} (path : Path) (p : Progress) (r : Except BuildError α) (q : Progress) :
    Prop :=
  p.graph.LeafAt path → q.graph.LeafAt path ∧ ∀ message, r ≠ .error (.parse path message)

theorem keepsLeaf_buildModule (hpath : Utf8.encode jsonEnding <:+ path.bytes)
    (hselected : Transform.selected s.rules path = [Transform.json]) (entry : String)
    (levels : Nat) (target : Path) (p : Progress) :
    KeepsLeaf path p (outcome (s.buildModule entry levels target) p).1
      (outcome (s.buildModule entry levels target) p).2 := by
  refine buildModule_induction (fun _ => KeepsLeaf path) (fun _ => KeepsLeaf path)
    ?known ?exhausted ?failed ?found ?nil ?stop ?next levels target p
  case known => exact fun t p _ hp => ⟨leafAt_claim hp (s.name t) entry, nofun⟩
  case exhausted => exact fun _ _ _ hp => ⟨hp, nofun⟩
  case failed =>
    intro t p e _ hd hp
    refine ⟨(graph_examined s t p).symm ▸ hp, fun message he => ?_⟩
    rw [Except.error.inj he] at hd
    exact not_fails_parse hpath hselected (fails_of_draft hd)
  case found =>
    exact fun t p d r q hid hd hall hp => hall (leafAt_insert hp hpath hselected entry hid hd)
  case nil => exact fun p hp => ⟨hp, nofun⟩
  case stop => exact fun _ _ _ _ _ hfails => hfails
  case next => exact fun _ _ _ _ _ _ hok hmore hp => hmore (hok hp).1

theorem keepsLeaf_build (hpath : Utf8.encode jsonEnding <:+ path.bytes)
    (hselected : Transform.selected s.rules path = [Transform.json]) (entry : String)
    (target : Path) (p : Progress) :
    KeepsLeaf path p (outcome (s.build entry target) p).1
      (outcome (s.build entry target) p).2 := by
  intro hp
  have hkeeps := keepsLeaf_buildModule hpath hselected entry (s.bound + 1) target p hp
  rcases hbuild : outcome (s.buildModule entry (s.bound + 1) target) p with ⟨e | ⟨⟩, q⟩
  · rw [hbuild] at hkeeps
    rw [build, outcome_bind_error hbuild]
    exact ⟨hkeeps.1, fun message he => hkeeps.2 message (congrArg _ (Except.error.inj he))⟩
  · rw [hbuild] at hkeeps
    rw [build, outcome_bind_ok hbuild]
    exact ⟨hkeeps.1, nofun⟩

theorem keepsLeaf_buildEntries (hpath : Utf8.encode jsonEnding <:+ path.bytes)
    (hselected : Transform.selected s.rules path = [Transform.json])
    {es : List (String × Path)} {r : Except BuildError (List Entry)} {p q : Progress}
    (h : outcome (es.mapM s.buildEntry) p = (r, q)) : KeepsLeaf path p r q := by
  induction es generalizing p r with
  | nil =>
    cases h
    exact fun hp => ⟨hp, nofun⟩
  | cons first more ih =>
    intro hp
    have hkeeps := keepsLeaf_buildModule hpath hselected first.1 (s.bound + 1) first.2 p hp
    obtain ⟨err, hbuild, rfl⟩ | ⟨p', rest, hbuild, hmore, rfl⟩ := buildEntries_cases h
    · rw [hbuild] at hkeeps
      exact ⟨hkeeps.1, fun message he => hkeeps.2 message (congrArg _ (Except.error.inj he))⟩
    · rw [hbuild] at hkeeps
      obtain ⟨hq, hrest⟩ := ih hmore hkeeps.1
      refine ⟨hq, fun message he => ?_⟩
      cases rest with
      | error err => exact hrest message (congrArg _ (Except.error.inj he))
      | ok rest => cases he

end Sources

namespace BuildConfig

variable {c : BuildConfig} {cwd path : Path} {files : Files}

theorem leafAt_empty (path : Path) : Graph.empty.LeafAt path := nofun

theorem compile_leafAt (hpath : Utf8.encode jsonEnding <:+ path.bytes)
    (hselected : Transform.selected c.rules path = [Transform.json]) :
    (c.compile cwd files).2.graph.LeafAt path ∧
      (∀ message, (c.compile cwd files).1 ≠ .error (.parse path message)) ∧
      ∀ report, (c.compile cwd files).1 = .ok report →
        report.modules = (c.compile cwd files).2.graph.modules := by
  by_cases hne : c.entries = []
  · rw [compile_of_empty hne]
    exact ⟨leafAt_empty path, nofun, nofun⟩
  rcases hbuild : outcome (c.buildEntries cwd files) (c.begun cwd) with ⟨r, q⟩
  obtain ⟨halike, hreport⟩ := alike_compile hne hbuild
  obtain ⟨hleaf, hparse⟩ := Sources.keepsLeaf_buildEntries hpath hselected
    (buildEntries_eq ▸ hbuild) (leafAt_empty path)
  refine ⟨halike.graph_eq ▸ hleaf, fun message he => ?_, fun report hr => ?_⟩
  · cases r with
    | error e =>
      rw [compile_of_error hne hbuild] at he
      exact hparse message (congrArg _ (Except.error.inj he))
    | ok entries =>
      obtain ⟨file, hfile, -⟩ := sharedFile_of_built hne hbuild (Prod.ext he rfl)
      cases hfile
  · rw [halike.graph_eq]
    exact (hreport report hr).2

theorem compile_document {name raw source : String} (hpath : Utf8.encode jsonEnding <:+ path.bytes)
    (hselected : Transform.selected c.rules path = [Transform.json])
    (hentries : c.entryPaths cwd = [(name, path)]) (hraw : files.read path = .ok raw)
    (hrun : Transform.json.run raw = .ok source) :
    ∃ report, (c.compile cwd files).1 = .ok report ∧
      report.modules.map Module.path = [path] := by
  have happly : Transform.apply c.rules path raw = .ok source := by
    rw [Transform.apply, hselected, List.reverse_singleton, Transform.runAll_singleton,
      Transform.attempt, hrun]
    rfl
  have hdraft : (c.sources cwd files).draft path = .ok ⟨⟨source, ⟨[], none⟩⟩, []⟩ :=
    Sources.draft_eq_ok.2 ⟨Sources.reading_eq_ok.2 ⟨raw, hraw, happly, scan_json hpath hrun _⟩, rfl⟩
  -- the source has no calls, so nothing is built but its module
  have hne : c.entries ≠ [] := by
    rintro hempty
    rw [entryPaths, hempty] at hentries
    cases hentries
  have hnew : (c.sources cwd files).name path ∉ (c.begun cwd).graph.names := List.not_mem_nil
  obtain ⟨q, hmodule, hmodules⟩ : ∃ q, outcome ((c.sources cwd files).buildModule name
      ((c.sources cwd files).bound + 1) path) (c.begun cwd) = (.ok ⟨⟩, q) ∧
        q.graph.modules.map Module.path = [path] := by
    refine ⟨_, Sources.outcome_buildModule_found hnew hdraft _, ?_⟩
    rw [Sources.graph_found, Graph.modules_insert hnew]
    rfl
  have hbuild : outcome (c.buildEntries cwd files) (c.begun cwd) =
      (.ok [(c.sources cwd files).entry (name, path)], q) := by
    rw [buildEntries_eq, hentries]
    have hnone : outcome (([] : List (String × Path)).mapM (c.sources cwd files).buildEntry) q =
        (.ok [], q) := rfl
    exact Sources.outcome_buildEntries_ok (e := (name, path)) hmodule hnone
  rcases compile_of_built hne hbuild with ⟨⟨p, hok⟩, -⟩ | ⟨-, hshared⟩
  · refine ⟨c.reportOn [(c.sources cwd files).entry (name, path)] q.graph, ?_, hmodules⟩
    rw [hok]
  · -- one entry has one output file
    refine absurd ?_ hshared
    cases hchunk : chunkOf q.graph ((c.sources cwd files).entry (name, path)) <;>
      simp [reportOn, hchunk]

/-- What becomes of a document, under a path that ends so, is read without a fault, and no call and
no line for the system's loader is found in it. So a file with such a path, whose one transform
makes a module of a document, never ends a build by its syntax, and is a leaf of every graph that a
build leaves, also of one that fails. -/
theorem json_leaves {path : Path} (hpath : Utf8.encode jsonEnding <:+ path.bytes) :
    (∀ text source, Transform.json.run text = .ok source →
      ∀ callee, scan callee (.ofPath path) source = .ok ⟨[], none⟩) ∧
    (∀ s : Sources, Transform.selected s.rules path = [Transform.json] →
      ∀ entry target p, p.graph.LeafAt path →
        (outcome (s.build entry target) p).2.graph.LeafAt path ∧
        ∀ message, (outcome (s.build entry target) p).1 ≠ .error (.parse path message)) ∧
    ∀ (c : BuildConfig) (cwd : Path) (files : Files),
      Transform.selected c.rules path = [Transform.json] →
        (c.compile cwd files).2.graph.LeafAt path ∧
        (∀ message, (c.compile cwd files).1 ≠ .error (.parse path message)) ∧
        ∀ report, (c.compile cwd files).1 = .ok report →
          ∀ m ∈ report.modules, m.path = path → m.dependencies = [] := by
  refine ⟨fun text source h callee => scan_json hpath h callee,
    fun s hselected entry target p => Sources.keepsLeaf_build hpath hselected entry target p,
    fun c cwd files hselected => ?_⟩
  obtain ⟨hleaf, hparse, hmodules⟩ := compile_leafAt (c := c) hpath hselected
  exact ⟨hleaf, hparse, fun report hr m hm => hleaf m (hmodules report hr ▸ hm)⟩

def callingDocument : Json := .array [.string "require('./gone')", .object [("a", .null)]]

def documentFiles : Memory :=
  .ofList [(.ofString "/app/data.json", "[\"require('./gone')\",\x7b\"a\":null\x7d]")]

def documentRule : Rule :=
  ⟨⟨"\\.json$", .cat (.set ⟨#[46, 47]⟩) (.cat (.set ⟨#[106, 107]⟩) (.cat (.set ⟨#[115, 116]⟩)
    (.cat (.set ⟨#[111, 112]⟩) (.cat (.set ⟨#[110, 111]⟩) (.look .textEnd)))))⟩, [.json]⟩

def documentConfig : BuildConfig :=
  { (new (.ofString "/app")).withEntry "main" (.ofString "data.json") with
    rules := [documentRule] }

theorem json_leaves_document :
    Utf8.encode jsonEnding <:+ (Path.ofString "/app/data.json").bytes ∧
    Transform.selected documentConfig.rules (.ofString "/app/data.json") = [.json] ∧
    ∃ report, (documentConfig.compile (.ofString "/") documentFiles.view).1 = .ok report ∧
      report.modules.map Module.path = [.ofString "/app/data.json"] ∧
      ∀ m ∈ report.modules, m.path = .ofString "/app/data.json" → m.dependencies = [] := by
  have hpath : Utf8.encode jsonEnding <:+ (Path.ofString "/app/data.json").bytes := by decide
  have happlies : documentRule.applies (.ofString "/app/data.json") = true := by decide +kernel
  have hselected : Transform.selected documentConfig.rules (.ofString "/app/data.json") =
      [.json] := by
    have hrules : documentConfig.rules.filter (·.applies (.ofString "/app/data.json")) =
        [documentRule] := List.filter_cons_of_pos happlies
    rw [Transform.selected, hrules]
    rfl
  have hentries : documentConfig.entryPaths (.ofString "/") =
      [("main", .ofString "/app/data.json")] := by
    decide +kernel
  have hraw : documentFiles.view.read (.ofString "/app/data.json") =
      .ok callingDocument.compactText := by
    have hread : (documentFiles.view.read (.ofString "/app/data.json")).toOption.map id =
        some callingDocument.compactText := by
      decide +kernel
    obtain ⟨text, htext, rfl⟩ := ok_of_toOption hread
    exact htext
  have hparse : Json.parse callingDocument.compactText = .ok callingDocument := by
    refine Json.parse_compactText (.array (by decide) fun v hv => ?_)
    simp only [List.mem_cons, List.not_mem_nil, or_false] at hv
    rcases hv with rfl | rfl
    · exact .string _ _
    · refine .object (by decide) fun m hm => ?_
      rw [List.mem_singleton.1 hm]
      exact .null _
  obtain ⟨report, hok, hmodules⟩ :=
    compile_document hpath hselected hentries hraw (Transform.json_run_of_parse hparse)
  exact ⟨hpath, hselected, report, hok, hmodules,
    ((json_leaves hpath).2.2 documentConfig (.ofString "/") documentFiles.view hselected).2.2
      report hok⟩

end BuildConfig

end ModuleBundler
