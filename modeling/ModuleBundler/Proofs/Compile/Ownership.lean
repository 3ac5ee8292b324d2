import ModuleBundler.FileSystem.Memory
import ModuleBundler.Proofs.Build.Ownership
import ModuleBundler.Proofs.Compile.Entries

/-! An entry owns exactly the modules that can be reached from its own: when all entries are built,
over one graph, ownership is reachability, and a chunk holds what its entry reaches. -/
namespace ModuleBundler

open ModuleBundler.Module (Owned Loads Reaches Grows)

namespace Graph

/-- No module lacks a dependency, and the entries that were built own exactly what they reach. -/
structure Owning (done : List Entry) (g : Graph) : Prop where
  complete : ∀ a b, Loads g.modules a b → b ∈ g.names
  root : ∀ e ∈ done, Owned g.modules e.name e.moduleId
  closed : ∀ e ∈ done, ∀ a b, Owned g.modules e.name a → Loads g.modules a b →
    Owned g.modules e.name b
  reached : ∀ e ∈ done, ∀ a, Owned g.modules e.name a → Reaches g.modules e.moduleId a
  owners : ∀ m ∈ g.modules, m.owners ≠ [] ∧ m.owners.Sublist (done.map Entry.name)

theorem Owning.empty : Owning [] .empty where
  complete _ _ h := absurd h.mem_names List.not_mem_nil
  root := by simp
  closed := by simp
  reached := by simp
  owners := by simp [Graph.empty]

theorem Owning.not_owned {done : List Entry} {g : Graph} (h : Owning done g) {name a : String}
    (hname : name ∉ done.map Entry.name) : ¬ Owned g.modules name a := by
  rintro ⟨m, hm, -, hmem⟩
  exact hname ((h.owners m hm).2.subset hmem)

theorem Owning.settled {done : List Entry} {g : Graph} (h : Owning done g) {name : String}
    (hname : name ∉ done.map Entry.name) : Settled name [] g where
  complete a b _ := h.complete a b
  closed _ _ _ ho := absurd ho (h.not_owned hname)
  begun_owned := by simp

theorem Owning.step {done : List Entry} {e : Entry} {g g' : Graph} (h : Owning done g)
    (hname : e.name ∉ done.map Entry.name) (hs : Serves e.name [e.moduleId] g g') :
    Owning (done ++ [e]) g' := by
  -- nothing is begun between two entries, and the new one owned nothing before
  have hsettled := hs.settled [] (h.settled hname)
  have hne : ∀ e' ∈ done, e'.name ≠ e.name := fun e' he' heq =>
    hname (heq ▸ List.mem_map_of_mem he')
  refine ⟨fun a b => hsettled.complete a b List.not_mem_nil, ?_, ?_, ?_, ?_⟩
  · intro e' he'
    rcases List.mem_append.1 he' with he' | he'
    · exact hs.grows.owned (h.root e' he')
    · obtain rfl := List.mem_singleton.1 he'
      exact hs.owned _ List.mem_cons_self
  · intro e' he' a b ho hl
    rcases List.mem_append.1 he' with he' | he'
    · have ho' := hs.grows.owned_of_ne (hne e' he') ho
      exact hs.grows.owned (h.closed e' he' a b ho'
        (hs.grows.loads_of_mem g'.names_nodup ho'.mem_names hl))
    · obtain rfl := List.mem_singleton.1 he'
      exact hsettled.closed a b List.not_mem_nil ho hl
  · intro e' he' a ho
    rcases List.mem_append.1 he' with he' | he'
    · exact hs.grows.reaches (h.reached e' he' a (hs.grows.owned_of_ne (hne e' he') ho))
    · obtain rfl := List.mem_singleton.1 he'
      rcases hs.reached a ho with ho | ⟨r, hr, hreach⟩
      · exact absurd ho (h.not_owned hname)
      · obtain rfl := List.mem_singleton.1 hr
        exact hreach
  · intro m' hm'
    rw [List.map_append, List.map_singleton]
    rcases hs.grows.mem_cases hm' with ⟨m, hm, hg⟩ | hnew
    · obtain ⟨hnil, hsub⟩ := h.owners m hm
      rcases hg.owners_eq with heq | ⟨-, heq⟩
      · exact heq ▸ ⟨hnil, hsub.trans (List.sublist_append_left ..)⟩
      · exact heq ▸ ⟨by simp, hsub.append (.refl _)⟩
    · rw [hnew]
      exact ⟨by simp, List.sublist_append_right ..⟩

theorem Owning.owned_iff {done : List Entry} {g : Graph} (h : Owning done g) {e : Entry}
    (he : e ∈ done) {a : String} : Owned g.modules e.name a ↔ Reaches g.modules e.moduleId a :=
  ⟨h.reached e he a, fun hr => hr.mem_of_closed (h.root e he) (h.closed e he)⟩

open Classical in
theorem Owning.chunkOf_eq {done : List Entry} {g : Graph} (h : Owning done g) {e : Entry}
    (he : e ∈ done) : ∃ m ∈ g.modules, m.id = e.moduleId ∧ BuildConfig.chunkOf g e =
      some ⟨e.name, m, g.modules.filter fun n => Reaches g.modules e.moduleId n.id⟩ := by
  cases hget : g.get? e.moduleId with
  | none => exact absurd (h.root e he).mem_names (get?_eq_none.1 hget)
  | some m =>
    obtain ⟨hm, hid⟩ := mem_of_get? hget
    refine ⟨m, hm, hid, ?_⟩
    rw [BuildConfig.chunkOf, hget, Option.map_some, chunk]
    congr 2
    refine List.filter_congr fun n hn => ?_
    rw [Bool.eq_iff_iff, decide_eq_true_iff, ← h.owned_iff he,
      Module.owned_iff_mem g.names_nodup hn]
    simp [Module.isOwnedBy]

open Classical in
theorem Owning.forall₂_chunks {done : List Entry} {g : Graph} (h : Owning done g) :
    ∀ es ⊆ done, List.Forall₂ (fun e chunk => chunk.name = e.name ∧
        chunk.modules = (g.modules.filter fun m => Reaches g.modules e.moduleId m.id) ∧
        (chunk.modules.map Module.id).Nodup ∧
        chunk.entryModule ∈ chunk.modules ∧ chunk.entryModule.id = e.moduleId)
      es (es.filterMap (BuildConfig.chunkOf g)) := by
  intro es hes
  induction es with
  | nil => exact .nil
  | cons e more ih =>
    obtain ⟨he, hmore⟩ := List.cons_subset.1 hes
    obtain ⟨m, hm, hid, hchunk⟩ := h.chunkOf_eq he
    rw [List.filterMap_cons_some hchunk]
    have hnd := g.names_nodup.sublist (List.Sublist.map Module.id (List.filter_sublist
      (p := fun n => Reaches g.modules e.moduleId n.id)))
    refine .cons ⟨rfl, rfl, hnd, List.mem_filter.2 ⟨hm, ?_⟩, hid⟩ (ih hmore)
    rw [decide_eq_true_iff, hid]
    exact .refl

theorem Owning.map_name_chunks {done : List Entry} {g : Graph} (h : Owning done g) :
    (done.filterMap (BuildConfig.chunkOf g)).map Chunk.name = done.map Entry.name := by
  have hchunks := h.forall₂_chunks done (List.Subset.refl done)
  generalize done.filterMap (BuildConfig.chunkOf g) = chunks at hchunks ⊢
  clear h
  induction hchunks with
  | nil => rfl
  | cons hchunk _ ih => rw [List.map_cons, List.map_cons, hchunk.1, ih]

end Graph

namespace BuildConfig

open ModuleBundler.Graph

variable {c : BuildConfig} {cwd : Path} {files : Files} {report : Report} {p : Progress}

theorem owning_step {done more : List (String × Path)} {e : String × Path} {p q : Progress}
    (hes : c.entryPaths cwd = done ++ e :: more)
    (hown : Owning (done.map (c.sources cwd files).entry) p.graph) {levels : Nat}
    (hbuild : Build.outcome ((c.sources cwd files).buildModule e.1 levels e.2) p = (.ok ⟨⟩, q)) :
    Owning ((done ++ [e]).map (c.sources cwd files).entry) q.graph := by
  rw [List.map_append, List.map_singleton]
  refine hown.step ?_ (Sources.serves_buildModule hbuild)
  have hnd := map_fst_entryPaths c cwd ▸ c.names_nodup
  rw [hes, List.map_append, List.map_cons, List.nodup_append] at hnd
  intro hmem
  obtain ⟨e', he', hname⟩ : ∃ e' ∈ done, e'.1 = e.1 := by
    simpa [Sources.entry] using hmem
  exact hnd.2.2 _ (List.mem_map_of_mem he') _ List.mem_cons_self hname

/-- Once all entries are built, they own what they should. -/
theorem owning_of_buildEntries {entries : List Entry} {q : Progress}
    (h : Build.outcome (c.buildEntries cwd files) (c.begun cwd) = (.ok entries, q)) :
    entries = (c.entryPaths cwd).map (c.sources cwd files).entry ∧
      Owning ((c.entryPaths cwd).map (c.sources cwd files).entry) q.graph := by
  rw [buildEntries_eq] at h
  exact Sources.buildEntries_invariant h
    (I := fun es g => Owning (es.map (c.sources cwd files).entry) g) .empty
    fun _ _ _ _ _ hes hown hbuild => owning_step hes hown hbuild

theorem owning_of_compile (h : c.compile cwd files = (.ok report, p)) :
    ∃ g, report = c.reportOn ((c.entryPaths cwd).map (c.sources cwd files).entry) g ∧
      Owning ((c.entryPaths cwd).map (c.sources cwd files).entry) g := by
  obtain ⟨-, entries, q, hbuild, rfl, -⟩ := built_of_compile h
  obtain ⟨rfl, hown⟩ := owning_of_buildEntries hbuild
  exact ⟨q.graph, rfl, hown⟩

theorem map_fst_assets {g : Graph}
    (hown : Owning ((c.entryPaths cwd).map (c.sources cwd files).entry) g) :
    (c.reportOn ((c.entryPaths cwd).map (c.sources cwd files).entry) g).assets.map Prod.fst =
      c.entries.map fun e => c.output.fileFor e.1 := by
  have hnames := congrArg (List.map c.output.fileFor)
    (hown.map_name_chunks.trans (map_name_entries c cwd files))
  rw [List.map_map, List.map_map] at hnames
  exact (List.map_map ..).trans hnames

theorem compile_of_files (hne : c.entries ≠ []) {entries : List Entry} {q : Progress}
    (hbuild : Build.outcome (c.buildEntries cwd files) (c.begun cwd) = (.ok entries, q)) :
    (∃ p, c.compile cwd files = (.ok (c.reportOn entries q.graph), p)) ∧
        (c.entries.map fun e => c.output.fileFor e.1).Nodup ∨
      (∃ file p, c.compile cwd files = (.error (.config (.sharedFile file)), p)) ∧
        ¬ (c.entries.map fun e => c.output.fileFor e.1).Nodup := by
  obtain ⟨rfl, hown⟩ := owning_of_buildEntries hbuild
  rw [← map_fst_assets hown]
  exact compile_of_built hne hbuild

open Classical in
/-- Ownership is reachability. A report lists every dependency. Its entries own the modules that
can be reached from theirs, and are listed in their configured order. Their chunks hold these
modules, each once and in the order of the report. -/
theorem compile_owners_iff_reaches (h : c.compile cwd files = (.ok report, p)) :
    report.entries = (c.entryPaths cwd).map (fun e => ⟨e.1, Path.moduleId (c.root cwd) e.2⟩) ∧
    (report.modules.map Module.id).Nodup ∧
    (∀ m ∈ report.modules, ∀ d ∈ m.dependencies, d ∈ report.modules.map Module.id) ∧
    (∀ m ∈ report.modules, ∀ e ∈ report.entries,
      e.name ∈ m.owners ↔ Reaches report.modules e.moduleId m.id) ∧
    (∀ m ∈ report.modules, m.owners ≠ [] ∧ m.owners.Sublist (c.entries.map Prod.fst)) ∧
    List.Forall₂ (fun e chunk => chunk.name = e.name ∧
        chunk.modules = (report.modules.filter fun m => Reaches report.modules e.moduleId m.id) ∧
        (chunk.modules.map Module.id).Nodup ∧
        chunk.entryModule ∈ chunk.modules ∧ chunk.entryModule.id = e.moduleId)
      report.entries report.chunks := by
  obtain ⟨g, rfl, hown⟩ := owning_of_compile h
  refine ⟨rfl, g.names_nodup, ?_, ?_, ?_, hown.forall₂_chunks _ (List.Subset.refl _)⟩
  · exact fun m hm d hd => hown.complete m.id d ⟨m, hm, rfl, hd⟩
  · intro m hm e he
    exact (Module.owned_iff_mem g.names_nodup hm e.name).symm.trans (hown.owned_iff he)
  · intro m hm
    exact map_name_entries c cwd files ▸ hown.owners m hm

def sampleFiles : Memory :=
  .ofList [(.ofString "/app/a.js", "require('./b'); require('./u');"),
    (.ofString "/app/b.js", "require('./u.js');"), (.ofString "/app/u.js", "require('./v');"),
    (.ofString "/app/v.js", "require('./u');")]

def sampleConfig : BuildConfig :=
  ((((new (.ofString "/app")).withEntry "main" (.ofString "a.js")).withEntry "side"
    (.ofString "./b.js")).withEntry "again" (.ofString "a.js")).withEntry "lone" (.ofString "v.js")

theorem ok_of_toOption {ε α β : Type} {r : Except ε α} {f : α → β} {b : β}
    (h : r.toOption.map f = some b) : ∃ a, r = .ok a ∧ f a = b := by
  cases r with
  | error e => cases h
  | ok a => exact ⟨a, rfl, Option.some.inj h⟩

theorem report_of_toOption {α : Type} {f : Report → α} {a : α}
    (h : (c.compile cwd files).1.toOption.map f = some a) :
    ∃ report p, c.compile cwd files = (.ok report, p) ∧ f report = a := by
  obtain ⟨report, hok, hf⟩ := ok_of_toOption h
  exact ⟨report, _, Prod.ext hok rfl, hf⟩

theorem compile_owners_sample :
    ∃ report p, sampleConfig.compile (.ofString "/") sampleFiles.view = (.ok report, p) ∧
      (report.modules.map fun m => (m.id, m.owners)) =
        [("./a.js", ["main", "again"]), ("./b.js", ["main", "side", "again"]),
          ("./u.js", ["main", "side", "again", "lone"]),
          ("./v.js", ["main", "side", "again", "lone"])] ∧
      ∀ m ∈ report.modules, ∀ e ∈ report.entries,
        e.name ∈ m.owners ↔ Reaches report.modules e.moduleId m.id := by
  have howners : (sampleConfig.compile (.ofString "/") sampleFiles.view).1.toOption.map
      (fun r => r.modules.map fun m => (m.id, m.owners)) =
        some [("./a.js", ["main", "again"]), ("./b.js", ["main", "side", "again"]),
          ("./u.js", ["main", "side", "again", "lone"]),
          ("./v.js", ["main", "side", "again", "lone"])] := by
    decide +kernel
  obtain ⟨report, p, h, howners⟩ := report_of_toOption howners
  exact ⟨report, p, h, howners, (compile_owners_iff_reaches h).2.2.2.1⟩

end BuildConfig

end ModuleBundler
