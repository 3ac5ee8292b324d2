import ModuleBundler.Proofs.Compile.Assets
import ModuleBundler.Proofs.Runtime.Script
import ModuleBundler.Proofs.Text.Literal

/-! Every script of a report runs to its end: its registry has whatever its modules call for, so
that no call misses, and the loader starts each module once at most. -/
namespace ModuleBundler

variable {ω ν : Type}

namespace Runtime

theorem Body.CallsOnly.mono {ids ids' : List String} (h : ids ⊆ ids') {b : Body ω ν}
    (hb : b.CallsOnly ids) : b.CallsOnly ids' := by
  induction hb with
  | done => exact .done
  | work _ ih => exact .work ih
  | load hid _ ih => exact .load (h hid) ih

theorem Sound.empty (ids : List String) (world : ω) : Sound ids (⟨world, [], []⟩ : Store ω) where
  starts := rfl
  nodup := .nil
  known := by simp
  returned := by simp
  prompt := by simp

theorem execute_ends {c : Chunk} (hnd : (c.modules.map Module.id).Nodup)
    (hentry : c.entryModule ∈ c.modules) (host : Host ω ν) {bodies : Module → Nat → Body ω ν}
    (hbodies : ∀ m ∈ c.modules, ∀ record,
      (bodies m record).CallsOnly (c.modules.map Module.id)) (world : ω) :
    ∃ final, (∀ levels ≥ c.modules.length, execute host c bodies levels world = pure final) ∧
      Sound (c.modules.map Module.id) final ∧
      c.entryModule.id ∈ final.cache.map Prod.fst := by
  have hfew : unstarted (c.modules.map Module.id) [] ≤ c.modules.length :=
    Nat.le_trans (List.length_filter_le ..) (Nat.le_of_eq (List.length_map _))
  obtain ⟨v, final, hload, hfinal, -, hstarted⟩ :=
    ends_load host hnd hbodies c.modules.length _ c.entryModule.id
      (Sound.empty _ world) hfew (List.mem_map_of_mem hentry)
  refine ⟨final, fun levels hlevels => ?_, hfinal, hstarted⟩
  rw [execute, hload levels hlevels]
  rfl

theorem not_inherited_moduleId (root path : Path) :
    Path.moduleId root path ∉ Machine.inheritedKeys := by
  intro h
  have hhead : (Path.moduleId root path).toList.head? = some '.' := by simp [Path.moduleId]
  have hother : ∀ key ∈ Machine.inheritedKeys, key.toList.head? ≠ some '.' := by decide
  exact hother _ h hhead

end Runtime

namespace Chunk

open Script

/-- What a script says that does not depend on the sources: its cache, its loader and the call that
starts the entry are read so wherever they stand, and each function of the registry has the name of
its module for its key, whatever the function is. -/
structure FrameSays (c : Chunk) : Prop where
  cache : ∀ n, Spells (n + 7) true Chunk.cache.toList [Eq cacheCode]
  loader : ∀ n, Spells (n + 19) true Chunk.loader.toList [Eq loaderCode]
  start : ∀ n, Spells (n + 18) true (Chunk.start c.entryModule.id).toList
    [Eq (startCode c.entryModule.id)]
  keys : ∀ m ∈ c.modules, ∀ rest, keyAt? ((member m).toList ++ rest) = some m.id

theorem frameSays (c : Chunk) : c.FrameSays where
  cache _ := spells_cache
  loader _ := spells_loader
  start _ := spells_start _
  keys m _ rest := keyAt?_member m rest

end Chunk

namespace Runtime

/-- With levels enough, a script runs to the end that the loader comes to. -/
def RunsTo (host : Host ω ν) (c : Chunk) (bodies : Module → Nat → Body ω ν)
    (code : List Script.Code) (world : ω) (final : Store ω) : Prop :=
  ∀ levels ≥ c.modules.length, ∃ M,
    runScript host (byName c.modules bodies) (2 * levels + 4) code world = pure M ∧
      Follows c.modules M final

end Runtime

namespace BuildConfig

open ModuleBundler.Runtime Script

variable {c : BuildConfig} {cwd : Path} {files : Files} {report : Report} {p : Progress}

theorem chunk_closed (h : c.compile cwd files = (.ok report, p)) {chunk : Chunk}
    (hchunk : chunk ∈ report.chunks) :
    (chunk.modules.map Module.id).Nodup ∧ chunk.entryModule ∈ chunk.modules ∧
      ∀ m ∈ chunk.modules, m.dependencies ⊆ chunk.modules.map Module.id := by
  classical
  obtain ⟨g, rfl, hown⟩ := owning_of_compile h
  obtain ⟨e, he, hof⟩ := List.mem_filterMap.1 hchunk
  obtain ⟨root, hroot, hid, hof'⟩ := hown.chunkOf_eq he
  obtain rfl := Option.some.inj (hof'.symm.trans hof)
  refine ⟨g.names_nodup.sublist (List.filter_sublist.map _), ?_, ?_⟩
  · exact List.mem_filter.2 ⟨hroot, decide_eq_true (hid ▸ .refl)⟩
  · intro m hm d hd
    obtain ⟨hmem, hreach⟩ := List.mem_filter.1 hm
    have hloads : Module.Loads g.modules m.id d := ⟨m, hmem, rfl, hd⟩
    obtain ⟨n, hn, rfl⟩ := List.mem_map.1 (hown.complete m.id d hloads)
    refine List.mem_map_of_mem (List.mem_filter.2 ⟨hn, decide_eq_true ?_⟩)
    exact (of_decide_eq_true hreach).tail hloads

theorem mem_of_mem_chunk (h : c.compile cwd files = (.ok report, p)) {chunk : Chunk}
    (hchunk : chunk ∈ report.chunks) : ∀ m ∈ chunk.modules, m ∈ report.modules := by
  obtain ⟨g, rfl, hown⟩ := owning_of_compile h
  obtain ⟨e, -, he⟩ := List.mem_filterMap.1 hchunk
  exact fun m hm => (sublist_of_chunkOf he).subset hm

theorem not_inherited_of_compile (h : c.compile cwd files = (.ok report, p)) {m : Module}
    (hm : m ∈ report.modules) : m.id ∉ Machine.inheritedKeys := by
  obtain ⟨d, hd⟩ := (covers_of_compile h).gives m hm
  rw [hd.id_eq]
  exact not_inherited_moduleId _ _

/-- Running the script of a chunk comes to an end and no call misses the registry, as long as each
module calls the loader for its dependencies only. Modules of the chunk are started, each once at
most, and the entry's is. Calls return the record that the module was started with, and a call for
a module that was started before returns at once.

That is what the text of the script does. Its loader and the call that starts the entry are read as
the functions that they spell out, and around any functions for the modules they run with the same
events to the same world, with the same records in the cache. The whole is read as such a script, in
which each module has a function under its name and with its source as the body, if the name of the
chunk stands on one line and every source can be the body of a function. -/
theorem compile_execute_ends (h : c.compile cwd files = (.ok report, p)) {chunk : Chunk}
    (hchunk : chunk ∈ report.chunks) (host : Host ω ν) (bodies : Module → Nat → Body ω ν)
    (hbodies : ∀ m ∈ chunk.modules, ∀ record, (bodies m record).CallsOnly m.dependencies)
    (world : ω) :
    ∃ final,
      (∀ levels ≥ chunk.modules.length, execute host chunk bodies levels world = pure final) ∧
      ((final.trace.filterMap Event.start?).map Prod.fst).Nodup ∧
      (∀ id record, .started id record ∈ final.trace → id ∈ chunk.modules.map Module.id) ∧
      (∃ record, .started chunk.entryModule.id record ∈ final.trace) ∧
      (∀ id record, .returned id record ∈ final.trace → .started id record ∈ final.trace) ∧
      (∀ before after id record, final.trace = before ++ .called id :: after →
        .started id record ∈ before → ∃ rest, after = .returned id record :: rest) ∧
      chunk.FrameSays ∧
      (∀ members, Members chunk.modules members →
        RunsTo host chunk bodies [Chunk.scriptCode members chunk.entryModule.id] world final) ∧
      ((∀ d ∈ chunk.name.toList, isLineBreak d = false) →
        (∀ m ∈ chunk.modules, ReadsAsBody (Chunk.body m).toList) →
        ∃ program code, Program.read .script chunk.script.toList = .ok program ∧
          program.code = [code] ∧ chunk.ScriptSays code ∧
          RunsTo host chunk bodies program.code world final) := by
  obtain ⟨hnd, hentry, hclosed⟩ := chunk_closed h hchunk
  obtain ⟨final, hrun, hfinal, hstarted⟩ := execute_ends hnd hentry host
    (fun m hm record => (hbodies m hm record).mono (hclosed m hm)) world
  have hids : ∀ m ∈ chunk.modules, m.id ∉ Machine.inheritedKeys := fun m hm =>
    not_inherited_of_compile h (mem_of_mem_chunk h hchunk m hm)
  have hmembers : ∀ members, Members chunk.modules members →
      RunsTo host chunk bodies [Chunk.scriptCode members chunk.entryModule.id] world final :=
    fun _ hmembers levels hlevels => runScript_eq hnd hids hmembers (hrun levels hlevels)
  refine ⟨final, hrun, hfinal.starts ▸ hfinal.nodup, ?_, ?_, ?_, hfinal.prompt, chunk.frameSays,
    hmembers, ?_⟩
  · exact fun id record hmem =>
      hfinal.known (List.mem_map_of_mem ((started_mem_iff hfinal).1 hmem))
  · obtain ⟨⟨id, record⟩, hmem, rfl⟩ := List.mem_map.1 hstarted
    exact ⟨record, (started_mem_iff hfinal).2 hmem⟩
  · exact fun id record hmem => (started_mem_iff hfinal).2 (hfinal.returned id record hmem)
  · intro hname hreads
    obtain ⟨program, code, hread, hcode, members, hsays, rfl⟩ := Chunk.read_script hname hreads
    have hshape : Members chunk.modules members := hsays.imp fun _ _ ⟨tree, _, hc⟩ => ⟨tree, hc⟩
    exact ⟨program, _, hread, hcode, ⟨members, hsays, rfl⟩, hcode ▸ hmembers members hshape⟩

def sampleHost : Host (List Bool) Bool where
  create _ w := w ++ [false]
  exports record w := w.getD record false

def insist (last : Body ω Bool) : List String → Body ω Bool
  | [] => last
  | id :: more =>
    .load id fun ended => if ended then insist last more else .load id fun _ => insist last more

theorem callsOnly_insist {ids : List String} {last : Body ω Bool} (hlast : last.CallsOnly ids)
    {calls : List String} (hcalls : calls ⊆ ids) : (insist last calls).CallsOnly ids := by
  induction calls with
  | nil => exact hlast
  | cons id more ih =>
    obtain ⟨hid, hmore⟩ := List.cons_subset.1 hcalls
    refine .load hid fun ended => ?_
    cases ended with
    | true => exact ih hmore
    | false => exact .load hid fun _ => ih hmore

theorem sample_substituted :
    Substituted 0 "require('./b'); require('./u');".toList
      [⟨⟨0, 7⟩, loaderName⟩, ⟨⟨8, 13⟩, "\"./b.js\""⟩, ⟨⟨16, 23⟩, loaderName⟩,
        ⟨⟨24, 29⟩, "\"./u.js\""⟩]
      ([] ++ loaderName.toList ++ ("(".toList ++ "\"./b.js\"".toList ++
        ("); ".toList ++ loaderName.toList ++ ("(".toList ++ "\"./u.js\"".toList ++
          ");".toList)))) ∧
    Substituted 0 "require('./u.js');".toList [⟨⟨0, 7⟩, loaderName⟩, ⟨⟨8, 16⟩, "\"./u.js\""⟩]
      ([] ++ loaderName.toList ++ ("(".toList ++ "\"./u.js\"".toList ++ ");".toList)) ∧
    Substituted 0 "require('./v');".toList [⟨⟨0, 7⟩, loaderName⟩, ⟨⟨8, 13⟩, "\"./v.js\""⟩]
      ([] ++ loaderName.toList ++ ("(".toList ++ "\"./v.js\"".toList ++ ");".toList)) ∧
    Substituted 0 "require('./u');".toList [⟨⟨0, 7⟩, loaderName⟩, ⟨⟨8, 13⟩, "\"./u.js\""⟩]
      ([] ++ loaderName.toList ++ ("(".toList ++ "\"./u.js\"".toList ++ ");".toList)) := by
  have hname : "require".toList ≠ [] := by decide
  refine ⟨?_, ?_, ?_, ?_⟩
  · exact .cons [] hname loaderName <|
      .cons "(".toList (show "'./b'".toList ≠ [] by decide) "\"./b.js\"" <|
        .cons "); ".toList hname loaderName <|
          .cons "(".toList (show "'./u'".toList ≠ [] by decide) "\"./u.js\"" <| .nil _ ");".toList
  · exact .cons [] hname loaderName <|
      .cons "(".toList (show "'./u.js'".toList ≠ [] by decide) "\"./u.js\"" <| .nil _ ");".toList
  · exact .cons [] hname loaderName <|
      .cons "(".toList (show "'./v'".toList ≠ [] by decide) "\"./v.js\"" <| .nil _ ");".toList
  · exact .cons [] hname loaderName <|
      .cons "(".toList (show "'./u'".toList ≠ [] by decide) "\"./u.js\"" <| .nil _ ");".toList

theorem sample_readsAsBody (h : sampleConfig.compile (.ofString "/") sampleFiles.view =
      (.ok report, p)) (hpaths : report.modules.map Module.path = [.ofString "/app/a.js",
        .ofString "/app/b.js", .ofString "/app/u.js", .ofString "/app/v.js"]) :
    ∀ m ∈ report.modules, ReadsAsBody (Chunk.body m).toList := by
  obtain ⟨ha, hb, hu, hv⟩ := sample_substituted
  intro m hm
  have hpath : m.path ∈ report.modules.map Module.path := List.mem_map_of_mem hm
  rw [hpaths] at hpath
  simp only [List.mem_cons, List.not_mem_nil, or_false] at hpath
  rcases hpath with hpath | hpath | hpath | hpath
  · exact readsAsBody_of_draft h hm (by rw [hpath]; decide +kernel) ha ["./b.js", "./u.js"]
      (by decide +kernel)
  · exact readsAsBody_of_draft h hm (by rw [hpath]; decide +kernel) hb ["./u.js"]
      (by decide +kernel)
  · exact readsAsBody_of_draft h hm (by rw [hpath]; decide +kernel) hu ["./v.js"]
      (by decide +kernel)
  · exact readsAsBody_of_draft h hm (by rw [hpath]; decide +kernel) hv ["./u.js"]
      (by decide +kernel)

theorem compile_execute_sample :
    ∃ report p, sampleConfig.compile (.ofString "/") sampleFiles.view = (.ok report, p) ∧
      (report.chunks.map fun chunk => chunk.modules.map Module.id) =
        [["./a.js", "./b.js", "./u.js", "./v.js"], ["./b.js", "./u.js", "./v.js"],
          ["./a.js", "./b.js", "./u.js", "./v.js"], ["./u.js", "./v.js"]] ∧
      ∀ chunk ∈ report.chunks, ∃ final, execute sampleHost chunk (fun m record =>
          insist (.work (fun w => w.set record true) fun _ => .done) m.dependencies) 4 [] =
            pure final ∧
        ((final.trace.filterMap Event.start?).map Prod.fst).Nodup ∧
        ∃ program M, Program.read .script chunk.script.toList = .ok program ∧
          runScript sampleHost (byName chunk.modules fun m record =>
            insist (.work (fun w => w.set record true) fun _ => .done) m.dependencies) 12
              program.code [] = pure M ∧ M.trace = final.trace := by
  have hreport : (sampleConfig.compile (.ofString "/") sampleFiles.view).1.toOption.map
      (fun r => (r.chunks.map fun chunk => chunk.modules.map Module.id,
        r.modules.map Module.path, r.chunks.all fun chunk => chunk.name.toList.all fun d =>
          !isLineBreak d)) =
        some ([["./a.js", "./b.js", "./u.js", "./v.js"], ["./b.js", "./u.js", "./v.js"],
          ["./a.js", "./b.js", "./u.js", "./v.js"], ["./u.js", "./v.js"]],
          [.ofString "/app/a.js", .ofString "/app/b.js", .ofString "/app/u.js",
            .ofString "/app/v.js"], true) := by
    decide +kernel
  obtain ⟨report, p, h, hreport⟩ := report_of_toOption hreport
  obtain ⟨hids, hmore⟩ := Prod.mk.inj hreport
  obtain ⟨hpaths, hnames⟩ := Prod.mk.inj hmore
  refine ⟨report, p, h, hids, fun chunk hchunk => ?_⟩
  have hfew : chunk.modules.length ≤ 4 := by
    have hmem := hids ▸ List.mem_map_of_mem hchunk
    rw [← List.length_map Module.id]
    simp only [List.mem_cons, List.not_mem_nil, or_false] at hmem
    rcases hmem with heq | heq | heq | heq <;> simp [heq]
  have hname : ∀ d ∈ chunk.name.toList, isLineBreak d = false := by
    simpa using List.all_eq_true.1 hnames chunk hchunk
  obtain ⟨final, hrun, hnd, -, -, -, -, -, -, hread⟩ := compile_execute_ends h hchunk sampleHost _
    (fun m _ record => callsOnly_insist (.work fun _ => .done) (List.Subset.refl m.dependencies)) []
  obtain ⟨program, -, hprogram, -, -, hruns⟩ := hread hname fun m hm =>
    sample_readsAsBody h hpaths m (mem_of_mem_chunk h hchunk m hm)
  obtain ⟨M, hM, hfollows⟩ := hruns 4 hfew
  exact ⟨final, hrun 4 hfew, hnd, program, M, hprogram, hM, hfollows.trace_eq⟩

end BuildConfig

end ModuleBundler
