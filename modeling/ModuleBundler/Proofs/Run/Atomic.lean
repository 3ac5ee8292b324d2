import ModuleBundler.Proofs.Compile.Ownership
import ModuleBundler.Proofs.Run.Registered

/-! A run changes nothing or writes all its output: the files and directories stay as they are until
every asset has been made, and what is written then is the output alone. The call-backs are called
once each, in the order in which they were added. -/
namespace ModuleBundler

namespace Memory

variable {directory path : Path} {assets : List (String × String)} {m : Memory}

theorem get?_withFiles_of_ne
    (h : ∀ a ∈ assets, path.components ≠ (directory.join (.ofString a.1)).components) :
    (m.withFiles directory assets).get? path = m.get? path := by
  rw [get?_withFiles, List.find?_eq_none.2, Option.map_none, Option.none_or]
  intro a ha
  simpa using (h a (List.mem_reverse.1 ha)).symm

@[simp] theorem directories_withFiles (directory : Path) (assets : List (String × String))
    (m : Memory) : (m.withFiles directory assets).directories = m.directories := by
  induction assets generalizing m with
  | nil => rfl
  | cons a more ih => exact ih (m.insert (directory.join (.ofString a.1)) a.2)

theorem mem_directories_withDirectory {d : List Component}
    (h : d ∈ (m.withDirectory directory).directories) :
    d ∈ m.directories ∨ d = directory.components := by
  unfold withDirectory at h
  split at h
  · exact .inl h
  · exact Keyed.mem_addNew.1 h

theorem directories_subset_withDirectory (directory : Path) (m : Memory) :
    m.directories ⊆ (m.withDirectory directory).directories := by
  unfold withDirectory
  split
  · exact List.Subset.refl _
  · exact fun d hd => Keyed.mem_addNew.2 (.inl hd)

end Memory

namespace Compiler

variable {ω : Type} {config : BuildConfig} {current : Except IoCause Path}
  {added : List (HookPoint × Tap ω)} {c : Compiler ω}

theorem Registers.at_eq (h : Registers (.new config current) added c) (point : HookPoint) :
    c.hooks.at_ point = Tap.at_ point added := by
  rw [h.hooks_eq, Hooks.at_tapAll]
  cases point <;> rfl

theorem Registers.compile_eq (h : Registers (.new config current) added c) (files : Files) :
    c.compile files = config.compileIn current files := by
  rw [Compiler.compile, h.config_eq, h.current_eq]
  rfl

theorem files_eq {cwd : Path} {files : Files} {report : Report}
    (h : (config.compile cwd files).1 = .ok report) :
    report.files = report.assets.map Prod.fst := by
  obtain ⟨-, entries, q, -, rfl, -⟩ := BuildConfig.built_of_compile (Prod.ext h rfl)
  rfl

/-- A run comes to what the compilation of the files as they were comes to. If it fails, files and
directories are as before, and the call-backs for its start have been called. If it succeeds, those
for its start, for the output and for its end have been, once each and in the order in which they
were added; no path has another content that is not an output file, and there is no new directory
but the one for the output. -/
theorem run_all_or_nothing (h : Registers (.new config current) added c) (m : Memory) (world : ω) :
    (c.run m world).1 = (config.compileIn current m.view).1 ∧
    (∀ e s, c.run m world = (.error e, s) →
      s.store = m ∧ s.world = Hooks.worldAfter (Tap.at_ .run added) world) ∧
    ∀ report s, c.run m world = (.ok report, s) → ∃ cwd, config.origin current = .ok cwd ∧
      s.world = Hooks.worldAfter
        (Tap.at_ .run added ++ Tap.at_ .emit added ++ Tap.at_ .done added) world ∧
      (∀ path : Path, (∀ file ∈ report.files,
          path.components ≠ ((config.outputDirectory cwd).join (.ofString file)).components) →
        s.store.get? path = m.get? path) ∧
      m.directories ⊆ s.store.directories ∧
      ∀ d ∈ s.store.directories,
        d ∈ m.directories ∨ d = (config.outputDirectory cwd).components := by
  have hsame : (c.compile m.view).1 = (config.compileIn current m.view).1 := by rw [h.compile_eq]
  refine ⟨(run_fst c m world).trans hsame, fun e s hrun => ?_, fun report s hrun => ?_⟩
  · obtain rfl := state_of_run_error hrun
    rw [world_compiled, world_announced, h.at_eq]
    exact ⟨rfl, rfl⟩
  · obtain ⟨cwd, horigin, hcompile, rfl⟩ := state_of_run_ok hrun
    have hfiles := files_eq hcompile
    obtain rfl : c.config = config := h.config_eq
    rw [h.current_eq] at horigin
    rw [world_finished, store_finished, h.at_eq, h.at_eq, h.at_eq, Memory.directories_withFiles]
    refine ⟨cwd, horigin, rfl, fun path hpath => ?_, Memory.directories_subset_withDirectory ..,
      fun d => Memory.mem_directories_withDirectory⟩
    rw [hfiles] at hpath
    -- a path that is no output file is passed over by each file that is written
    rw [Memory.get?_withFiles_of_ne fun a ha => hpath a.1 (List.mem_map_of_mem ha),
      Memory.get?_withDirectory]

def recorder (name : String) : Tap (List String) := ⟨name, fun w => (w ++ [name], [])⟩

def listener (name : String) : Plugin (List String) :=
  .ofTaps name [(.done, recorder (name ++ ":done")), (.run, recorder (name ++ ":run"))]

def watched (config : BuildConfig) : Compiler (List String) :=
  (((((new config (.ok (.ofString "/"))).tap .done (recorder "first")).withPlugin
    (listener "p")).tap .run (recorder "second")).tap .emit (recorder "third")).withPlugin
    (listener "q")

theorem registers_watched (config : BuildConfig) :
    Registers (new config (.ok (.ofString "/"))) [(.done, recorder "first"),
      (.done, recorder "p:done"), (.run, recorder "p:run"), (.run, recorder "second"),
      (.emit, recorder "third"), (.done, recorder "q:done"), (.run, recorder "q:run")]
      (watched config) :=
  ((((Registers.nil.tap .done (recorder "first")).plugin (listener "p") _ rfl).tap .run
    (recorder "second")).tap .emit (recorder "third")).plugin (listener "q") _ rfl

/-- A run that succeeds, and one that fails when an entry is missing. -/
theorem run_watched_sample :
    (∃ report s, (watched BuildConfig.sampleConfig).run BuildConfig.sampleFiles [] =
        (.ok report, s) ∧
      s.world = ["p:run", "second", "q:run", "third", "first", "p:done", "q:done"] ∧
      s.store.get? (.ofString "/app/a.js") = BuildConfig.sampleFiles.get? (.ofString "/app/a.js") ∧
      ∀ d ∈ s.store.directories, d = (Path.ofString "/app/dist").components) ∧
    ∃ e s, (watched (BuildConfig.sampleConfig.withEntry "gone" (.ofString "w.js"))).run
        BuildConfig.sampleFiles [] = (.error e, s) ∧
      s.world = ["p:run", "second", "q:run"] ∧ s.store = BuildConfig.sampleFiles := by
  have horigin : BuildConfig.sampleConfig.origin (.ok (.ofString "/")) = .ok (.ofString "/app") :=
    if_pos (by decide)
  constructor
  · have hfiles : (BuildConfig.sampleConfig.compile (.ofString "/app")
        BuildConfig.sampleFiles.view).1.toOption.map Report.files =
        some ["main.js", "side.js", "again.js", "lone.js"] := by
      decide +kernel
    obtain ⟨report, hok, hfiles⟩ := BuildConfig.ok_of_toOption hfiles
    obtain ⟨hsame, -, hafter⟩ := run_all_or_nothing (registers_watched BuildConfig.sampleConfig)
      BuildConfig.sampleFiles []
    obtain ⟨s, hrun⟩ :=
      exists_run_eq (hsame.trans (BuildConfig.compileIn_of_origin horigin ▸ hok))
    obtain ⟨cwd, hcwd, hworld, hcontent, -, hdirectories⟩ := hafter report s hrun
    obtain rfl := Except.ok.inj (horigin.symm.trans hcwd)
    refine ⟨report, s, hrun, hworld.trans (by decide +kernel), hcontent _ ?_, fun d hd => ?_⟩
    · rw [hfiles]
      decide +kernel
    · obtain hold | hnew := hdirectories d hd
      · cases hold
      · exact hnew.trans (by decide +kernel)
  · have hfails : ((BuildConfig.sampleConfig.withEntry "gone" (.ofString "w.js")).compileIn
        (.ok (.ofString "/")) BuildConfig.sampleFiles.view).1.toOption.isNone = true := by
      decide +kernel
    obtain ⟨hsame, hbefore, -⟩ := run_all_or_nothing (registers_watched
      (BuildConfig.sampleConfig.withEntry "gone" (.ofString "w.js"))) BuildConfig.sampleFiles []
    cases hcompile : ((BuildConfig.sampleConfig.withEntry "gone" (.ofString "w.js")).compileIn
        (.ok (.ofString "/")) BuildConfig.sampleFiles.view).1 with
    | error e =>
      obtain ⟨s, hrun⟩ := exists_run_eq (hsame.trans hcompile)
      obtain ⟨hstore, hworld⟩ := hbefore e s hrun
      exact ⟨e, s, hrun, hworld.trans (by decide +kernel), hstore⟩
    | ok report =>
      rw [hcompile] at hfails
      cases hfails

end Compiler

end ModuleBundler
