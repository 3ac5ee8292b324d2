import ModuleBundler.Compiler
import ModuleBundler.FileSystem.Memory
import ModuleBundler.Proofs.Build.Outcome
import ModuleBundler.Proofs.Compile.Success

/-! What the steps of a run come to. A run that fails to compile has written nothing; over a memory
every write succeeds, so a run fails only in this way. -/
namespace ModuleBundler

open Build

namespace Memory

def withDirectory (directory : Path) (m : Memory) : Memory :=
  if m.directoryExists directory then m else m.createDirectory directory

def withFiles (directory : Path) (assets : List (String × String)) (m : Memory) : Memory :=
  assets.foldl (fun m a => m.insert (directory.join (.ofString a.1)) a.2) m

theorem files_eq_view (m : Memory) : FileSystem.files m = m.view := rfl

@[simp] theorem get?_withDirectory (directory path : Path) (m : Memory) :
    (m.withDirectory directory).get? path = m.get? path := by
  unfold withDirectory
  split
  · rfl
  · exact m.get?_createDirectory directory path

theorem files_withFiles (directory : Path) (assets : List (String × String)) (m : Memory) :
    (m.withFiles directory assets).files =
      (assets.map fun a => ((directory.join (.ofString a.1)).components, a.2)).foldl
        (fun files f => Keyed.put f.1 f.2 files) m.files := by
  rw [List.foldl_map]
  exact (List.foldl_hom Memory.files fun _ _ => rfl).symm

theorem get?_withFiles (directory : Path) (assets : List (String × String)) (m : Memory)
    (path : Path) :
    (m.withFiles directory assets).get? path =
      ((assets.reverse.find? fun a => decide
        ((directory.join (.ofString a.1)).components = path.components)).map Prod.snd).or
          (m.get? path) := by
  rw [get?, files_withFiles, Keyed.get?_foldl_put, ← List.map_reverse, List.find?_map,
    Option.map_map]
  rfl

end Memory

namespace RunState

variable {σ ω : Type}

def looking (s : RunState σ ω) (paths : List Path) : RunState σ ω :=
  { s with looked := s.looked ++ paths }

def storing (s : RunState σ ω) (store : σ) : RunState σ ω := { s with store }

end RunState

namespace Compiler

variable {σ ω : Type} {c : Compiler ω}

def announced (c : Compiler ω) (point : HookPoint) (s : RunState σ ω) : RunState σ ω :=
  { s with
    world := (c.hooks.call point s.world).1
    events := s.events ++ (c.hooks.call point s.world).2 }

@[simp] theorem store_announced (point : HookPoint) (s : RunState σ ω) :
    (c.announced point s).store = s.store := rfl

@[simp] theorem world_announced (point : HookPoint) (s : RunState σ ω) :
    (c.announced point s).world = Hooks.worldAfter (c.hooks.at_ point) s.world :=
  Hooks.fireAll_fst ..

theorem outcome_announce (point : HookPoint) (s : RunState σ ω) :
    outcome (c.announce point) s = (.ok ⟨⟩, c.announced point s) := rfl

theorem outcome_change (operation : σ → Except BuildError Unit × σ) (s : RunState σ ω) :
    outcome (change operation) s = ((operation s.store).1, s.storing (operation s.store).2) := rfl

section Compiled

variable [FileSystem σ]

def compiled (c : Compiler ω) (s : RunState σ ω) : RunState σ ω :=
  { s with
    events := s.events ++ (c.compile (FileSystem.files s.store)).2.events
    looked := s.looked ++ (c.compile (FileSystem.files s.store)).2.looked }

@[simp] theorem store_compiled (s : RunState σ ω) : (c.compiled s).store = s.store := rfl

@[simp] theorem world_compiled (s : RunState σ ω) : (c.compiled s).world = s.world := rfl

theorem outcome_compileStored (s : RunState σ ω) :
    outcome c.compileStored s = ((c.compile (FileSystem.files s.store)).1, c.compiled s) := rfl

theorem run_of_error {store : σ} {e : BuildError}
    (h : (c.compile (FileSystem.files store)).1 = .error e) (world : ω) :
    c.run store world = (.error e, c.compiled (c.announced .run ⟨store, world, [], []⟩)) := by
  have hcompile := outcome_compileStored (c := c) (c.announced .run ⟨store, world, [], []⟩)
  rw [store_announced, h] at hcompile
  exact (outcome_bind_ok (outcome_announce .run _)).trans (outcome_bind_error hcompile)

end Compiled

section Written

variable (directory : Path) (assets : List (String × String)) (s : RunState Memory ω)

def writeFile (directory : Path) (a : String × String) : Run Memory ω Unit := do
  look (directory.join (.ofString a.1))
  change (FileSystem.write (directory.join (.ofString a.1)) a.2)

theorem outcome_writeFiles :
    outcome (assets.forM (writeFile directory)) s =
      (.ok ⟨⟩, (s.storing (s.store.withFiles directory assets)).looking
        (assets.map fun a => directory.join (.ofString a.1))) := by
  induction assets generalizing s with
  | nil => simp [Memory.withFiles, RunState.looking, RunState.storing]
  | cons a more ih =>
    have hstep : outcome (writeFile directory a) s =
        (.ok ⟨⟩, (s.storing (s.store.insert (directory.join (.ofString a.1)) a.2)).looking
          [directory.join (.ofString a.1)]) := rfl
    rw [List.forM_eq_forM] at ih ⊢
    rw [List.forM_cons, outcome_bind_ok hstep, ih]
    simp [Memory.withFiles, RunState.looking, RunState.storing]

def written (directory : Path) (assets : List (String × String)) (s : RunState Memory ω) :
    RunState Memory ω :=
  (s.storing ((s.store.withDirectory directory).withFiles directory assets)).looking
    (directory :: assets.map fun a => directory.join (.ofString a.1))

theorem outcome_writeAssets :
    outcome (writeAssets (.ok directory) assets) s = (.ok ⟨⟩, written directory assets s) := by
  have hsteps : outcome (writeAssets (.ok directory) assets) s =
      outcome (if (!s.store.directoryExists directory) = true
        then (do change (FileSystem.createDirectory directory); assets.forM (writeFile directory))
        else assets.forM (writeFile directory)) (s.looking [directory]) := rfl
  rw [hsteps]
  cases hthere : s.store.directoryExists directory with
  | true =>
    rw [if_neg (by simp), outcome_writeFiles]
    simp [written, Memory.withDirectory, hthere, RunState.looking, RunState.storing]
  | false =>
    rw [if_pos (by simp), outcome_bind_ok (outcome_change ..), outcome_writeFiles]
    simp [written, Memory.withDirectory, hthere, RunState.looking, RunState.storing,
      FileSystem.createDirectory]

def emitting (c : Compiler ω) (m : Memory) (world : ω) : RunState Memory ω :=
  c.announced .emit (c.compiled (c.announced .run ⟨m, world, [], []⟩))

def finished (c : Compiler ω) (directory : Path) (report : Report) (m : Memory) (world : ω) :
    RunState Memory ω :=
  Log.Recorder.record (.buildCompleted report.modules.length report.files)
    (c.announced .done (Log.Recorder.record (.completed "Writing output files")
      (written directory report.assets
        (Log.Recorder.record (.started "Writing output files") (c.emitting m world)))))

variable {directory} in
theorem run_of_ok {m : Memory} {report : Report} (hdirectory : c.outputDirectory = .ok directory)
    (h : (c.compile m.view).1 = .ok report) (world : ω) :
    c.run m world = (.ok report, c.finished directory report m world) := by
  have hcompile := outcome_compileStored (c := c) (c.announced .run ⟨m, world, [], []⟩)
  rw [store_announced, Memory.files_eq_view, h] at hcompile
  have hwrite : outcome (Log.timed "Writing output files"
      (writeAssets c.outputDirectory report.assets)) (c.emitting m world) = _ :=
    outcome_timed (hdirectory ▸ outcome_writeAssets ..)
  refine (outcome_bind_ok (outcome_announce .run _)).trans ?_
  refine (outcome_bind_ok hcompile).trans ?_
  refine (outcome_bind_ok (outcome_announce .emit _)).trans ?_
  refine (outcome_bind_ok hwrite).trans ?_
  exact outcome_bind_ok (outcome_announce .done _)

theorem compile_new (config : BuildConfig) (current : Except IoCause Path) (files : Files) :
    (new config current : Compiler ω).compile files = config.compileIn current files := rfl

theorem outputDirectory_of_compile {files : Files} {report : Report}
    (h : (c.compile files).1 = .ok report) :
    ∃ cwd, c.config.origin c.current = .ok cwd ∧ (c.config.compile cwd files).1 = .ok report ∧
      c.outputDirectory = .ok (c.config.outputDirectory cwd) := by
  obtain ⟨cwd, horigin, hcompile⟩ := BuildConfig.origin_of_compileIn h
  exact ⟨cwd, horigin, hcompile, by rw [outputDirectory, horigin]; rfl⟩

theorem run_fst (c : Compiler ω) (m : Memory) (world : ω) :
    (c.run m world).1 = (c.compile m.view).1 := by
  cases h : (c.compile m.view).1 with
  | error e => rw [run_of_error (m.files_eq_view ▸ h) world]
  | ok report =>
    obtain ⟨cwd, -, -, hdirectory⟩ := outputDirectory_of_compile h
    rw [run_of_ok hdirectory h world]

section Ended

variable {m : Memory} {world : ω} {s : RunState Memory ω}

theorem exists_run_eq {r : Except BuildError Report} (h : (c.run m world).1 = r) :
    ∃ s, c.run m world = (r, s) :=
  ⟨_, Prod.ext h rfl⟩

theorem compile_of_run {r : Except BuildError Report} (h : c.run m world = (r, s)) :
    (c.compile m.view).1 = r := by
  rw [← run_fst c m world, h]

theorem state_of_run_error {e : BuildError} (h : c.run m world = (.error e, s)) :
    s = c.compiled (c.announced .run ⟨m, world, [], []⟩) := by
  rw [run_of_error (m.files_eq_view ▸ compile_of_run h) world] at h
  exact (Prod.mk.inj h).2.symm

theorem state_of_run_ok {report : Report} (h : c.run m world = (.ok report, s)) :
    ∃ cwd, c.config.origin c.current = .ok cwd ∧ (c.config.compile cwd m.view).1 = .ok report ∧
      s = c.finished (c.config.outputDirectory cwd) report m world := by
  obtain ⟨cwd, horigin, hcompile, hdirectory⟩ := outputDirectory_of_compile (compile_of_run h)
  rw [run_of_ok hdirectory (compile_of_run h) world] at h
  exact ⟨cwd, horigin, hcompile, (Prod.mk.inj h).2.symm⟩

end Ended

theorem store_finished (c : Compiler ω) (report : Report) (m : Memory) (world : ω) :
    (c.finished directory report m world).store =
      (m.withDirectory directory).withFiles directory report.assets := rfl

theorem world_finished (c : Compiler ω) (report : Report) (m : Memory) (world : ω) :
    (c.finished directory report m world).world = Hooks.worldAfter
      (c.hooks.at_ .run ++ c.hooks.at_ .emit ++ c.hooks.at_ .done) world := by
  rw [Hooks.worldAfter_append, Hooks.worldAfter_append, ← c.world_announced .run ⟨m, world, [], []⟩,
    ← c.world_compiled, ← c.world_announced .emit]
  exact c.world_announced .done _

end Written

end Compiler

end ModuleBundler
