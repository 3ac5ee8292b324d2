import Mathlib.Data.List.Forall2
import ModuleBundler.Proofs.Build.Outcome

/-! What a file comes to as a module. The steps that read a file and resolve its calls change
nothing but the record of what was looked at, so their results are functions of the path alone. -/
namespace ModuleBundler

open Build Script

/-- A file that was read, with the file that each of its calls means. -/
structure Draft where
  reading : Reading
  targets : List Path

theorem Files.readModule_eq_ok {files : Files} {path : Path} {text : String} :
    files.readModule path = .ok text ↔ files.read path = .ok text := by
  unfold readModule
  cases files.read path <;> simp

theorem Files.readModule_eq_error {files : Files} {path : Path} {e : BuildError} :
    files.readModule path = .error e ↔
      ∃ cause, files.read path = .error cause ∧ e = .io path cause := by
  unfold readModule
  cases files.read path <;> simp [eq_comm]

namespace Sources

def reading (s : Sources) (path : Path) : Except BuildError Reading := do
  let raw ← s.files.readModule path
  let text ← Transform.apply s.rules path raw
  match scan s.callee (.ofPath path) text with
  | .ok found => return ⟨text, found⟩
  | .error fault => throw (.parse path fault.message)

def target (s : Sources) (directory : Path) (specifier : String) : Except BuildError Path :=
  (s.resolver.resolve s.files.isFile specifier directory).1

def targets (s : Sources) (directory : Path) (calls : List DependencyCall) :
    Except BuildError (List Path) :=
  calls.mapM fun call => s.target directory call.specifier

/-- The paths that are tried for calls, up to the first call that means no file. -/
def probes (s : Sources) (directory : Path) : List DependencyCall → List Path
  | [] => []
  | call :: more =>
    match s.resolver.resolve s.files.isFile call.specifier directory with
    | (.ok _, tried) => tried ++ probes s directory more
    | (.error _, tried) => tried

def draft (s : Sources) (path : Path) : Except BuildError Draft := do
  let reading ← s.reading path
  let targets ← s.targets (s.directory path) reading.scan.calls
  return ⟨reading, targets⟩

/-- The progress after a file was read and its calls were resolved, as far as that went. -/
def examined (s : Sources) (path : Path) (p : Progress) : Progress :=
  match s.reading path with
  | .ok r => (p.reading path).probing (s.probes (s.directory path) r.scan.calls)
  | .error _ => p.reading path

/-- One more call of a module, and the file that it means. -/
def follow (s : Sources) (links : Links) (step : DependencyCall × Path) : Links where
  plan := links.plan.redirect step.1 (s.name step.2)
  ids := Keyed.addNew (s.name step.2) links.ids
  paths := if s.name step.2 ∈ links.ids then links.paths else links.paths ++ [step.2]

/-- The edits that a module needs whatever it depends on. -/
def startPlan (found : Scan) : EditPlan :=
  match found.hashbang with
  | some span => EditPlan.empty.commentOut span
  | none => .empty

end Sources

namespace Draft

variable (s : Sources) (d : Draft)

def steps : List (DependencyCall × Path) := d.reading.scan.calls.zip d.targets

def links : Links := d.steps.foldl s.follow ⟨Sources.startPlan d.reading.scan, [], []⟩

/-- The module at a path, as it is when it is found for an entry. -/
def module (entry : String) (path : Path) : Module :=
  ⟨s.name path, path, (d.links s).plan.apply d.reading.text, (d.links s).ids, [entry]⟩

end Draft

namespace Sources

@[simp] theorem graph_examined (s : Sources) (path : Path) (p : Progress) :
    (s.examined path p).graph = p.graph := by
  unfold examined
  split <;> rfl

theorem outcome_readModule (s : Sources) (path : Path) (p : Progress) :
    outcome (s.readModule path) p = (s.reading path, p.reading path) := by
  unfold readModule reading
  rw [outcome_bind_ok (outcome_look path p)]
  rcases hraw : s.files.readModule path with e | raw
  · rw [outcome_bind_error (outcome_settle ..)]
    rfl
  rw [outcome_bind_ok (outcome_settle ..)]
  rcases htext : Transform.apply s.rules path raw with e | text
  · rw [outcome_bind_error (outcome_settle ..)]
    simp [htext, bind, Except.bind]
  rw [outcome_bind_ok (outcome_settle ..)]
  simp only [htext, bind, Except.bind]
  rcases scan s.callee (.ofPath path) text with fault | found <;> rfl

theorem outcome_tried (tried : List Path) (p : Progress) :
    outcome (tried.forM fun path => do Log.note (.probing path); look path) p =
      (.ok ⟨⟩, p.probing tried) := by
  induction tried generalizing p with
  | nil => exact congrArg _ (Progress.probing_nil p).symm
  | cons path more ih =>
    have hstep : outcome (do Log.note (.probing path); look path) p =
      (.ok ⟨⟩, (p.noting (.probing path)).reading path) := rfl
    rw [List.forM_eq_forM, List.forM_cons, outcome_bind_ok hstep, ← List.forM_eq_forM, ih]
    simp [Progress.probing, Progress.noting, Progress.reading]

theorem outcome_resolve (s : Sources) (directory : Path) (specifier : String) (p : Progress) :
    outcome (s.resolve directory specifier) p =
      (s.target directory specifier,
        p.probing (s.resolver.resolve s.files.isFile specifier directory).2) := by
  unfold resolve
  rw [outcome_bind_ok (outcome_tried ..)]
  exact outcome_settle ..

theorem outcome_link (s : Sources) (directory : Path) (links : Links) (call : DependencyCall)
    (p : Progress) :
    outcome (s.link directory links call) p =
      ((s.target directory call.specifier).map fun path => s.follow links (call, path),
        p.probing (s.resolver.resolve s.files.isFile call.specifier directory).2) := by
  unfold link
  have hresolve := outcome_resolve s directory call.specifier p
  rcases htarget : s.target directory call.specifier with e | path
  · rw [htarget] at hresolve
    rw [outcome_bind_error hresolve]
    rfl
  · rw [htarget] at hresolve
    rw [outcome_bind_ok hresolve]
    by_cases hid : s.name path ∈ links.ids
    · simp [Except.map, follow, hid, Keyed.addNew_of_mem hid]
    · simp [Except.map, follow, hid, Keyed.addNew_of_not_mem hid]

theorem outcome_foldlM_link (s : Sources) (directory : Path) (calls : List DependencyCall)
    (links : Links) (p : Progress) :
    outcome (calls.foldlM (s.link directory) links) p =
      ((s.targets directory calls).map fun ts => (calls.zip ts).foldl s.follow links,
        p.probing (s.probes directory calls)) := by
  induction calls generalizing links p with
  | nil => exact congrArg _ (Progress.probing_nil p).symm
  | cons call more ih =>
    have hlink := outcome_link s directory links call p
    rw [List.foldlM_cons, targets, List.mapM_cons, ← targets, probes]
    unfold target at hlink ⊢
    rcases hresolve : s.resolver.resolve s.files.isFile call.specifier directory with
      ⟨e | path, tried⟩
    · rw [hresolve] at hlink
      rw [outcome_bind_error hlink]
      rfl
    · rw [hresolve] at hlink
      rw [outcome_bind_ok hlink, ih, ← Progress.probing_append]
      rcases s.targets directory more with e | ts <;> rfl

theorem outcome_links (s : Sources) (path : Path) (found : Scan) (p : Progress) :
    outcome (s.links path found) p =
      ((s.targets (s.directory path) found.calls).map fun ts =>
          (found.calls.zip ts).foldl s.follow ⟨startPlan found, [], []⟩,
        p.probing (s.probes (s.directory path) found.calls)) :=
  outcome_foldlM_link ..

variable {s : Sources} {path directory : Path}

theorem draft_eq_ok {d : Draft} :
    s.draft path = .ok d ↔ s.reading path = .ok d.reading ∧
      s.targets (s.directory path) d.reading.scan.calls = .ok d.targets := by
  simp only [draft, bind_eq_ok]
  constructor
  · rintro ⟨r, hr, ts, hts, h⟩
    cases h
    exact ⟨hr, hts⟩
  · rintro ⟨hr, hts⟩
    exact ⟨_, hr, _, hts, rfl⟩

theorem draft_eq_error {e : BuildError} :
    s.draft path = .error e ↔ s.reading path = .error e ∨
      ∃ r, s.reading path = .ok r ∧ s.targets (s.directory path) r.scan.calls = .error e := by
  simp only [draft, bind_eq_error]
  refine or_congr_right (exists_congr fun r => and_congr_right fun _ => ⟨?_, .inl⟩)
  rintro (htargets | ⟨ts, -, hpure⟩)
  · exact htargets
  · cases hpure

theorem outcome_add_error {e : BuildError} (h : s.draft path = .error e) (entry : String)
    (p : Progress) : outcome (s.add entry path) p = (.error e, s.examined path p) := by
  have hread := outcome_readModule s path p
  unfold add examined
  rcases draft_eq_error.1 h with hreading | ⟨r, hreading, htargets⟩
  · rw [hreading] at hread ⊢
    rw [outcome_bind_error hread]
  · have hlinks := outcome_links s path r.scan (p.reading path)
    rw [hreading] at hread ⊢
    rw [htargets] at hlinks
    rw [outcome_bind_ok hread, outcome_bind_error hlinks]

theorem outcome_add_ok {d : Draft} (h : s.draft path = .ok d) (entry : String) (p : Progress) :
    outcome (s.add entry path) p = (.ok (d.links s).paths,
      ((s.examined path p).noting (.moduleBuilt (s.name path) (d.links s).ids.length)).withGraph
        (p.graph.insert (d.module s entry path))) := by
  have hread := outcome_readModule s path p
  obtain ⟨hreading, htargets⟩ := draft_eq_ok.1 h
  have hlinks := outcome_links s path d.reading.scan (p.reading path)
  unfold add examined
  rw [hreading] at hread ⊢
  rw [htargets] at hlinks
  rw [outcome_bind_ok hread, outcome_bind_ok hlinks, outcome_bind_ok (outcome_note ..),
    outcome_bind_ok (outcome_modify ..)]
  rfl

theorem targets_eq_ok {calls : List DependencyCall} {ts : List Path} :
    s.targets directory calls = .ok ts ↔
      List.Forall₂ (fun call path => s.target directory call.specifier = .ok path) calls ts := by
  induction calls generalizing ts with
  | nil =>
    rw [List.forall₂_nil_left_iff]
    exact ⟨fun h => (Except.ok.inj h).symm, fun h => h ▸ rfl⟩
  | cons call more ih =>
    rw [List.forall₂_cons_left_iff, targets, List.mapM_cons, ← targets]
    simp only [bind_eq_ok, ih]
    constructor
    · rintro ⟨path, hpath, rest, hrest, h⟩
      cases h
      exact ⟨path, rest, hpath, hrest, rfl⟩
    · rintro ⟨path, rest, hpath, hrest, rfl⟩
      exact ⟨path, hpath, rest, hrest, rfl⟩

theorem reading_eq_ok {r : Reading} :
    s.reading path = .ok r ↔ ∃ raw, s.files.read path = .ok raw ∧
      Transform.apply s.rules path raw = .ok r.text ∧
        scan s.callee (.ofPath path) r.text = .ok r.scan := by
  simp only [reading, bind_eq_ok, Files.readModule_eq_ok]
  refine exists_congr fun raw => and_congr_right fun _ => ⟨?_, ?_⟩
  · rintro ⟨text, htext, h⟩
    split at h
    next found hscan =>
      cases h
      exact ⟨htext, hscan⟩
    next => cases h
  · rintro ⟨htext, hscan⟩
    refine ⟨r.text, htext, ?_⟩
    rw [hscan]
    rfl

end Sources

namespace Draft

open Sources

theorem plan_foldl_follow (s : Sources) (steps : List (DependencyCall × Path)) (links : Links) :
    (steps.foldl s.follow links).plan =
      steps.foldl (fun plan step => plan.redirect step.1 (s.name step.2)) links.plan := by
  induction steps generalizing links with
  | nil => rfl
  | cons step more ih => exact ih _

theorem ids_foldl_follow (s : Sources) (steps : List (DependencyCall × Path)) (links : Links) :
    (steps.foldl s.follow links).ids =
      (steps.map fun step => s.name step.2).foldl (fun ids id => Keyed.addNew id ids)
        links.ids := by
  induction steps generalizing links with
  | nil => rfl
  | cons step more ih => exact ih _

theorem paths_foldl_follow (s : Sources) (steps : List (DependencyCall × Path)) {links : Links}
    (h : links.paths.map s.name = links.ids) :
    (steps.foldl s.follow links).paths.map s.name = (steps.foldl s.follow links).ids := by
  induction steps generalizing links with
  | nil => exact h
  | cons step more ih =>
    refine ih ?_
    by_cases hid : s.name step.2 ∈ links.ids
    · simpa [follow, hid, Keyed.addNew_of_mem hid] using h
    · simpa [follow, hid, Keyed.addNew_of_not_mem hid] using h

theorem mem_paths_foldl_follow {s : Sources} {steps : List (DependencyCall × Path)}
    {links : Links} {path : Path} (h : path ∈ (steps.foldl s.follow links).paths) :
    path ∈ links.paths ∨ path ∈ steps.map Prod.snd := by
  induction steps generalizing links with
  | nil => exact .inl h
  | cons step more ih =>
    rcases ih h with h | h
    · have hstep : path ∈ links.paths ∨ path = step.2 := by
        by_cases hid : s.name step.2 ∈ links.ids
        · simp only [follow, if_pos hid] at h
          exact .inl h
        · simpa [follow, hid] using h
      refine hstep.imp_right fun hpath => ?_
      rw [hpath]
      exact List.mem_cons_self
    · exact .inr (List.mem_cons_of_mem _ h)

variable {s : Sources} {path : Path} {d : Draft}

theorem length_targets (h : s.draft path = .ok d) :
    d.reading.scan.calls.length = d.targets.length :=
  (targets_eq_ok.1 (draft_eq_ok.1 h).2).length_eq

theorem map_snd_steps (h : s.draft path = .ok d) : d.steps.map Prod.snd = d.targets :=
  List.map_snd_zip (Nat.le_of_eq (length_targets h).symm)

theorem ids_links (h : s.draft path = .ok d) :
    (d.links s).ids = (d.targets.map s.name).eraseDups := by
  rw [links, ids_foldl_follow, ← Keyed.foldl_addNew, ← map_snd_steps h, List.map_map]
  rfl

theorem map_name_paths (d : Draft) (s : Sources) : (d.links s).paths.map s.name = (d.links s).ids :=
  paths_foldl_follow s d.steps rfl

theorem mem_targets_of_mem_paths (h : s.draft path = .ok d) {q : Path}
    (hq : q ∈ (d.links s).paths) : q ∈ d.targets := by
  rcases mem_paths_foldl_follow hq with h' | h'
  · exact absurd h' List.not_mem_nil
  · rwa [map_snd_steps h] at h'

end Draft

end ModuleBundler
