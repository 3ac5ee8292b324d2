import Mathlib.Algebra.GroupWithZero.Nat
import ModuleBundler.Proofs.Build.Frame

/-! What a build records about itself. The modules that it tells of are those of the graph, in their
order; no file is read under a name twice; and every call either builds a module or reuses one, so
that the calls can be counted. -/
namespace ModuleBundler

open Build
open ModuleBundler.Module (Grows)

namespace Log.Event

def built? : Event → Option (String × Nat)
  | .moduleBuilt id dependencies => some (id, dependencies)
  | _ => none

def reused? : Event → Option (String × String)
  | .moduleReused id entry => some (id, entry)
  | _ => none

def probed? : Event → Option Path
  | .probing path => some path
  | _ => none

end Log.Event

namespace Progress

open Log

def built (p : Progress) : List (String × Nat) := p.events.filterMap Event.built?

def reused (p : Progress) : List (String × String) := p.events.filterMap Event.reused?

def probed (p : Progress) : List Path := p.events.filterMap Event.probed?

section Steps

variable (p : Progress) (paths : List Path) (path : Path) (g : Graph)

@[simp] theorem built_probing : (p.probing paths).built = p.built := by
  simp [built, probing, List.filterMap_map, Function.comp_def, Event.built?]

@[simp] theorem reused_probing : (p.probing paths).reused = p.reused := by
  simp [reused, probing, List.filterMap_map, Function.comp_def, Event.reused?]

@[simp] theorem probed_probing : (p.probing paths).probed = p.probed ++ paths := by
  simp [probed, probing, List.filterMap_map, Function.comp_def, Event.probed?]

@[simp] theorem looked_probing : (p.probing paths).looked = p.looked ++ paths := rfl

@[simp] theorem built_reading : (p.reading path).built = p.built := rfl

@[simp] theorem reused_reading : (p.reading path).reused = p.reused := rfl

@[simp] theorem probed_reading : (p.reading path).probed = p.probed := rfl

@[simp] theorem looked_reading : (p.reading path).looked = p.looked ++ [path] := rfl

end Steps

end Progress

namespace Graph

def sizes (g : Graph) : List (String × Nat) := g.modules.map fun m => (m.id, m.dependencies.length)

theorem map_fst_sizes (g : Graph) : g.sizes.map Prod.fst = g.names := by
  rw [sizes, List.map_map]
  rfl

theorem sizes_claim (g : Graph) (id entry : String) : (g.claim id entry).sizes = g.sizes := by
  obtain ⟨f, hmodules, hkept⟩ := (claimed_claim g id entry).exists_map
  rw [sizes, hmodules, List.map_map]
  refine List.map_congr_left fun m hm => ?_
  have hm' := hkept m hm
  rw [Function.comp_apply, hm'.id_eq, hm'.dependencies_eq]

theorem sizes_insert {g : Graph} {m : Module} (h : m.id ∉ g.names) :
    (g.insert m).sizes = g.sizes ++ [(m.id, m.dependencies.length)] := by
  rw [sizes, modules_insert h, List.map_append, List.map_singleton, sizes]

end Graph

namespace Sources

open Progress

variable {s : Sources} {entry : String} {levels : Nat} {path : Path} {p q : Progress}

/-- A build has told of each module of the graph, in order, and the paths that it has looked at are
those that were probed, and others that were read under some names. -/
structure Recorded (s : Sources) (read : List String) (p : Progress) : Prop where
  built_eq : p.built = p.graph.sizes
  looked_perm : ∃ paths, p.looked.Perm (p.probed ++ paths) ∧ paths.map s.name = read

theorem Recorded.reused {read : List String} (h : s.Recorded read p) (entry : String)
    (path : Path) : s.Recorded read (s.reused entry path p) where
  built_eq := by
    have hnoted : (s.reused entry path p).built = p.built := by
      simp [Sources.reused, built, Progress.noting, Progress.withGraph, Log.Event.built?]
    rw [hnoted, graph_reused, Graph.sizes_claim]
    exact h.built_eq
  looked_perm := by
    have hnoted : (s.reused entry path p).probed = p.probed := by
      simp [Sources.reused, probed, Progress.noting, Progress.withGraph, Log.Event.probed?]
    rw [hnoted]
    exact h.looked_perm

theorem Recorded.examined {read : List String} (h : s.Recorded read p) (path : Path) :
    s.Recorded (read ++ [s.name path]) (s.examined path p) := by
  obtain ⟨paths, hperm, hread⟩ := h.looked_perm
  have hnames : (paths ++ [path]).map s.name = read ++ [s.name path] := by
    rw [List.map_append, hread, List.map_singleton]
  refine ⟨?_, paths ++ [path], ?_, hnames⟩
  · rw [graph_examined, ← h.built_eq, Sources.examined]
    split
    · rw [built_probing, built_reading]
    · rw [built_reading]
  · have hlooked : (p.looked ++ [path]).Perm (p.probed ++ (paths ++ [path])) := by
      rw [← List.append_assoc]
      exact hperm.append_right [path]
    unfold Sources.examined
    split
    · next r _ =>
      rw [looked_probing, looked_reading, probed_probing, probed_reading, List.append_assoc _ _
        (paths ++ [path])]
      refine (hlooked.append_right _).trans ?_
      rw [List.append_assoc]
      exact (List.perm_append_comm).append_left _
    · exact hlooked

theorem Recorded.found {d : Draft} (h : s.Recorded p.graph.names p) (entry : String)
    (hid : s.name path ∉ p.graph.names) :
    s.Recorded (s.found entry path d p).graph.names (s.found entry path d p) := by
  have hexamined := h.examined path
  have hnew : (d.module s entry path).id ∉ p.graph.names := hid
  refine ⟨?_, ?_⟩
  · have hbuilt : (s.found entry path d p).built =
        (s.examined path p).built ++ [(s.name path, (d.links s).ids.length)] := by
      simp [Sources.found, built, Progress.noting, Progress.withGraph, Log.Event.built?]
    rw [hbuilt, hexamined.built_eq, graph_examined, graph_found, Graph.sizes_insert hnew]
    rfl
  · have hprobed : (s.found entry path d p).probed = (s.examined path p).probed := by
      simp [Sources.found, probed, Progress.noting, Progress.withGraph, Log.Event.probed?]
    rw [hprobed, graph_found, Graph.names_insert hnew]
    exact hexamined.looked_perm

/-- What a call of a run leaves recorded. If it fails, a file may have been read that is no module
yet. -/
theorem recorded_buildModule (s : Sources) (entry : String) (levels : Nat) (path : Path)
    (p : Progress) (h : s.Recorded p.graph.names p) :
    ∃ read, s.Recorded read (outcome (s.buildModule entry levels path) p).2 ∧ read.Nodup ∧
      ((outcome (s.buildModule entry levels path) p).1 = .ok ⟨⟩ →
        read = (outcome (s.buildModule entry levels path) p).2.graph.names) := by
  refine buildModule_induction
    (fun _ p r q => s.Recorded p.graph.names p →
      ∃ read, s.Recorded read q ∧ read.Nodup ∧ (r = .ok ⟨⟩ → read = q.graph.names))
    (fun _ p r q => s.Recorded p.graph.names p →
      ∃ read, s.Recorded read q ∧ read.Nodup ∧ (r = .ok ⟨⟩ → read = q.graph.names))
    ?known ?exhausted ?failed ?found ?nil ?stop ?next levels path p h
  case known =>
    intro path p _ hp
    have hnames : (s.reused entry path p).graph.names = p.graph.names :=
      (Graph.claimed_claim p.graph (s.name path) entry).names_eq
    exact ⟨_, hp.reused entry path, p.graph.names_nodup, fun _ => hnames.symm⟩
  case exhausted => exact fun _ p _ hp => ⟨_, hp, p.graph.names_nodup, fun hr => nomatch hr⟩
  case failed =>
    intro path p e hid _ hp
    -- the file was read under a name that no module has yet
    refine ⟨_, hp.examined path, ?_, fun hr => nomatch hr⟩
    rw [List.nodup_append]
    refine ⟨p.graph.names_nodup, List.nodup_singleton _, fun a ha b hb hab => hid ?_⟩
    rwa [← List.mem_singleton.1 hb, ← hab]
  case found => exact fun path p d r q hid _ hall hp => hall (hp.found entry hid)
  case nil => exact fun p hp => ⟨_, hp, p.graph.names_nodup, fun _ => rfl⟩
  case stop =>
    intro path more p e q hpath hp
    obtain ⟨read, hq, hnd, -⟩ := hpath hp
    exact ⟨read, hq, hnd, fun hr => nomatch hr⟩
  case next =>
    intro path more p p' r q hpath hmore hp
    -- a call that succeeds has read the modules of its graph, and the next goes on from there
    obtain ⟨read, hp', -, hread⟩ := hpath hp
    exact hmore (hread rfl ▸ hp')

/-- Calls are counted by the modules they built and those they reused. What they were made for is
the roots, and each dependency of a module that was built. -/
def Counted (calls : Nat) (p q : Progress) : Prop :=
  q.reused.length + q.graph.size + p.graph.edges =
    p.reused.length + p.graph.size + q.graph.edges + calls

theorem edges_eq (g : Graph) : g.edges = (g.sizes.map Prod.snd).sum := by
  rw [Graph.edges, Graph.sizes, List.length_flatMap, List.map_map]
  rfl

theorem size_eq (g : Graph) : g.size = g.sizes.length := by
  rw [Graph.sizes, List.length_map]
  rfl

theorem Counted.reused (entry : String) (path : Path) (p : Progress) :
    Counted 1 p (s.reused entry path p) := by
  have hnoted : (s.reused entry path p).reused.length = p.reused.length + 1 := by
    simp [Sources.reused, Progress.reused, Progress.noting, Progress.withGraph, Log.Event.reused?]
  unfold Counted
  rw [hnoted, graph_reused, size_eq, edges_eq (Graph.claim ..), Graph.sizes_claim, ← size_eq,
    ← edges_eq]
  omega

theorem Counted.found {d : Draft} (hid : s.name path ∉ p.graph.names)
    (h : Counted (d.links s).paths.length (s.found entry path d p) q) : Counted 1 p q := by
  have hnew : (d.module s entry path).id ∉ p.graph.names := hid
  have hreused : (s.found entry path d p).reused = p.reused := by
    have hexamined : (s.examined path p).reused = p.reused := by
      unfold Sources.examined
      split
      · rw [reused_probing, reused_reading]
      · rw [reused_reading]
    rw [← hexamined]
    simp [Sources.found, Progress.reused, Progress.noting, Progress.withGraph, Log.Event.reused?]
  have hsize : (s.found entry path d p).graph.size = p.graph.size + 1 := by
    rw [graph_found, size_eq, Graph.sizes_insert hnew, List.length_append, List.length_singleton,
      ← size_eq]
  have hedges : (s.found entry path d p).graph.edges =
      p.graph.edges + (d.links s).paths.length := by
    have hdeps : (d.module s entry path).dependencies.length = (d.links s).paths.length := by
      have hlength := congrArg List.length (d.map_name_paths s)
      rw [List.length_map] at hlength
      exact hlength.symm
    rw [graph_found, edges_eq, Graph.sizes_insert hnew, List.map_append, List.sum_append,
      ← edges_eq, List.map_singleton, List.sum_singleton, hdeps]
  -- one module more, and the calls it made make up for its edges
  unfold Counted at h ⊢
  rw [hreused, hsize, hedges] at h
  omega

theorem Counted.none (p : Progress) : Counted 0 p p := by
  unfold Counted
  omega

theorem Counted.trans {m n : Nat} {r : Progress} (h : Counted m p q) (h' : Counted n q r) :
    Counted (m + n) p r := by
  unfold Counted at h h' ⊢
  omega

theorem counted_buildModule (h : outcome (s.buildModule entry levels path) p = (.ok ⟨⟩, q)) :
    Counted 1 p q := by
  have hcall : (outcome (s.buildModule entry levels path) p).1 = .ok ⟨⟩ →
      Counted 1 p (outcome (s.buildModule entry levels path) p).2 := by
    refine buildModule_induction (fun _ p r q => r = .ok ⟨⟩ → Counted 1 p q)
      (fun paths p r q => r = .ok ⟨⟩ → Counted paths.length p q)
      ?known ?exhausted ?failed ?found ?nil ?stop ?next levels path p
    case known => exact fun path p _ _ => Counted.reused entry path p
    case exhausted => exact fun _ _ _ hr => nomatch hr
    case failed => exact fun _ _ _ _ _ hr => nomatch hr
    case found => exact fun path p d r q hid _ hall hr => Counted.found hid (hall hr)
    case nil => exact fun p _ => Counted.none p
    case stop => exact fun _ _ _ _ _ _ hr => nomatch hr
    case next =>
      intro path more p p' r q hpath hmore hr
      have hcalls := (hpath rfl).trans (hmore hr)
      rwa [Nat.add_comm] at hcalls
  rw [h] at hcall
  exact hcall rfl

end Sources

end ModuleBundler
