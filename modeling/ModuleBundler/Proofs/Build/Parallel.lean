import ModuleBundler.Proofs.Build.Needed
import ModuleBundler.Proofs.Graph.Bare

/-! Two builds side by side, from sources in which a file means the same files wherever it can be
built. Where both succeed they leave the same graph, but for the sources of its modules; and if one
succeeds, the other does as long as it can build the same files. -/
namespace ModuleBundler

open Build

namespace Sources

/-- A file that both sources can build means the same files in both. -/
structure Parallel (s s' : Sources) : Prop where
  root_eq : s'.root = s.root
  targets_eq : ∀ t d d', s.draft t = .ok d → s'.draft t = .ok d' → d'.targets = d.targets

def Drafts (s : Sources) (g : Graph) : Prop :=
  ∀ t ∈ g.modules.map Module.path, ∃ d, s.draft t = .ok d

/-- Steps over some sources come to a result and, but for the sources of modules, to a graph that
are given, unless a file of that graph cannot be built. -/
structure Follows {α : Type} (s : Sources) (a : α) (g : Graph)
    (out : Except BuildError α × Progress) : Prop where
  same : ∀ b, out.1 = .ok b → b = a ∧ out.2.graph.bare = g.bare
  ok : s.Drafts g → ∃ b, out.1 = .ok b

namespace Follows

variable {α β : Type} {s : Sources} {a : α} {c : β} {g g' : Graph} {p : Progress}

theorem pure (h : p.graph.bare = g.bare) : s.Follows a g (.ok a, p) where
  same _ hb := ⟨(Except.ok.inj hb).symm, h⟩
  ok _ := ⟨a, rfl⟩

theorem bind {b : Build α} {f : α → Build β} (hb : s.Follows a g (outcome b p))
    (hsub : g.modules.map Module.path ⊆ g'.modules.map Module.path)
    (hf : ∀ q : Progress, q.graph.bare = g.bare → s.Follows c g' (outcome (f a) q)) :
    s.Follows c g' (outcome (b >>= f) p) := by
  rcases hout : outcome b p with ⟨e | a', q⟩
  · rw [hout] at hb
    rw [outcome_bind_error hout]
    refine ⟨fun _ h => (nomatch h), fun hdrafts => ?_⟩
    obtain ⟨_, h⟩ := hb.ok fun t ht => hdrafts t (hsub ht)
    cases h
  · rw [hout] at hb
    obtain ⟨rfl, hbare⟩ := hb.same a' rfl
    rw [outcome_bind_ok hout]
    exact hf q hbare

end Follows

variable {s s' : Sources} {entry : String} {path : Path} {p p' q : Progress}

theorem paths_foldl_congr (hname : s'.name = s.name)
    {steps steps' : List (Script.DependencyCall × Path)} {links links' : Links}
    (hsteps : steps'.map Prod.snd = steps.map Prod.snd) (hids : links'.ids = links.ids)
    (hpaths : links'.paths = links.paths) :
    (steps'.foldl s'.follow links').paths = (steps.foldl s.follow links).paths := by
  induction steps generalizing steps' links links' with
  | nil =>
    obtain rfl := List.map_eq_nil_iff.1 hsteps
    exact hpaths
  | cons step more ih =>
    obtain ⟨step', more', rfl, hstep, hmore⟩ := List.map_eq_cons_iff.1 hsteps
    rw [List.foldl_cons, List.foldl_cons]
    refine ih hmore ?_ ?_
    · simp only [follow, hname, hstep, hids]
    · simp only [follow, hname, hstep, hids, hpaths]

namespace Parallel

variable (h : s.Parallel s')

include h

theorem name_eq : s'.name = s.name := by
  funext path
  rw [name, h.root_eq, name]

variable {d d' : Draft} (hd : s.draft path = .ok d) (hd' : s'.draft path = .ok d')

include hd hd'

theorem paths_eq : (d'.links s').paths = (d.links s).paths := by
  refine paths_foldl_congr h.name_eq ?_ rfl rfl
  rw [Draft.map_snd_steps hd, Draft.map_snd_steps hd', h.targets_eq path d d' hd hd']

theorem bare_module (entry : String) :
    (d'.module s' entry path).bare = (d.module s entry path).bare := by
  simp only [Draft.module, Module.bare, Draft.ids_links hd, Draft.ids_links hd', h.name_eq,
    h.targets_eq path d d' hd hd']

end Parallel

theorem paths_subset_forM {levels : Nat} {paths : List Path}
    (h : outcome (paths.forM (s.buildModule entry levels)) p = (.ok ⟨⟩, q)) :
    p.graph.modules.map Module.path ⊆ q.graph.modules.map Module.path := by
  induction paths generalizing p with
  | nil =>
    cases h
    exact List.Subset.refl _
  | cons path more ih =>
    rw [List.forM_eq_forM, List.forM_cons] at h
    obtain ⟨⟨⟩, p', hpath, hmore⟩ := outcome_bind_eq_ok h
    exact List.Subset.trans (serves_buildModule hpath).grows.paths_subset (ih hmore)

theorem Parallel.buildModule_known (hpar : s.Parallel s') (hid : s.name path ∈ p.graph.names)
    {levels : Nat} (h : outcome (s.buildModule entry levels path) p = (.ok ⟨⟩, q))
    (hbare : p'.graph.bare = p.graph.bare) :
    s'.Follows ⟨⟩ q.graph (outcome (s'.buildModule entry levels path) p') := by
  rw [outcome_buildModule_known hid] at h
  cases h
  have hid' : s'.name path ∈ p'.graph.names := by
    rwa [hpar.name_eq, Graph.names_eq_of_bare hbare]
  rw [outcome_buildModule_known hid']
  refine .pure ?_
  rw [graph_reused, graph_reused, Graph.bare_claim, Graph.bare_claim, hbare, hpar.name_eq]

theorem Parallel.forM_buildModule {levels : Nat} {paths : List Path}
    (hone : ∀ {path : Path} {p p' q : Progress},
      outcome (s.buildModule entry levels path) p = (.ok ⟨⟩, q) → p'.graph.bare = p.graph.bare →
      s'.Follows ⟨⟩ q.graph (outcome (s'.buildModule entry levels path) p'))
    (h : outcome (paths.forM (s.buildModule entry levels)) p = (.ok ⟨⟩, q))
    (hbare : p'.graph.bare = p.graph.bare) :
    s'.Follows ⟨⟩ q.graph (outcome (paths.forM (s'.buildModule entry levels)) p') := by
  induction paths generalizing p p' with
  | nil =>
    cases h
    exact .pure hbare
  | cons path more ih =>
    rw [List.forM_eq_forM, List.forM_cons] at h ⊢
    obtain ⟨⟨⟩, p₁, hpath, hmore⟩ := outcome_bind_eq_ok h
    exact (hone hpath hbare).bind (paths_subset_forM hmore) fun q' hq' => ih hmore hq'

theorem Parallel.buildModule (hpar : s.Parallel s') {levels : Nat}
    (h : outcome (s.buildModule entry levels path) p = (.ok ⟨⟩, q))
    (hbare : p'.graph.bare = p.graph.bare) :
    s'.Follows ⟨⟩ q.graph (outcome (s'.buildModule entry levels path) p') := by
  -- the two builds know the same names and follow the same paths, so they go down together
  induction levels generalizing path p p' q with
  | zero =>
    by_cases hid : s.name path ∈ p.graph.names
    · exact hpar.buildModule_known hid h hbare
    · rw [outcome_buildModule_zero hid] at h
      cases h
  | succ levels ih =>
    by_cases hid : s.name path ∈ p.graph.names
    · exact hpar.buildModule_known hid h hbare
    have hid' : s'.name path ∉ p'.graph.names := by
      rwa [hpar.name_eq, Graph.names_eq_of_bare hbare]
    cases hd : s.draft path with
    | error e =>
      rw [outcome_buildModule_error hid hd] at h
      cases h
    | ok d =>
      rw [outcome_buildModule_found hid hd] at h
      cases hd' : s'.draft path with
      | error e =>
        rw [outcome_buildModule_error hid' hd']
        refine ⟨fun _ hr => (nomatch hr), fun hdrafts => ?_⟩
        -- the module was added, so its file is one of those that can be built
        have hadded : path ∈ (s.found entry path d p).graph.modules.map Module.path := by
          rw [graph_found, Graph.modules_insert (m := d.module s entry path) hid, List.map_append]
          exact List.mem_append_right _ List.mem_cons_self
        obtain ⟨d', hd''⟩ := hdrafts path (paths_subset_forM h hadded)
        cases hd'.symm.trans hd''
      | ok d' =>
        rw [outcome_buildModule_found hid' hd', hpar.paths_eq hd hd']
        refine Parallel.forM_buildModule ih h ?_
        rw [graph_found, graph_found, Graph.bare_insert, Graph.bare_insert, hbare,
          hpar.bare_module hd hd']

end Sources

end ModuleBundler
