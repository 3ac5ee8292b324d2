import ModuleBundler.Proofs.Build.Draft

/-! The recursion that builds a module with all that it needs, step by step: what one call does,
and an induction over all calls of a run. -/
namespace ModuleBundler.Sources

open Build

def reused (s : Sources) (entry : String) (path : Path) (p : Progress) : Progress :=
  (p.noting (.moduleReused (s.name path) entry)).withGraph (p.graph.claim (s.name path) entry)

/-- The progress after a module was added for an entry, before what it needs is built. -/
def found (s : Sources) (entry : String) (path : Path) (d : Draft) (p : Progress) : Progress :=
  ((s.examined path p).noting (.moduleBuilt (s.name path) (d.links s).ids.length)).withGraph
    (p.graph.insert (d.module s entry path))

variable {s : Sources} {entry : String} {path : Path} {p : Progress}

@[simp] theorem graph_reused :
    (s.reused entry path p).graph = p.graph.claim (s.name path) entry := rfl

@[simp] theorem graph_found {d : Draft} :
    (s.found entry path d p).graph = p.graph.insert (d.module s entry path) := rfl

theorem outcome_buildModule_known (h : s.name path ∈ p.graph.names) (levels : Nat) :
    outcome (s.buildModule entry levels path) p = (.ok ⟨⟩, s.reused entry path p) := by
  rw [buildModule.eq_def, outcome_bind_ok (outcome_get p), if_pos (Graph.contains_iff.2 h),
    outcome_bind_ok (outcome_note ..)]
  rfl

theorem outcome_buildModule_zero (h : s.name path ∉ p.graph.names) :
    outcome (s.buildModule entry 0 path) p = (.error (.io path .noSuchFile), p) := by
  rw [buildModule, outcome_bind_ok (outcome_get p), if_neg (mt Graph.contains_iff.1 h)]
  rfl

theorem outcome_buildModule_error (h : s.name path ∉ p.graph.names) {e : BuildError}
    (hd : s.draft path = .error e) (levels : Nat) :
    outcome (s.buildModule entry (levels + 1) path) p = (.error e, s.examined path p) := by
  rw [buildModule, outcome_bind_ok (outcome_get p), if_neg (mt Graph.contains_iff.1 h)]
  exact outcome_bind_error (outcome_add_error hd entry p)

theorem outcome_buildModule_found (h : s.name path ∉ p.graph.names) {d : Draft}
    (hd : s.draft path = .ok d) (levels : Nat) :
    outcome (s.buildModule entry (levels + 1) path) p =
      outcome ((d.links s).paths.forM (s.buildModule entry levels)) (s.found entry path d p) := by
  rw [buildModule, outcome_bind_ok (outcome_get p), if_neg (mt Graph.contains_iff.1 h)]
  exact outcome_bind_ok (outcome_add_ok hd entry p)

theorem forM_induction (Visit : Path → Progress → Except BuildError Unit → Progress → Prop)
    (VisitAll : List Path → Progress → Except BuildError Unit → Progress → Prop)
    (nil : ∀ p, VisitAll [] p (.ok ⟨⟩) p)
    (stop : ∀ path more p e q, Visit path p (.error e) q → VisitAll (path :: more) p (.error e) q)
    (next : ∀ path more p p' r q, Visit path p (.ok ⟨⟩) p' → VisitAll more p' r q →
      VisitAll (path :: more) p r q)
    {levels : Nat}
    (hone : ∀ path p, Visit path p (outcome (s.buildModule entry levels path) p).1
      (outcome (s.buildModule entry levels path) p).2) (paths : List Path) (p : Progress) :
    VisitAll paths p (outcome (paths.forM (s.buildModule entry levels)) p).1
      (outcome (paths.forM (s.buildModule entry levels)) p).2 := by
  induction paths generalizing p with
  | nil => exact nil p
  | cons path more ih =>
    have hpath := hone path p
    rw [List.forM_eq_forM, List.forM_cons]
    rcases hout : outcome (s.buildModule entry levels path) p with ⟨e | ⟨⟩, q⟩
    · rw [outcome_bind_error hout]
      rw [hout] at hpath
      exact stop path more p e q hpath
    · rw [outcome_bind_ok hout]
      rw [hout] at hpath
      exact next path more p q _ _ hpath (ih q)

/-- What holds of every call of a run holds of the run: one case for each way in which a call or
a list of calls can go. -/
theorem buildModule_induction
    (Visit : Path → Progress → Except BuildError Unit → Progress → Prop)
    (VisitAll : List Path → Progress → Except BuildError Unit → Progress → Prop)
    (known : ∀ path p, s.name path ∈ p.graph.names → Visit path p (.ok ⟨⟩) (s.reused entry path p))
    (exhausted : ∀ path p, s.name path ∉ p.graph.names →
      Visit path p (.error (.io path .noSuchFile)) p)
    (failed : ∀ path p e, s.name path ∉ p.graph.names → s.draft path = .error e →
      Visit path p (.error e) (s.examined path p))
    (found : ∀ path p d r q, s.name path ∉ p.graph.names → s.draft path = .ok d →
      VisitAll (d.links s).paths (s.found entry path d p) r q → Visit path p r q)
    (nil : ∀ p, VisitAll [] p (.ok ⟨⟩) p)
    (stop : ∀ path more p e q, Visit path p (.error e) q → VisitAll (path :: more) p (.error e) q)
    (next : ∀ path more p p' r q, Visit path p (.ok ⟨⟩) p' → VisitAll more p' r q →
      VisitAll (path :: more) p r q)
    (levels : Nat) (path : Path) (p : Progress) :
    Visit path p (outcome (s.buildModule entry levels path) p).1
      (outcome (s.buildModule entry levels path) p).2 := by
  induction levels generalizing path p with
  | zero =>
    by_cases h : s.name path ∈ p.graph.names
    · rw [outcome_buildModule_known h]
      exact known path p h
    · rw [outcome_buildModule_zero h]
      exact exhausted path p h
  | succ levels ih =>
    have hall := forM_induction Visit VisitAll nil stop next ih
    by_cases h : s.name path ∈ p.graph.names
    · rw [outcome_buildModule_known h]
      exact known path p h
    · rcases hd : s.draft path with e | d
      · rw [outcome_buildModule_error h hd]
        exact failed path p e h hd
      · rw [outcome_buildModule_found h hd]
        exact found path p d _ _ h hd (hall _ _)

theorem buildModule_induction_ok (Visit : Path → Graph → Graph → Prop)
    (VisitAll : List Path → Graph → Graph → Prop)
    (known : ∀ path g, s.name path ∈ g.names → Visit path g (g.claim (s.name path) entry))
    (found : ∀ path g d g', s.name path ∉ g.names → s.draft path = .ok d →
      VisitAll (d.links s).paths (g.insert (d.module s entry path)) g' → Visit path g g')
    (nil : ∀ g, VisitAll [] g g)
    (next : ∀ path more g g' g'', Visit path g g' → VisitAll more g' g'' →
      VisitAll (path :: more) g g'')
    {levels : Nat} {q : Progress}
    (h : outcome (s.buildModule entry levels path) p = (.ok ⟨⟩, q)) :
    Visit path p.graph q.graph := by
  have key := buildModule_induction
    (fun path p r q => r = .ok ⟨⟩ → Visit path p.graph q.graph)
    (fun paths p r q => r = .ok ⟨⟩ → VisitAll paths p.graph q.graph)
    (fun path p hp _ => known path p.graph hp)
    (fun _ _ _ hr => nomatch hr)
    (fun _ _ _ _ _ hr => nomatch hr)
    (fun path p d _ q hp hd hall hr => found path p.graph d q.graph hp hd (hall hr))
    (fun p _ => nil p.graph)
    (fun _ _ _ _ _ _ hr => nomatch hr)
    (fun path more p p' _ q hpath hmore hr =>
      next path more p.graph p'.graph q.graph (hpath rfl) (hmore hr))
    levels path p
  rw [h] at key
  exact key rfl

end ModuleBundler.Sources
