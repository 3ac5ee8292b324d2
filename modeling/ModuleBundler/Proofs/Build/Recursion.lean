import ModuleBundler.Proofs.Build.Frame
import ModuleBundler.Proofs.Path.Name

/-! The recursion that builds modules, told without a limit on its depth. Each call that descends
puts the name of a file into the graph, so the places whose names are not there yet are a measure
of how deep it can go. -/
namespace ModuleBundler

open Build

structure Call where
  path : Path
  progress : Progress

namespace Sources

section Relations

variable (s : Sources) (entry : String)

/-- Modules are built one after the other, each with all that it needs before the next: what that
comes to, and the progress it leaves. -/
inductive Visits : List Path → Progress → Except BuildError Unit → Progress → Prop where
  | nil (p : Progress) : Visits [] p (.ok ⟨⟩) p
  | known {path : Path} {more : List Path} {p q : Progress} {r : Except BuildError Unit}
      (hid : s.name path ∈ p.graph.names) (hmore : Visits more (s.reused entry path p) r q) :
      Visits (path :: more) p r q
  | failed {path : Path} {more : List Path} {p : Progress} {e : BuildError}
      (hid : s.name path ∉ p.graph.names) (hd : s.draft path = .error e) :
      Visits (path :: more) p (.error e) (s.examined path p)
  | stopped {path : Path} {more : List Path} {p q : Progress} {d : Draft} {e : BuildError}
      (hid : s.name path ∉ p.graph.names) (hd : s.draft path = .ok d)
      (hinner : Visits (d.links s).paths (s.found entry path d p) (.error e) q) :
      Visits (path :: more) p (.error e) q
  | found {path : Path} {more : List Path} {p p' q : Progress} {d : Draft}
      {r : Except BuildError Unit} (hid : s.name path ∉ p.graph.names)
      (hd : s.draft path = .ok d)
      (hinner : Visits (d.links s).paths (s.found entry path d p) (.ok ⟨⟩) p')
      (hmore : Visits more p' r q) : Visits (path :: more) p r q

/-- One call makes another: its module was added, and what the module needs was built up to the
path that the other call is for. -/
inductive Descends : Call → Call → Prop where
  | intro {path target : Path} {p p' : Progress} {d : Draft} {before after : List Path}
      (hid : s.name path ∉ p.graph.names) (hd : s.draft path = .ok d)
      (hpaths : (d.links s).paths = before ++ target :: after)
      (hbefore : s.Visits entry before (s.found entry path d p) (.ok ⟨⟩) p') :
      Descends ⟨path, p⟩ ⟨target, p'⟩

/-- So many calls are under way at once, from the first to the last. -/
inductive Nested : Nat → Call → Call → Prop where
  | outermost (call : Call) : Nested 1 call call
  | inner {depth : Nat} {a b c : Call} (h : s.Descends entry a b) (hnested : Nested depth b c) :
      Nested (depth + 1) a c

end Relations

variable {s : Sources} {entry : String} {path : Path} {paths : List Path} {p q : Progress}
  {r : Except BuildError Unit}

theorem names_reused : (s.reused entry path p).graph.names = p.graph.names :=
  (Graph.claimed_claim ..).names_eq

theorem names_found {d : Draft} (hid : s.name path ∉ p.graph.names) :
    (s.found entry path d p).graph.names = p.graph.names ++ [s.name path] :=
  Graph.names_insert hid

namespace Visits

theorem unique (h : s.Visits entry paths p r q) {r' : Except BuildError Unit} {q' : Progress}
    (h' : s.Visits entry paths p r' q') : r' = r ∧ q' = q := by
  -- the graph and the draft of the first path leave one rule to go on with
  induction h generalizing r' q' with
  | nil p =>
    cases h'
    exact ⟨rfl, rfl⟩
  | known hid _ ih =>
    cases h' with
    | known _ hmore => exact ih hmore
    | failed hid' => exact absurd hid hid'
    | stopped hid' => exact absurd hid hid'
    | found hid' => exact absurd hid hid'
  | failed hid hd =>
    cases h' with
    | known hid' => exact absurd hid' hid
    | failed _ hd' =>
      cases hd.symm.trans hd'
      exact ⟨rfl, rfl⟩
    | stopped _ hd' => cases hd.symm.trans hd'
    | found _ hd' => cases hd.symm.trans hd'
  | stopped hid hd _ ih =>
    cases h' with
    | known hid' => exact absurd hid' hid
    | failed _ hd' => cases hd.symm.trans hd'
    | stopped _ hd' hinner =>
      cases hd.symm.trans hd'
      exact ih hinner
    | found _ hd' hinner =>
      cases hd.symm.trans hd'
      exact nomatch (ih hinner).1
  | found hid hd _ _ ihinner ihmore =>
    cases h' with
    | known hid' => exact absurd hid' hid
    | failed _ hd' => cases hd.symm.trans hd'
    | stopped _ hd' hinner =>
      cases hd.symm.trans hd'
      exact nomatch (ihinner hinner).1
    | found _ hd' hinner hmore =>
      cases hd.symm.trans hd'
      obtain rfl := (ihinner hinner).2
      exact ihmore hmore

theorem stop {e : BuildError} (h : s.Visits entry [path] p (.error e) q) (more : List Path) :
    s.Visits entry (path :: more) p (.error e) q := by
  cases h with
  | known _ hmore => cases hmore
  | failed hid hd => exact .failed hid hd
  | stopped hid hd hinner => exact .stopped hid hd hinner
  | found _ _ _ hmore => cases hmore

theorem next {more : List Path} {p' : Progress} (h : s.Visits entry [path] p (.ok ⟨⟩) p')
    (hmore : s.Visits entry more p' r q) : s.Visits entry (path :: more) p r q := by
  cases h with
  | known hid hnil =>
    cases hnil
    exact .known hid hmore
  | found hid hd hinner hnil =>
    cases hnil
    exact .found hid hd hinner hmore

theorem names_subset (h : s.Visits entry paths p r q) : p.graph.names ⊆ q.graph.names := by
  induction h with
  | nil => exact List.Subset.refl _
  | known _ _ ih => exact names_reused (s := s) ▸ ih
  | failed => simp
  | stopped hid _ _ ih =>
    rw [names_found hid] at ih
    exact List.Subset.trans (List.subset_append_left ..) ih
  | found hid _ _ _ ihinner ihmore =>
    rw [names_found hid] at ihinner
    exact List.Subset.trans (List.Subset.trans (List.subset_append_left ..) ihinner) ihmore

end Visits

section Measure

variable {places : List (List Component)} {g g' : Graph}

open Classical in
noncomputable def unbuilt (s : Sources) (places : List (List Component)) (g : Graph) : Nat :=
  places.countP fun place => ∀ path : Path, path.components = place → s.name path ∉ g.names

theorem unbuilt_le_length : s.unbuilt places g ≤ places.length := List.countP_le_length

theorem unbuilt_mono (s : Sources) (places : List (List Component)) (h : g.names ⊆ g'.names) :
    s.unbuilt places g' ≤ s.unbuilt places g := by
  refine List.countP_mono_left fun place _ hplace => ?_
  simp only [decide_eq_true_eq] at hplace ⊢
  exact fun path hpath hid => hplace path hpath (h hid)

theorem unbuilt_lt (h : g.names ⊆ g'.names) (hplace : path.components ∈ places)
    (hid : s.name path ∉ g.names) (hid' : s.name path ∈ g'.names) :
    s.unbuilt places g' < s.unbuilt places g := by
  -- the place counted before and does not any more; no other place counts anew
  obtain ⟨before, after, rfl⟩ := List.append_of_mem hplace
  have hbefore := unbuilt_mono s before h
  have hafter := unbuilt_mono s after h
  have hold : ∀ t : Path, t.components = path.components → s.name t ∉ g.names := by
    intro t ht
    rwa [name, Path.moduleId_congr s.root ht]
  have hnew : ¬ ∀ t : Path, t.components = path.components → s.name t ∉ g'.names :=
    fun hall => hall path rfl hid'
  simp only [unbuilt, List.countP_append, List.countP_cons] at hbefore hafter ⊢
  rw [if_neg (by simpa using hnew), if_pos (by simpa using hold)]
  omega

theorem Descends.gained {a b : Call} (h : s.Descends entry a b) :
    s.name a.path ∉ a.progress.graph.names ∧ s.name a.path ∈ b.progress.graph.names ∧
      a.progress.graph.names ⊆ b.progress.graph.names ∧ ∃ d, s.draft a.path = .ok d := by
  cases h with
  | @intro path target p p' d before after hid hd hpaths hbefore =>
    have hsub := hbefore.names_subset
    rw [names_found hid] at hsub
    exact ⟨hid, hsub List.mem_concat_self, List.Subset.trans (List.subset_append_left ..) hsub, d,
      hd⟩

theorem visits_forM {levels : Nat}
    (hone : ∀ {path : Path} {p : Progress}, s.unbuilt places p.graph < levels →
      s.Visits entry [path] p (outcome (s.buildModule entry levels path) p).1
        (outcome (s.buildModule entry levels path) p).2)
    (hlevels : s.unbuilt places p.graph < levels) :
    s.Visits entry paths p (outcome (paths.forM (s.buildModule entry levels)) p).1
      (outcome (paths.forM (s.buildModule entry levels)) p).2 := by
  refine forM_induction
    (fun path p r q => s.unbuilt places p.graph < levels → s.Visits entry [path] p r q)
    (fun paths p r q => s.unbuilt places p.graph < levels → s.Visits entry paths p r q)
    ?nil ?stop ?next (fun _ _ => hone) paths p hlevels
  case nil => exact fun p _ => .nil p
  case stop => exact fun _ more _ _ _ hpath hp => (hpath hp).stop more
  case next =>
    intro path more p p' r q hpath hmore hp
    have hvisit := hpath hp
    exact hvisit.next (hmore (Nat.lt_of_le_of_lt (unbuilt_mono s places hvisit.names_subset) hp))

variable (hplaces : ∀ t d, s.draft t = .ok d → t.components ∈ places)

include hplaces

theorem Descends.unbuilt_lt {a b : Call} (h : s.Descends entry a b) :
    s.unbuilt places b.progress.graph < s.unbuilt places a.progress.graph := by
  obtain ⟨hid, hid', hsub, d, hd⟩ := h.gained
  exact Sources.unbuilt_lt hsub (hplaces _ d hd) hid hid'

theorem Nested.add_unbuilt_le {depth : Nat} {a b : Call} (h : s.Nested entry depth a b) :
    depth + s.unbuilt places b.progress.graph ≤ 1 + s.unbuilt places a.progress.graph := by
  induction h with
  | outermost => exact Nat.le_refl _
  | inner h _ ih =>
    have hlt := h.unbuilt_lt hplaces
    omega

/-- With more levels than there are places without modules, the lowest level is not needed. -/
theorem visits_buildModule {levels : Nat} (hlevels : s.unbuilt places p.graph < levels) :
    s.Visits entry [path] p (outcome (s.buildModule entry levels path) p).1
      (outcome (s.buildModule entry levels path) p).2 := by
  -- a call that goes down adds a name, so what is unbuilt falls along with the levels
  induction levels generalizing path p with
  | zero => exact absurd hlevels (Nat.not_lt_zero _)
  | succ levels ih =>
    by_cases hid : s.name path ∈ p.graph.names
    · rw [outcome_buildModule_known hid]
      exact .known hid (.nil _)
    rcases hd : s.draft path with e | d
    · rw [outcome_buildModule_error hid hd]
      exact .failed hid hd
    · rw [outcome_buildModule_found hid hd]
      have hlt : s.unbuilt places (s.found entry path d p).graph < s.unbuilt places p.graph := by
        refine unbuilt_lt ?_ (hplaces path d hd) hid ?_
        · exact names_found hid ▸ List.subset_append_left ..
        · exact names_found hid ▸ List.mem_concat_self
      have hinner : s.Visits entry (d.links s).paths (s.found entry path d p) _ _ :=
        visits_forM ih (by omega)
      rcases hout : outcome ((d.links s).paths.forM (s.buildModule entry levels))
        (s.found entry path d p) with ⟨e | ⟨⟩, q⟩
      · rw [hout] at hinner
        exact .stopped hid hd hinner
      · rw [hout] at hinner
        exact .found hid hd hinner (.nil q)

theorem visits_iff {levels : Nat} (hlevels : s.unbuilt places p.graph < levels) :
    s.Visits entry [path] p r q ↔ outcome (s.buildModule entry levels path) p = (r, q) := by
  have hrun : s.Visits entry [path] p _ _ := visits_buildModule hplaces hlevels
  constructor
  · intro h
    obtain ⟨hr, hq⟩ := h.unique hrun
    exact Prod.ext hr hq
  · intro h
    rwa [h] at hrun

end Measure

end Sources

end ModuleBundler
