import ModuleBundler.FileSystem.Memory
import ModuleBundler.Proofs.Build.Frame

/-! Calls that build modules on one graph, one after the other, some of which may fail. Modules that
are in the graph stay as they are. What a call leaves unfinished stays unfinished, also when a later
call succeeds, and it is all that the later call may lack. -/
namespace ModuleBundler

open Build
open ModuleBundler.Module (Owned Loads Reaches Grows)
open ModuleBundler.Graph (Advances Finished)
open ModuleBundler.Sources (Named)

structure BuildCall where
  files : Files
  resolver : Resolver
  rules : List Rule
  callee : String
  entry : String
  path : Path

namespace BuildCall

def sources (root : Path) (c : BuildCall) : Sources :=
  ⟨root, c.files, c.resolver, c.rules, c.callee⟩

def on (root : Path) (c : BuildCall) (g : Graph) : Except BuildError String × Graph :=
  let r := outcome ((c.sources root).build c.entry c.path) ⟨g, [], []⟩
  (r.1, r.2.graph)

variable {root : Path} {c : BuildCall} {g : Graph}

theorem on_graph (root : Path) (c : BuildCall) (g : Graph) :
    (c.on root g).2 = (outcome ((c.sources root).buildModule c.entry ((c.sources root).bound + 1)
      c.path) ⟨g, [], []⟩).2.graph := by
  unfold on Sources.build
  rw [outcome_bind]
  rcases outcome ((c.sources root).buildModule c.entry ((c.sources root).bound + 1) c.path)
    ⟨g, [], []⟩ with ⟨_ | _, _⟩ <;> rfl

theorem on_eq_ok {id : String} (h : (c.on root g).1 = .ok id) :
    id = Path.moduleId root c.path ∧ ∃ q,
      outcome ((c.sources root).buildModule c.entry ((c.sources root).bound + 1) c.path)
        ⟨g, [], []⟩ = (.ok ⟨⟩, q) ∧ (c.on root g).2 = q.graph := by
  unfold on Sources.build at h ⊢
  rcases hrun : outcome ((c.sources root).buildModule c.entry ((c.sources root).bound + 1) c.path)
    ⟨g, [], []⟩ with ⟨e | ⟨⟩, q⟩
  · rw [outcome_bind_error hrun] at h
    cases h
  · rw [outcome_bind_ok hrun] at h ⊢
    cases h
    exact ⟨rfl, q, rfl, rfl⟩

theorem advances_on (root : Path) (c : BuildCall) (g : Graph) :
    Advances c.entry g (c.on root g).2 := by
  rw [on_graph]
  exact Sources.advances_buildModule (c.sources root) c.entry _ c.path ⟨g, [], []⟩

theorem named_on (c : BuildCall) (h : Named root g) : Named root (c.on root g).2 := by
  rw [on_graph]
  exact Sources.named_buildModule (c.sources root) c.entry _ c.path ⟨g, [], []⟩ h

theorem finished_on {id : String} (h : (c.on root g).1 = .ok id) :
    Finished c.entry g (c.on root g).2 := by
  obtain ⟨-, q, hrun, hgraph⟩ := on_eq_ok h
  rw [hgraph]
  exact Sources.finished_buildModule hrun

end BuildCall

namespace Graph

/-- The graph that calls leave, the first of which starts from an empty one. -/
def after (root : Path) (calls : List BuildCall) : Graph :=
  calls.foldl (fun g c => (c.on root g).2) .empty

def owns (g : Graph) (entry id : String) : Bool := (g.get? id).any (·.isOwnedBy entry)

theorem owns_iff {g : Graph} {entry id : String} :
    g.owns entry id = true ↔ Owned g.modules entry id := by
  unfold owns
  cases hget : g.get? id with
  | none =>
    have hno : ¬ Owned g.modules entry id := fun ho => get?_eq_none.1 hget ho.mem_names
    simp [hno]
  | some m =>
    obtain ⟨hm, rfl⟩ := mem_of_get? hget
    rw [Module.owned_iff_mem g.names_nodup hm]
    simp [Module.isOwnedBy]

/-- The modules that were added to a graph but lack a dependency: it is missing, or not owned by the
entry that they were added for. -/
def lacking (entry : String) (g g' : Graph) : List String :=
  (g'.modules.filter fun m =>
    !g.contains m.id && !m.dependencies.all (g'.owns entry)).map Module.id

theorem lacking_eq_nil {entry : String} {g g' : Graph} (h : Finished entry g g') :
    lacking entry g g' = [] := by
  unfold lacking
  rw [List.map_eq_nil_iff, List.filter_eq_nil_iff]
  intro m hm hlacks
  obtain ⟨hnew, hdeps⟩ := Bool.and_eq_true_iff.1 hlacks
  have hid : m.id ∉ g.names := by
    simpa [contains] using hnew
  have hall : m.dependencies.all (g'.owns entry) = true :=
    List.all_eq_true.2 fun d hd => owns_iff.2 (h m hm hid d hd)
  rw [hall] at hdeps
  exact Bool.false_ne_true hdeps

theorem owned_of_not_lacking {entry a b : String} {g g' : Graph} (hnew : a ∉ g.names)
    (ha : a ∉ lacking entry g g') (hl : Loads g'.modules a b) : Owned g'.modules entry b := by
  obtain ⟨m, hm, rfl, hb⟩ := hl
  by_contra hno
  have hdeps : m.dependencies.all (g'.owns entry) = false := by
    rw [Bool.eq_false_iff]
    exact fun hall => hno (owns_iff.1 (List.all_eq_true.1 hall b hb))
  have hid : g.contains m.id = false := Bool.eq_false_iff.2 fun h => hnew (contains_iff.1 h)
  exact ha (List.mem_map_of_mem (List.mem_filter.2 ⟨hm, by rw [hid, hdeps]; rfl⟩))

/-- The modules that calls from a graph on leave unfinished. -/
def unfinishedFrom (root : Path) : Graph → List BuildCall → List String
  | _, [] => []
  | g, c :: more =>
    lacking c.entry g (c.on root g).2 ++ unfinishedFrom root (c.on root g).2 more

def unfinished (root : Path) (calls : List BuildCall) : List String :=
  unfinishedFrom root .empty calls

/-- Only some modules lack a dependency, or have one that an entry of theirs does not own. -/
structure Whole (broken : List String) (g : Graph) : Prop where
  complete : ∀ a b, a ∉ broken → Loads g.modules a b → b ∈ g.names
  closed : ∀ entry a b, a ∉ broken → Owned g.modules entry a → Loads g.modules a b →
    Owned g.modules entry b

theorem Whole.empty : Whole [] .empty where
  complete _ _ _ hl := absurd hl.mem_names List.not_mem_nil
  closed _ _ _ _ ho := absurd ho.mem_names List.not_mem_nil

theorem Whole.advance {broken : List String} {entry : String} {g g' : Graph}
    (h : Whole broken g) (hstep : Advances entry g g') :
    Whole (broken ++ lacking entry g g') g' := by
  have hold : ∀ a b, a ∈ g.names → Loads g'.modules a b → Loads g.modules a b := fun a b ha hl =>
    hstep.grows.loads_of_mem g'.names_nodup ha hl
  refine ⟨fun a b ha hl => ?_, fun other a b ha ho hl => ?_⟩
  · obtain ⟨hbroken, hlacking⟩ := not_or.1 (mt List.mem_append.2 ha)
    by_cases hbefore : a ∈ g.names
    · exact hstep.grows.names_subset (h.complete a b hbroken (hold a b hbefore hl))
    · exact (owned_of_not_lacking hbefore hlacking hl).mem_names
  · obtain ⟨hbroken, hlacking⟩ := not_or.1 (mt List.mem_append.2 ha)
    by_cases hother : other = entry
    · subst hother
      by_cases hbefore : a ∈ g.names
      · have hl' := hold a b hbefore hl
        by_cases howned : Owned g.modules other a
        · exact hstep.grows.owned (h.closed other a b hbroken howned hl')
        · exact hstep.closed a b hbefore howned ho hl' (h.complete a b hbroken hl')
      · exact owned_of_not_lacking hbefore hlacking hl
    · -- the step owns nothing for another entry, and adds no modules of its
      have howned : Owned g.modules other a := hstep.grows.owned_of_ne hother ho
      have hl' := hold a b howned.mem_names hl
      exact hstep.grows.owned (h.closed other a b hbroken howned hl')

theorem Whole.foldl {root : Path} {broken : List String} {g : Graph} (h : Whole broken g)
    (calls : List BuildCall) :
    Whole (broken ++ unfinishedFrom root g calls)
      (calls.foldl (fun g c => (c.on root g).2) g) := by
  induction calls generalizing broken g with
  | nil =>
    rw [unfinishedFrom, List.append_nil]
    exact h
  | cons c more ih =>
    have hstep := h.advance (c.advances_on root g)
    rw [unfinishedFrom, ← List.append_assoc, List.foldl_cons]
    exact ih hstep

theorem whole_after (root : Path) (calls : List BuildCall) :
    Whole (unfinished root calls) (after root calls) :=
  Whole.empty.foldl calls

theorem unfinishedFrom_eq_nil {root : Path} {calls : List BuildCall} {g : Graph}
    (h : ∀ before c more, calls = before ++ c :: more →
      ∃ id, (c.on root (before.foldl (fun g c => (c.on root g).2) g)).1 = .ok id) :
    unfinishedFrom root g calls = [] := by
  induction calls generalizing g with
  | nil => rfl
  | cons c more ih =>
    obtain ⟨id, hid⟩ := h [] c more rfl
    have hfinished : Finished c.entry g (c.on root g).2 := BuildCall.finished_on hid
    have hmore : unfinishedFrom root (c.on root g).2 more = [] := by
      refine ih fun before c' more' hcalls => ?_
      exact h (c :: before) c' more' (congrArg (c :: ·) hcalls)
    rw [unfinishedFrom, lacking_eq_nil hfinished, hmore]
    rfl

theorem named_after (root : Path) (calls : List BuildCall) : Named root (after root calls) := by
  have key : ∀ g, Named root g → Named root (calls.foldl (fun g c => (c.on root g).2) g) := by
    induction calls with
    | nil => exact fun _ h => h
    | cons c more ih => exact fun g h => ih _ (c.named_on h)
  exact key .empty (by simp [Named, empty])

end Graph

namespace BuildCall

open ModuleBundler.Graph

/-- Modules are as they are once they are in the graph. Whatever calls came before, and whether or
not a call succeeds, it keeps the modules that are there, in their order and before those that it
adds; at most it adds its entry to their owners, as the last one. The modules that it adds are owned
by its entry alone. Each module is found under its name, which is that of its path. -/
theorem on_keeps_modules (root : Path) (calls : List BuildCall) (c : BuildCall) :
    (∃ kept new, (c.on root (after root calls)).2.modules = kept ++ new ∧
      List.Forall₂ (fun m m' => m'.id = m.id ∧ m'.path = m.path ∧ m'.source = m.source ∧
          m'.dependencies = m.dependencies ∧
          (m'.owners = m.owners ∨ c.entry ∉ m.owners ∧ m'.owners = m.owners ++ [c.entry]))
        (after root calls).modules kept ∧
      ∀ m ∈ new, m.owners = [c.entry]) ∧
    ∀ m ∈ (c.on root (after root calls)).2.modules,
      (c.on root (after root calls)).2.get? m.id = some m ∧ m.id = Path.moduleId root m.path := by
  have hgrows := (c.advances_on root (after root calls)).grows
  obtain ⟨f, new, hmods, hkept, hnew⟩ := hgrows
  refine ⟨⟨_, new, hmods, ?_, hnew⟩, fun m hm => ⟨?_, ?_⟩⟩
  · rw [List.forall₂_map_right_iff, List.forall₂_same]
    intro m hm
    have hm' := hkept m hm
    exact ⟨hm'.id_eq, hm'.path_eq, hm'.source_eq, hm'.dependencies_eq, hm'.owners_eq⟩
  · cases hget : (c.on root (after root calls)).2.get? m.id with
    | none => exact absurd (List.mem_map_of_mem hm) (get?_eq_none.1 hget)
    | some n =>
      obtain ⟨hn, hid⟩ := mem_of_get? hget
      rw [Module.eq_of_id_eq (c.on root (after root calls)).2.names_nodup hn hm hid]
  · exact c.named_on (named_after root calls) m hm

/-- A call that succeeds gives the name of its path. Everything that can be reached from there is in
the graph and owned by the entry exactly if the modules among it that were left unfinished by
earlier calls have their dependencies by now; so it is if no earlier call has failed. -/
theorem on_complete_iff {root : Path} {calls : List BuildCall} {c : BuildCall} {id : String}
    (h : (c.on root (after root calls)).1 = .ok id) :
    id = Path.moduleId root c.path ∧
    ((∀ b, Reaches (c.on root (after root calls)).2.modules id b →
        Owned (c.on root (after root calls)).2.modules c.entry b) ↔
      ∀ a ∈ unfinished root calls, Reaches (c.on root (after root calls)).2.modules id a →
        ∀ b, Loads (c.on root (after root calls)).2.modules a b →
          Owned (c.on root (after root calls)).2.modules c.entry b) ∧
    ((∀ before c' more, calls = before ++ c' :: more →
        ∃ id', (c'.on root (after root before)).1 = .ok id') →
      ∀ b, Reaches (c.on root (after root calls)).2.modules id b →
        Owned (c.on root (after root calls)).2.modules c.entry b) := by
  have hwhole := (whole_after root calls).advance (c.advances_on root (after root calls))
  rw [lacking_eq_nil (finished_on h), List.append_nil] at hwhole
  obtain ⟨rfl, q, hrun, hgraph⟩ := on_eq_ok h
  have hserves := Sources.serves_buildModule hrun
  rw [hgraph] at hwhole ⊢
  have hroot : Owned q.graph.modules c.entry (Path.moduleId root c.path) :=
    hserves.owned _ (List.mem_singleton_self _)
  -- only at a module that was left unfinished can what the entry owns end
  have hiff : (∀ b, Reaches q.graph.modules (Path.moduleId root c.path) b →
        Owned q.graph.modules c.entry b) ↔
      ∀ a ∈ unfinished root calls, Reaches q.graph.modules (Path.moduleId root c.path) a →
        ∀ b, Loads q.graph.modules a b → Owned q.graph.modules c.entry b := by
    constructor
    · exact fun hall a _ ha b hl => hall b (ha.tail hl)
    · intro hrest b hb
      induction hb with
      | refl => exact hroot
      | @tail a b ha hl ho =>
        by_cases hbroken : a ∈ unfinished root calls
        · exact hrest a hbroken ha b hl
        · exact hwhole.closed c.entry a b hbroken ho hl
  refine ⟨rfl, hiff, fun hall => hiff.2 ?_⟩
  have hnone : unfinished root calls = [] := unfinishedFrom_eq_nil hall
  rw [hnone]
  exact fun a ha => absurd ha List.not_mem_nil

def sampleRoot : Path := .ofString "/app"

def sampleCall (text path : String) : BuildCall :=
  ⟨Memory.view (.ofList [(.ofString "/app/main.js", "require('./b');"),
    (.ofString "/app/b.js", text)]), .ofExtensions [".js"], [], "require", "main", .ofString path⟩

def sampleFailure : BuildCall := sampleCall "const = ;" "/app/main.js"

def sampleRetry : BuildCall := sampleCall "1;" "/app/main.js"

theorem on_retry (calls : List BuildCall)
    (h : (sampleRetry.on sampleRoot (after sampleRoot calls)).1.toOption = some "./main.js") :
    (sampleRetry.on sampleRoot (after sampleRoot calls)).1 = .ok "./main.js" := by
  rcases hresult : (sampleRetry.on sampleRoot (after sampleRoot calls)).1 with e | id
  · rw [hresult] at h
    cases h
  · rw [hresult] at h
    exact congrArg _ (Option.some.inj h)

theorem loads_retry (calls : List BuildCall)
    (h : (((sampleRetry.on sampleRoot (after sampleRoot calls)).2.get? "./main.js").map
      Module.dependencies) = some ["./b.js"]) {b : String} :
    Loads (sampleRetry.on sampleRoot (after sampleRoot calls)).2.modules "./main.js" b ↔
      b = "./b.js" := by
  obtain ⟨m, hget, hdeps⟩ := Option.map_eq_some_iff.1 h
  obtain ⟨hm, hid⟩ := mem_of_get? hget
  constructor
  · rintro ⟨n, hn, hnid, hb⟩
    have hnm : n = m := Module.eq_of_id_eq
      (sampleRetry.on sampleRoot (after sampleRoot calls)).2.names_nodup hn hm (hnid.trans hid.symm)
    rw [hnm, hdeps] at hb
    exact List.mem_singleton.1 hb
  · rintro rfl
    exact ⟨m, hm, hid, hdeps ▸ List.mem_singleton_self _⟩

/-- The call succeeds when it is made once more, but without the second module, since the first one
is in the graph. It would not be without if that module had been built in between. -/
theorem on_complete_mended :
    (sampleFailure.on sampleRoot .empty).1.toOption = none ∧
    unfinished sampleRoot [sampleFailure] = ["./main.js"] ∧
    (sampleRetry.on sampleRoot (after sampleRoot [sampleFailure])).1 = .ok "./main.js" ∧
    (¬ ∀ b, Reaches (sampleRetry.on sampleRoot (after sampleRoot [sampleFailure])).2.modules
        "./main.js" b →
      Owned (sampleRetry.on sampleRoot (after sampleRoot [sampleFailure])).2.modules "main" b) ∧
    ∀ b, Reaches (sampleRetry.on sampleRoot (after sampleRoot
        [sampleFailure, sampleCall "1;" "/app/b.js"])).2.modules "./main.js" b →
      Owned (sampleRetry.on sampleRoot (after sampleRoot
        [sampleFailure, sampleCall "1;" "/app/b.js"])).2.modules "main" b := by
  have hleft : unfinished sampleRoot [sampleFailure] = ["./main.js"] := by
    decide +kernel
  have hleft' : unfinished sampleRoot [sampleFailure, sampleCall "1;" "/app/b.js"] =
      ["./main.js"] := by
    decide +kernel
  have hok := on_retry [sampleFailure] (by decide +kernel)
  have hok' := on_retry [sampleFailure, sampleCall "1;" "/app/b.js"] (by decide +kernel)
  have hmissing : (sampleRetry.on sampleRoot (after sampleRoot [sampleFailure])).2.owns "main"
      "./b.js" = false := by
    decide +kernel
  have hthere : (sampleRetry.on sampleRoot (after sampleRoot
      [sampleFailure, sampleCall "1;" "/app/b.js"])).2.owns "main" "./b.js" = true := by
    decide +kernel
  refine ⟨by decide +kernel, hleft, hok, fun hall => ?_, ?_⟩
  · have hdeps := (on_complete_iff hok).2.1.1 hall "./main.js" (hleft ▸ List.mem_cons_self) .refl
      "./b.js" ((loads_retry _ (by decide +kernel)).2 rfl)
    exact Bool.false_ne_true (hmissing.symm.trans (owns_iff.2 hdeps))
  · refine (on_complete_iff hok').2.1.2 fun a ha _ b hl => ?_
    rw [hleft'] at ha
    rw [List.mem_singleton.1 ha] at hl
    rw [(loads_retry _ (by decide +kernel)).1 hl]
    exact owns_iff.1 hthere

end BuildCall

end ModuleBundler
