import ModuleBundler.Proofs.Chunk.Script
import ModuleBundler.Proofs.Runtime.Machine
import ModuleBundler.Proofs.Runtime.Safety

/-! The script of a chunk does what the loader does. A machine that runs the script follows the
store that the loader works on: it has the same world, and the objects of the script say the same as
the registry and the cache. -/
namespace ModuleBundler.Runtime

open Script Chunk

variable {ω ν : Type} {host : Host ω ν} {registry : List Module} {M M' : Machine ω ν}
  {s s' : Store ω} {id : String} {n record : Nat} {c m : Value ν}
  {before : List (List (String × Value ν))}

def loaderValue : Value ν := .function true ["moduleId"] loaderBodyCode [1, 0]

def scriptFrame : List (String × Value ν) :=
  [(registryName, .table 0), (cacheName, .table 1), (loaderName, loaderValue)]

def loaderFrame (cached module : Value ν) (id : String) : List (String × Value ν) :=
  [("cachedModule", cached), ("module", module), ("moduleId", .text id)]

/-- A machine is where the loader is with its store. -/
structure Follows (registry : List Module) (M : Machine ω ν) (s : Store ω) : Prop where
  world_eq : M.world = s.world
  trace_eq : M.trace = s.trace
  records_eq : M.records = s.cache.length
  tables_eq : M.tables = [registry.map fun m => (m.id, .given m.id inputNames),
    s.cache.map fun p => (p.1, .record p.2)]
  top_eq : M.frames[0]? = some []
  script_eq : M.frames[1]? = some scriptFrame

/-- So it is in a call of the loader, whose variables are in a frame behind the ones before. -/
structure Inside (registry : List Module) (id : String)
    (before : List (List (String × Value ν))) (c m : Value ν) (M : Machine ω ν) (s : Store ω) :
    Prop extends Follows registry M s where
  own_eq : M.frames[before.length]? = some (loaderFrame c m id)
  before_prefix : before <+: M.frames
  length_before : 1 < before.length

abbrev loaderScope (before : List (List (String × Value ν))) : List Nat := [before.length, 1, 0]

section Objects

variable (host)

theorem get?_map_snd {α β : Type} (g : α → β) (key : String) (map : List (String × α)) :
    Keyed.get? key (map.map fun p => (p.1, g p.2)) = (Keyed.get? key map).map g := by
  induction map with
  | nil => rfl
  | cons p more ih =>
    rw [List.map_cons, Keyed.get?, Keyed.get?, ih]
    split <;> rfl

theorem get?_registry (id : String) (registry : List Module) (g : String → Value ν) :
    Keyed.get? id (registry.map fun m => (m.id, g m.id)) =
      (registry.find? fun m => m.id = id).map fun m => g m.id := by
  induction registry with
  | nil => rfl
  | cons m more ih =>
    rw [List.map_cons, Keyed.get?, ih, List.find?_cons]
    by_cases h : m.id = id <;> simp [h]

theorem property_table {T : List (String × Value ν)} (hT : M.tables[n]? = some T) :
    M.property host id (.table n) = match Keyed.get? id T with
      | some v => pure v
      | none => if id ∈ Machine.inheritedKeys then throw id else pure .undefined := by
  rw [Machine.property, hT]
  rfl

theorem Follows.property_cache (h : Follows registry M s)
    (hid : Keyed.get? id s.cache = none → id ∉ Machine.inheritedKeys) :
    M.property host id (.table 1) =
      pure ((Keyed.get? id s.cache).elim Value.undefined Value.record) := by
  have hget := get?_map_snd (Value.record (ν := ν)) id s.cache
  rw [property_table host (by rw [h.tables_eq]; rfl), hget]
  cases hcache : Keyed.get? id s.cache with
  | none => exact if_neg (hid hcache)
  | some record => rfl

theorem Follows.property_registry (h : Follows registry M s) {m : Module}
    (hm : registry.find? (fun m => m.id = id) = some m) :
    M.property host id (.table 0) = pure (.given id inputNames) := by
  have hid : m.id = id := by simpa using List.find?_some hm
  rw [property_table host (by rw [h.tables_eq]; rfl),
    get?_registry id registry fun key => Value.given key inputNames, hm, Option.map_some, hid]

theorem Follows.property_exports (h : Follows registry M s) (record : Nat) :
    M.property host "exports" (.record record) =
      pure (.exports record (host.exports record s.world)) := by
  rw [Machine.property, if_pos rfl, h.world_eq]

end Objects

section Names

variable {x : String} {v : Value ν} {scope : List Nat} {F : List (String × Value ν)}

theorem lookup_here (hF : M.frames[n]? = some F) (hx : Keyed.get? x F = some v) :
    M.lookup x (n :: scope) = pure v := by
  simp [Machine.lookup, hF, hx]

theorem lookup_outside (hF : M.frames[n]? = some F) (hx : Keyed.get? x F = none) :
    M.lookup x (n :: scope) = M.lookup x scope := by
  simp [Machine.lookup, hF, hx]

theorem Inside.lookup_own (h : Inside registry id before c m M s)
    (hx : Keyed.get? x (loaderFrame c m id) = some v) : M.lookup x (loaderScope before) = pure v :=
  lookup_here h.own_eq hx

theorem Inside.lookup_script (h : Inside registry id before c m M s)
    (hx : Keyed.get? x (loaderFrame c m id) = none) (hv : Keyed.get? x scriptFrame = some v) :
    M.lookup x (loaderScope before) = pure v := by
  rw [lookup_outside h.own_eq hx]
  exact lookup_here h.script_eq hv

theorem Inside.lookup_undefined (h : Inside registry id before c m M s) :
    M.lookup "undefined" (loaderScope before) = pure .undefined := by
  rw [lookup_outside h.own_eq rfl, lookup_outside h.script_eq rfl, lookup_outside h.top_eq rfl]
  rfl

theorem Inside.assign {c' m' : Value ν} (h : Inside registry id before c m M s) (x : String)
    (v : Value ν) (hx : Keyed.put x v (loaderFrame c m id) = loaderFrame c' m' id) :
    Inside registry id before c' m' (M.assign (loaderScope before) x v) s where
  world_eq := h.world_eq
  trace_eq := h.trace_eq
  records_eq := h.records_eq
  tables_eq := h.tables_eq
  top_eq := by
    have hne : before.length ≠ 0 := Nat.ne_of_gt (Nat.zero_lt_of_lt h.length_before)
    simp [Machine.assign, hne, h.top_eq]
  script_eq := by
    have hne : before.length ≠ 1 := Nat.ne_of_gt h.length_before
    simp [Machine.assign, hne, h.script_eq]
  own_eq := by simp [Machine.assign, h.own_eq, hx]
  before_prefix := by
    refine List.prefix_iff_getElem?.2 fun i hi => ?_
    simp [Machine.assign, Nat.ne_of_gt hi, List.prefix_iff_getElem?.1 h.before_prefix i hi]
  length_before := h.length_before

end Names

section Statements

variable (host) (call : Value ν → List (Value ν) → Machine ω ν → Run (Value ν × Machine ω ν))
  {x : String} {v : Value ν}

theorem Inside.eval_entry (h : Inside registry id before c m M s)
    (hx : M.lookup x (loaderScope before) = pure (.table n))
    (hv : M.property host id (.table n) = pure v) :
    eval host call (loaderScope before) (.element (.name x) (.name "moduleId")) M =
      pure (v, M) := by
  have hid : M.lookup "moduleId" (loaderScope before) = pure (.text id) := h.lookup_own rfl
  simp [hx, hid, hv]

theorem Inside.exec_cachedModule (h : Inside registry id before c m M s)
    (hid : Keyed.get? id s.cache = none → id ∉ Machine.inheritedKeys) :
    exec host call (loaderScope before) cachedModuleCode M =
      pure (none, M.assign (loaderScope before) "cachedModule"
        ((Keyed.get? id s.cache).elim Value.undefined Value.record)) := by
  have hentry := h.eval_entry host call (h.lookup_script (x := cacheName) rfl rfl)
    (h.property_cache host hid)
  simp [cachedModuleCode, -eval, hentry]

theorem Inside.exec_fromCache_hit (h : Inside registry id before (.record record) m M s) :
    exec host call (loaderScope before) fromCacheCode M =
      pure (some (.exports record (host.exports record s.world)), M) := by
  have hcached : M.lookup "cachedModule" (loaderScope before) = pure (.record record) :=
    h.lookup_own rfl
  simp [fromCacheCode, hcached, h.lookup_undefined, differ,
    h.property_exports]

theorem Inside.exec_fromCache_miss (h : Inside registry id before .undefined m M s) :
    exec host call (loaderScope before) fromCacheCode M = pure (none, M) := by
  have hcached : M.lookup "cachedModule" (loaderScope before) = pure .undefined := h.lookup_own rfl
  simp [fromCacheCode, hcached, h.lookup_undefined, differ]

theorem Inside.create (h : Inside registry id before c m M s)
    (hmiss : Keyed.get? id s.cache = none) (host : Host ω ν) : Inside registry id before c m
      ((M.create host).set 1 id (.record M.records)) (s.create host id) where
  world_eq := by simp [Machine.set, Machine.create, Store.create, h.world_eq, h.records_eq]
  trace_eq := h.trace_eq
  records_eq := by simp [Machine.set, Machine.create, Store.create, h.records_eq]
  tables_eq := by
    have hfree : id ∉ (s.cache.map fun p => (p.1, (.record p.2 : Value ν))).map Prod.fst := by
      simpa using Keyed.get?_eq_none.1 hmiss
    simp [Machine.set, Machine.create, Store.create, h.tables_eq, h.records_eq,
      Keyed.put_of_not_mem hfree]
  top_eq := h.top_eq
  script_eq := h.script_eq
  own_eq := h.own_eq
  before_prefix := h.before_prefix
  length_before := h.length_before

theorem Inside.exec_newModule (h : Inside registry id before c .undefined M s)
    (hid : id ∉ Machine.inheritedKeys) (hmiss : Keyed.get? id s.cache = none) :
    ∃ M', exec host call (loaderScope before) newModuleCode M = pure (none, M') ∧
      Inside registry id before c (.record s.cache.length) M' (s.create host id) := by
  have hcache : M.lookup cacheName (loaderScope before) = pure (.table 1) :=
    h.lookup_script rfl rfl
  have hkey : M.lookup "moduleId" (loaderScope before) = pure (.text id) := h.lookup_own rfl
  have hne : id ≠ "__proto__" := by
    rintro rfl
    exact hid (by decide)
  have hassigned := (h.create hmiss host).assign "module" (.record M.records) rfl
  rw [← h.records_eq]
  refine ⟨_, ?_, hassigned⟩
  simp [newModuleCode, isRecord, hcache, hkey, hne]

theorem eval_call {callee : Code} {inputs : List Code} {scope : List Nat} {f : Value ν}
    {vs : List (Value ν)} {M₁ M₂ : Machine ω ν} (hf : eval host call scope callee M = pure (f, M₁))
    (hvs : evalAll host call scope inputs M₁ = pure (vs, M₂)) :
    eval host call scope (.call callee inputs) M = call f vs M₂ := by
  simp [hf, hvs]

theorem Inside.exec_call (h : Inside registry id before c (.record record) M s) {mod : Module}
    (hmod : registry.find? (fun m => m.id = id) = some mod)
    (hcall : call (.given id inputNames)
      [.record record, .exports record (host.exports record s.world), loaderValue] M =
        pure (v, M')) :
    exec host call (loaderScope before) callCode M = pure (none, M') := by
  have hfunction := h.eval_entry host call (h.lookup_script (x := registryName) rfl rfl)
    (h.property_registry host hmod)
  have hmodule : M.lookup "module" (loaderScope before) = pure (.record record) := h.lookup_own rfl
  have hloader : M.lookup loaderName (loaderScope before) = pure loaderValue :=
    h.lookup_script rfl rfl
  have hinputs : evalAll host call (loaderScope before) inputCodes M =
      pure ([.record record, .exports record (host.exports record s.world), loaderValue], M) := by
    simp [inputCodes, hmodule, hloader, h.property_exports]
  simp [callCode, -eval, eval_call host call hfunction hinputs, hcall]

theorem Inside.exec_exports (h : Inside registry id before c (.record record) M s) :
    exec host call (loaderScope before) exportsCode M =
      pure (some (.exports record (host.exports record s.world)), M) := by
  have hmodule : M.lookup "module" (loaderScope before) = pure (.record record) := h.lookup_own rfl
  simp [exportsCode, hmodule, h.property_exports]

end Statements

section Calls

variable {bodies : Module → Nat → Body ω ν} {levels : Nat} {v : ν}

theorem bind_eq_pure {α β : Type} {x : Run α} {g : α → Run β} {b : β} (h : x >>= g = pure b) :
    ∃ a, x = pure a ∧ g a = pure b := by
  rcases x with _ | _ | a
  · cases h
  · cases h
  · exact ⟨a, rfl, h⟩

def byName (registry : List Module) (bodies : Module → Nat → Body ω ν) (id : String) :
    Nat → Body ω ν :=
  match registry.find? fun m => m.id = id with
  | some m => bodies m
  | none => fun _ => .done

theorem Follows.enter (h : Follows registry M s) (id : String) :
    Inside registry id M.frames .undefined .undefined
      ((M.note [.called id]).push (loaderFrame .undefined .undefined id)) (s.log (.called id)) := by
  have hlength : 1 < M.frames.length := (List.getElem?_eq_some_iff.1 h.script_eq).1
  have hframes (n : Nat) (hn : n < M.frames.length) :
      (M.frames ++ [loaderFrame .undefined .undefined id])[n]? = M.frames[n]? :=
    List.getElem?_append_left hn
  exact {
    world_eq := h.world_eq
    trace_eq := congrArg (· ++ [Event.called id]) h.trace_eq
    records_eq := h.records_eq
    tables_eq := h.tables_eq
    top_eq := (hframes 0 (Nat.zero_lt_of_lt hlength)).trans h.top_eq
    script_eq := (hframes 1 hlength).trans h.script_eq
    own_eq := List.getElem?_concat_length
    before_prefix := List.prefix_append _ _
    length_before := hlength }

theorem Follows.note (h : Follows registry M s) (e : Event) :
    Follows registry (M.note [e]) (s.log e) :=
  ⟨h.world_eq, congrArg (· ++ [e]) h.trace_eq, h.records_eq, h.tables_eq, h.top_eq, h.script_eq⟩

theorem Follows.work (h : Follows registry M s) (change : ω → ω) :
    Follows registry (M.work change) (s.work change) :=
  ⟨congrArg change h.world_eq, h.trace_eq, h.records_eq, h.tables_eq, h.top_eq, h.script_eq⟩

section Lists

variable {call : Value ν → List (Value ν) → Machine ω ν → Run (Value ν × Machine ω ν)}
  {scope : List Nat} {code : Code} {more : List Code} {v : Value ν}

theorem execAll_next (h : exec host call scope code M = pure (none, M')) :
    execAll host call scope (code :: more) M = execAll host call scope more M' := by
  rw [execAll, h, pure_bind]

theorem execAll_last (h : exec host call scope code M = pure (none, M')) :
    execAll host call scope [code] M = pure (none, M') :=
  execAll_next h

theorem execAll_return (h : exec host call scope code M = pure (some v, M')) :
    execAll host call scope (code :: more) M = pure (some v, M') := by
  rw [execAll, h, pure_bind]

end Lists

theorem call_loader {bodies : String → Nat → Body ω ν}
    (h : execAll host (call host bodies levels) (loaderScope M.frames) loaderBodyCode
      ((M.note [.called id]).push (loaderFrame .undefined .undefined id)) =
        pure (some (.exports record v), M')) :
    call host bodies (levels + 1) loaderValue [.text id] M =
      pure (.exports record v, M'.note [.returned id record]) := by
  have hframe : frame (loaderScope M.frames) ["moduleId"] loaderBodyCode [.text id] =
      loaderFrame .undefined .undefined (ν := ν) id := rfl
  rw [loaderValue, call]
  simp only [called, hframe]
  rw [h, pure_bind]
  rfl

theorem call_given {bodies : String → Nat → Body ω ν}
    (h : (bodies id record).run Machine.world Machine.work
      (ask (call host bodies levels) loaderValue) (M.note [.started id record]) = pure M') :
    call host bodies (levels + 1) (.given id inputNames)
        [.record record, .exports record v, loaderValue] M =
      pure (.undefined, M'.note [.finished id record]) := by
  have hinputs : bound inputNames [.record record, .exports record v, loaderValue] =
      [("module", .record record), ("exports", .exports record v), (loaderName, loaderValue)] := rfl
  have hmodule : Keyed.get? "module" (bound inputNames
      [.record record, .exports record v, loaderValue]) = some (.record record) := rfl
  have hexports : Keyed.get? "exports" (bound inputNames
      [.record record, .exports record v, loaderValue]) = some (.exports record v) := rfl
  have hloader : Keyed.get? loaderName (bound inputNames
      [.record record, .exports record v, loaderValue]) = some loaderValue := rfl
  rw [call]
  simp only [hmodule, hexports, hloader]
  simp [h]

/-- With twice as many levels, a script does what the loader does, as it has a call of the loader
and one of a module for each. -/
def Simulates (host : Host ω ν) (registry : List Module) (bodies : Module → Nat → Body ω ν)
    (levels : Nat) : Prop :=
  ∀ {M : Machine ω ν} {s s' : Store ω} {id : String} {v : ν}, Follows registry M s →
    load host registry bodies levels id s = pure (v, s') →
      ∃ record M', call host (byName registry bodies) (2 * levels + 1) loaderValue [.text id] M =
          pure (.exports record v, M') ∧
        Follows registry M' s' ∧ M.frames <+: M'.frames

theorem Simulates.run (h : Simulates host registry bodies levels) {b : Body ω ν}
    (hM : Follows registry M s)
    (hrun : b.run Store.world Store.work (load host registry bodies levels) s = pure s') :
    ∃ M', b.run Machine.world Machine.work (ask (call host (byName registry bodies)
        (2 * levels + 1)) loaderValue) M = pure M' ∧
      Follows registry M' s' ∧ M.frames <+: M'.frames := by
  induction b generalizing M s with
  | done =>
    cases hrun
    exact ⟨M, rfl, hM, List.prefix_refl _⟩
  | work change rest ih =>
    have hworld : (M.work change).world = (s.work change).world := (hM.work change).world_eq
    rw [Body.run, hworld]
    exact ih _ (hM.work change) hrun
  | load id rest ih =>
    obtain ⟨⟨v, s₁⟩, hload, hrest⟩ := bind_eq_pure hrun
    obtain ⟨record, M₁, hcall, hM₁, hframes⟩ := h hM hload
    obtain ⟨M', hrun', hM', hframes'⟩ := ih v hM₁ hrest
    refine ⟨M', ?_, hM', hframes.trans hframes'⟩
    rw [Body.run, ask, hcall]
    exact hrun'

theorem Follows.call_hit (h : Follows registry M s) (hget : Keyed.get? id s.cache = some record)
    (bodies : String → Nat → Body ω ν) (levels : Nat) :
    ∃ M', call host bodies (levels + 1) loaderValue [.text id] M =
        pure (.exports record (host.exports record s.world), M') ∧
      Follows registry M' ((s.log (.called id)).log (.returned id record)) ∧
        M.frames <+: M'.frames := by
  have hstart := h.enter id
  have hlog : Keyed.get? id (s.log (.called id)).cache = some record := hget
  have hcached := hstart.exec_cachedModule host (call host bodies levels) (by simp [hlog])
  rw [hlog, Option.elim] at hcached
  have hinside := hstart.assign "cachedModule" (.record record) rfl
  have hbody := hinside.exec_fromCache_hit host (call host bodies levels)
  refine ⟨_, call_loader ?_, hinside.toFollows.note _, hinside.before_prefix⟩
  rw [loaderBodyCode, execAll_next hcached, execAll_return hbody]
  rfl

theorem Simulates.call_miss (h : Simulates host registry bodies levels) (hM : Follows registry M s)
    (hid : id ∉ Machine.inheritedKeys) (hmiss : Keyed.get? id s.cache = none) {m : Module}
    (hm : registry.find? (fun m => m.id = id) = some m)
    (hrun : (bodies m s.cache.length).run Store.world Store.work (load host registry bodies levels)
      (((s.log (.called id)).create host id).log (.started id s.cache.length)) = pure s') :
    ∃ M', call host (byName registry bodies) (2 * (levels + 1) + 1) loaderValue [.text id] M =
        pure (.exports s.cache.length (host.exports s.cache.length s'.world), M') ∧
      Follows registry M' ((s'.log (.finished id s.cache.length)).log
        (.returned id s.cache.length)) ∧ M.frames <+: M'.frames := by
  have hstart := hM.enter id
  have hlog : Keyed.get? id (s.log (.called id)).cache = none := hmiss
  generalize hcall : call host (byName registry bodies) (2 * levels + 2) = call'
  have hcached := hstart.exec_cachedModule host call' fun _ => hid
  rw [hlog, Option.elim] at hcached
  have hfirst := hstart.assign "cachedModule" .undefined rfl
  have hfrom := hfirst.exec_fromCache_miss host call'
  obtain ⟨M₁, hnew, hinside⟩ := hfirst.exec_newModule host call' hid hlog
  -- the function of the module runs inside, and leaves the variables of the loader as they are
  have hbodies : byName registry bodies id = bodies m := by rw [byName, hm]
  obtain ⟨M₂, hbody, hM₂, hframes⟩ := h.run (hinside.toFollows.note _) hrun
  have hgiven := call_given (v := host.exports s.cache.length
    ((s.log (.called id)).create host id).world) (hbodies.symm ▸ hbody)
  have hcalled := hinside.exec_call host call' hm (hcall ▸ hgiven)
  have hlast : Inside registry id M.frames .undefined (.record s.cache.length)
      (M₂.note [.finished id s.cache.length]) (s'.log (.finished id s.cache.length)) :=
    { hM₂.note _ with
      own_eq := by
        obtain ⟨hlength, heq⟩ := List.getElem?_eq_some_iff.1 hinside.own_eq
        exact (List.prefix_iff_getElem?.1 hframes _ hlength).trans (congrArg some heq)
      before_prefix := hinside.before_prefix.trans hframes
      length_before := hinside.length_before }
  have hexports := hlast.exec_exports host call'
  refine ⟨_, call_loader (hcall ▸ ?_), hlast.toFollows.note _, hlast.before_prefix⟩
  rw [loaderBodyCode, execAll_next hcached, execAll_next hfrom, execAll_next hnew,
    execAll_next hcalled, execAll_return hexports]
  rfl

/-- A call for a new module comes to its end if the registry has the module and its function
does. -/
theorem exists_of_load_miss (hmiss : Keyed.get? id s.cache = none)
    (h : load host registry bodies levels id s = pure (v, s')) : ∃ m levels' s₁,
      levels = levels' + 1 ∧ registry.find? (fun m => m.id = id) = some m ∧
      (bodies m s.cache.length).run Store.world Store.work (load host registry bodies levels')
        (((s.log (.called id)).create host id).log (.started id s.cache.length)) = pure s₁ ∧
      v = host.exports s.cache.length s₁.world ∧
      s' = (s₁.log (.finished id s.cache.length)).log (.returned id s.cache.length) := by
  have hlog : Keyed.get? id (s.log (.called id)).cache = none := hmiss
  rw [load.eq_def] at h
  simp only [hlog] at h
  cases hm : registry.find? fun m => m.id = id with
  | none =>
    rw [hm] at h
    cases h
  | some m =>
    rw [hm] at h
    cases levels with
    | zero => cases h
    | succ levels =>
      obtain ⟨s₁, hrun, hend⟩ := bind_eq_pure h
      cases hend
      exact ⟨m, levels, s₁, rfl, rfl, hrun, rfl, rfl⟩

theorem simulates (host : Host ω ν) (bodies : Module → Nat → Body ω ν)
    (hids : ∀ m ∈ registry, m.id ∉ Machine.inheritedKeys) (levels : Nat) :
    Simulates host registry bodies levels := by
  induction levels with
  | zero =>
    intro M s s' id v hM hload
    cases hget : Keyed.get? id s.cache with
    | some record =>
      rw [load_hit hget] at hload
      cases hload
      exact ⟨record, hM.call_hit hget _ 0⟩
    | none =>
      obtain ⟨m, levels, s₁, hlevels, -⟩ := exists_of_load_miss hget hload
      cases hlevels
  | succ levels ih =>
    intro M s s' id v hM hload
    cases hget : Keyed.get? id s.cache with
    | some record =>
      rw [load_hit hget] at hload
      cases hload
      exact ⟨record, hM.call_hit hget _ _⟩
    | none =>
      obtain ⟨m, levels, s₁, ⟨⟩, hm, hrun, rfl, rfl⟩ := exists_of_load_miss hget hload
      have hid : m.id = id := by simpa using List.find?_some hm
      exact ⟨_, ih.call_miss hM (hid ▸ hids m (List.mem_of_find?_eq_some hm)) hget hm hrun⟩

end Calls

section Whole

variable {bodies : Module → Nat → Body ω ν} {levels : Nat} {modules : List Module}
  {members : List Code}

/-- Codes are the functions of modules, whatever their bodies are. -/
def Members (modules : List Module) (members : List Code) : Prop :=
  List.Forall₂ (fun m c => ∃ tree, c = memberCode m tree) modules members

theorem isRecord_eq_false (h : Members modules members) : isRecord members = false := by
  cases h with
  | nil => rfl
  | cons hm _ =>
    obtain ⟨tree, rfl⟩ := hm
    rfl

theorem evalMembers_eq (h : Members modules members)
    (hids : ∀ m ∈ modules, m.id ∉ Machine.inheritedKeys)
    (call : Value ν → List (Value ν) → Machine ω ν → Run (Value ν × Machine ω ν))
    (scope : List Nat) (M : Machine ω ν) : evalMembers host call scope members M =
      pure (modules.map fun m => (m.id, .given m.id inputNames), M) := by
  induction h with
  | nil => rfl
  | @cons m _ modules members hm _ ih =>
    obtain ⟨tree, rfl⟩ := hm
    obtain ⟨hid, hmore⟩ := List.forall_mem_cons.1 hids
    have hne : m.id ≠ "__proto__" := by
      intro heq
      exact hid (heq ▸ by decide)
    simp [memberCode, hne, ih hmore]

variable {bodies' : String → Nat → Body ω ν} {body : List Code} {scope : List Nat}
  {v : Option (Value ν)}

theorem call_function (h : execAll host (call host bodies' levels) (M.frames.length :: scope) body
    (M.push (frame (M.frames.length :: scope) [] body [])) = pure (v, M')) :
    call host bodies' (levels + 1) (.function false [] body scope) [] M =
      pure (v.getD .undefined, M') := by
  rw [call]
  simp only [called, returned, Machine.note, List.append_nil]
  rw [h, pure_bind]

theorem exec_immediate (scope : List Nat)
    (h : execAll host (call host bodies' levels) (M.frames.length :: scope) body
      (M.push (frame (M.frames.length :: scope) [] body [])) = pure (v, M')) :
    exec host (call host bodies' (levels + 1)) scope (.call (.arrow [] body) []) M =
      pure (none, M') := by
  simp [call_function h]

def started (registry : List Module) (world : ω) : Machine ω ν :=
  ⟨world, 0, [registry.map fun m => (m.id, .given m.id inputNames), []], [[], scriptFrame], []⟩

theorem follows_started (registry : List Module) (world : ω) :
    Follows registry ((started registry world : Machine ω ν).push []) ⟨world, [], []⟩ :=
  ⟨rfl, rfl, rfl, rfl, rfl, rfl⟩

theorem execAll_frame (host : Host ω ν) (h : Members modules members)
    (hnd : (modules.map Module.id).Nodup) (hids : ∀ m ∈ modules, m.id ∉ Machine.inheritedKeys)
    (call : Value ν → List (Value ν) → Machine ω ν → Run (Value ν × Machine ω ν)) (world : ω)
    (id : String) : execAll host call [1, 0] (frameCode members id)
        (((Machine.start world).push []).push (frame [1, 0] [] (frameCode members id) [])) =
      execAll host call [1, 0] [startCode id] (started modules world) := by
  have htable : Keyed.ofPairs (modules.map fun m => (m.id, (.given m.id inputNames : Value ν))) =
      modules.map fun m => (m.id, .given m.id inputNames) :=
    Keyed.ofPairs_of_nodup (by simpa [Function.comp_def] using hnd)
  have hframe : frame (ν := ν) [1, 0] [] (frameCode members id) [] =
      [(registryName, .undefined), (cacheName, .undefined), (loaderName, loaderValue)] := rfl
  have hregistry : exec host call [1, 0] (.var registryName (.object members))
      (((Machine.start world).push []).push
        [(registryName, .undefined), (cacheName, .undefined), (loaderName, loaderValue)]) =
        pure (none, ⟨world, 0, [modules.map fun m => (m.id, .given m.id inputNames)],
          [[], [(registryName, .table 0), (cacheName, .undefined), (loaderName, loaderValue)]],
          []⟩) := by
    simp [isRecord_eq_false h, evalMembers_eq h hids, htable]
    rfl
  rw [hframe, frameCode, execAll_next hregistry]
  rfl

theorem runScript_eq {c : Chunk} (hnd : (c.modules.map Module.id).Nodup)
    (hids : ∀ m ∈ c.modules, m.id ∉ Machine.inheritedKeys)
    (hmembers : Members c.modules members) {world : ω} {final : Store ω}
    (h : execute host c bodies levels world = pure final) :
    ∃ M, runScript host (byName c.modules bodies) (2 * levels + 4)
        [scriptCode members c.entryModule.id] world = pure M ∧ Follows c.modules M final := by
  obtain ⟨⟨v, s⟩, hload, hend⟩ := bind_eq_pure h
  cases hend
  obtain ⟨record, M, hcall, hM, -⟩ :=
    simulates host bodies hids levels (follows_started c.modules world) hload
  have hloader : exec host (call host (byName c.modules bodies) (2 * levels + 1)) [2, 1, 0]
      (loaderCallCode c.entryModule.id) ((started c.modules world).push []) = pure (none, M) := by
    have hname : ((started c.modules world : Machine ω ν).push []).lookup loaderName [2, 1, 0] =
        pure loaderValue := rfl
    simp [loaderCallCode, hname, hcall]
  have hstart := execAll_last
    (exec_immediate [1, 0] (M := started c.modules world) (execAll_last hloader))
  have hframe := execAll_frame host hmembers hnd hids
    (call host (byName c.modules bodies) (2 * levels + 2)) world c.entryModule.id
  have hwhole := exec_immediate [0] (M := (Machine.start world).push [])
    (hframe.trans hstart)
  have hcalled : call host (byName c.modules bodies) (2 * levels + 4)
      (.function false [] [scriptCode members c.entryModule.id] []) [] (.start world) =
        pure (.undefined, M) := call_function (execAll_last hwhole)
  exact ⟨M, by rw [runScript, hcalled, pure_bind], hM⟩

end Whole

end ModuleBundler.Runtime
