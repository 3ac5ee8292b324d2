import ModuleBundler.Chunk

/-! What the script of a chunk does when it runs. The loader is read as the function that its text
spells out, and the functions of the registry as anything that works on a world of its own and calls
the loader from time to time. -/
namespace ModuleBundler.Runtime

/-- How a world keeps records: `create` puts one with an empty object of exports there, and
`exports` is what a record exports at the moment. -/
structure Host (ω ν : Type) where
  create : Nat → ω → ω
  exports : Nat → ω → ν

/-- What the function of a module does. How it goes on after a call of the loader may depend on the
exports that the call returned, and after a change on the world. -/
inductive Body (ω ν : Type) where
  | done
  | work (change : ω → ω) (rest : ω → Body ω ν)
  | load (id : String) (rest : ν → Body ω ν)

inductive Body.CallsOnly {ω ν : Type} (ids : List String) : Body ω ν → Prop where
  | done : CallsOnly ids .done
  | work {change : ω → ω} {rest : ω → Body ω ν} (h : ∀ w, CallsOnly ids (rest w)) :
      CallsOnly ids (.work change rest)
  | load {id : String} {rest : ν → Body ω ν} (hid : id ∈ ids) (h : ∀ v, CallsOnly ids (rest v)) :
      CallsOnly ids (.load id rest)

inductive Event where
  /-- The loader is called. -/
  | called (id : String)
  /-- The body of a module starts, with a new record. -/
  | started (id : String) (record : Nat)
  /-- The body of a module has come to its end. -/
  | finished (id : String) (record : Nat)
  /-- A call of the loader returns what a record exports. -/
  | returned (id : String) (record : Nat)
deriving DecidableEq

def Event.start? : Event → Option (String × Nat)
  | started id record => some (id, record)
  | _ => none

/-- A running script. Records are numbered in the order in which they are created. -/
structure Store (ω : Type) where
  world : ω
  cache : List (String × Nat)
  trace : List Event

variable {ω ν σ : Type}

def Store.log (s : Store ω) (e : Event) : Store ω := { s with trace := s.trace ++ [e] }

def Store.create (s : Store ω) (host : Host ω ν) (id : String) : Store ω where
  world := host.create s.cache.length s.world
  cache := s.cache ++ [(id, s.cache.length)]
  trace := s.trace

def Store.work (change : ω → ω) (s : Store ω) : Store ω := { s with world := change s.world }

/-- A run that may not have come to its end yet, or that ends at a name it can do nothing with. -/
abbrev Run := ExceptT String Option

def Body.run (world : σ → ω) (work : (ω → ω) → σ → σ) (load : String → σ → Run (ν × σ)) :
    Body ω ν → σ → Run σ
  | .done, s => pure s
  | .work change rest, s => (rest (world (work change s))).run world work load (work change s)
  | .load id rest, s => do
    let (v, s) ← load id s
    (rest v).run world work load s

/-- The loader over a registry. A call returns the exports of the cached record if there is one.
Otherwise it puts a new record into the cache, runs the function of the module with it, and returns
what the record then exports. Bodies are followed for a number of levels. -/
def load (host : Host ω ν) (registry : List Module) (bodies : Module → Nat → Body ω ν) :
    Nat → String → Store ω → Run (ν × Store ω)
  | levels, id, s =>
    let s := s.log (.called id)
    match Keyed.get? id s.cache with
    | some record => pure (host.exports record s.world, s.log (.returned id record))
    | none =>
      let record := s.cache.length
      let s := s.create host id
      match registry.find? fun m => m.id = id, levels with
      | none, _ => throw id
      | some _, 0 => ExceptT.mk none
      | some m, levels + 1 => do
        let s ← (bodies m record).run Store.world Store.work (load host registry bodies levels)
          (s.log (.started id record))
        return (host.exports record s.world,
          (s.log (.finished id record)).log (.returned id record))

def execute (host : Host ω ν) (c : Chunk) (bodies : Module → Nat → Body ω ν) (levels : Nat)
    (world : ω) : Run (Store ω) := do
  let (_, s) ← load host c.modules bodies levels c.entryModule.id ⟨world, [], []⟩
  return s

end ModuleBundler.Runtime
