import ModuleBundler.Keyed
import ModuleBundler.Path

/-!
The modules of a build. Each is found once, and carries the names of the entries that need it.
-/
namespace ModuleBundler

/-- A source file after its transforms, with its dependency calls pointed at the loader. -/
structure Module where
  id : String
  path : Path
  source : String
  /-- The modules it loads, in the order of their first calls. -/
  dependencies : List String
  owners : List String
deriving DecidableEq

namespace Module

def isLeaf (m : Module) : Bool := m.dependencies.isEmpty

def isOwnedBy (m : Module) (entry : String) : Bool := m.owners.contains entry

/-- The module with an entry added that does not own it yet. -/
def ownedAlsoBy (entry : String) (m : Module) : Module :=
  { m with owners := Keyed.addNew entry m.owners }

end Module

/-- Modules in the order in which they were found, no two with one name. -/
structure Graph where
  modules : List Module
  names_nodup : (modules.map Module.id).Nodup

namespace Graph

def empty : Graph := ⟨[], List.nodup_nil⟩

def get? (g : Graph) (id : String) : Option Module := g.modules.find? fun m => m.id = id

def names (g : Graph) : List String := g.modules.map Module.id

def contains (g : Graph) (id : String) : Bool := id ∈ g.names

def size (g : Graph) : Nat := g.modules.length

theorem contains_iff {g : Graph} {id : String} : g.contains id = true ↔ id ∈ g.names :=
  decide_eq_true_iff

theorem get?_eq_none {g : Graph} {id : String} : g.get? id = none ↔ id ∉ g.names := by
  simp [get?, names]

theorem mem_of_get? {g : Graph} {id : String} {m : Module} (h : g.get? id = some m) :
    m ∈ g.modules ∧ m.id = id :=
  ⟨List.mem_of_find?_eq_some h, by simpa using List.find?_some h⟩

def insert (g : Graph) (m : Module) : Graph :=
  if h : m.id ∈ g.names then g
  else
    ⟨g.modules ++ [m], by
      simpa [List.nodup_append, g.names_nodup] using fun x hx hid => h (by
        simpa [names, ← hid] using ⟨x, hx, rfl⟩)⟩

theorem modules_insert {g : Graph} {m : Module} (h : m.id ∉ g.names) :
    (g.insert m).modules = g.modules ++ [m] := by
  rw [insert, dif_neg h]

theorem mem_insert {g : Graph} {m : Module} (h : m.id ∉ g.names) {n : Module} :
    n ∈ (g.insert m).modules ↔ n ∈ g.modules ∨ n = m := by
  rw [modules_insert h, List.mem_append, List.mem_singleton]

theorem mem_insert_self {g : Graph} {m : Module} (h : m.id ∉ g.names) : m ∈ (g.insert m).modules :=
  (mem_insert h).2 (.inr rfl)

theorem mem_of_mem_insert {g : Graph} {m n : Module} (h : m.id ∉ g.names)
    (hn : n ∈ (g.insert m).modules) (hne : n.id ≠ m.id) : n ∈ g.modules :=
  ((mem_insert h).1 hn).resolve_right fun heq => hne (congrArg Module.id heq)

theorem names_insert {g : Graph} {m : Module} (h : m.id ∉ g.names) :
    (g.insert m).names = g.names ++ [m.id] := by
  rw [names, modules_insert h, List.map_append, List.map_singleton, names]

/-- Lets an entry own the module with a name. -/
def own (id entry : String) (m : Module) : Module :=
  if m.id = id then m.ownedAlsoBy entry else m

theorem own_id (id entry : String) (m : Module) : (own id entry m).id = m.id := by
  unfold own
  split <;> rfl

def addOwner (g : Graph) (id entry : String) : Graph :=
  ⟨g.modules.map (own id entry), by
    simpa [List.map_map, Function.comp_def, own_id] using g.names_nodup⟩

/-- Gives modules to an entry, with all that they need. The last of the dependencies of a module
comes first. A module that the entry owns already is passed over, so that cycles end. -/
def claimAll (entry : String) : Nat → List String → Graph → Graph
  | 0, _, g => g
  | _, [], g => g
  | fuel + 1, id :: pending, g =>
    match g.get? id with
    | none => claimAll entry fuel pending g
    | some m =>
      if m.isOwnedBy entry then claimAll entry fuel pending g
      else claimAll entry fuel (m.dependencies.reverse ++ pending) (g.addOwner id entry)

/-- How many names of dependencies the modules hold. Each comes up once at most. -/
def edges (g : Graph) : Nat := (g.modules.flatMap fun m => m.dependencies).length

/-- Gives a module to an entry, with all that it needs. -/
def claim (g : Graph) (id entry : String) : Graph := claimAll entry (g.edges + 1) [id] g

end Graph

end ModuleBundler
