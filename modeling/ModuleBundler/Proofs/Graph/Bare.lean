import ModuleBundler.Graph

/-! Graphs up to the sources of their modules. Adding a module and claiming one for an entry do not
look at the sources. -/
namespace ModuleBundler

def Module.bare (m : Module) : Module := { m with source := "" }

namespace Graph

variable {g g' : Graph} {id entry : String} {m : Module}

def bare (g : Graph) : Graph :=
  ⟨g.modules.map Module.bare, by
    simpa [List.map_map, Function.comp_def, Module.bare] using g.names_nodup⟩

theorem eq_of_modules_eq (h : g.modules = g'.modules) : g = g' := by
  cases g
  cases g'
  cases h
  rfl

@[simp] theorem names_bare (g : Graph) : g.bare.names = g.names :=
  List.map_map ..

theorem names_eq_of_bare (h : g'.bare = g.bare) : g'.names = g.names := by
  rw [← names_bare g', h, names_bare]

theorem paths_eq_of_bare (h : g'.bare = g.bare) :
    g'.modules.map Module.path = g.modules.map Module.path := by
  have hpath : Module.path ∘ Module.bare = Module.path := rfl
  have hmodules := congrArg (fun g : Graph => g.modules.map Module.path) h
  simpa only [bare, List.map_map, hpath] using hmodules

theorem get?_bare (g : Graph) (id : String) : g.bare.get? id = (g.get? id).map Module.bare :=
  List.find?_map ..

theorem bare_addOwner (g : Graph) (id entry : String) :
    (g.addOwner id entry).bare = g.bare.addOwner id entry := by
  refine eq_of_modules_eq ?_
  have hown : ∀ m : Module, (own id entry m).bare = own id entry m.bare := by
    intro m
    unfold own
    show _ = if m.id = id then _ else _
    split <;> rfl
  simp [bare, addOwner, hown]

theorem bare_claimAll (entry : String) (fuel : Nat) (pending : List String) (g : Graph) :
    (claimAll entry fuel pending g).bare = claimAll entry fuel pending g.bare := by
  induction fuel generalizing pending g with
  | zero => rfl
  | succ fuel ih =>
    cases pending with
    | nil => rfl
    | cons id pending =>
      rw [claimAll, claimAll, get?_bare]
      cases g.get? id with
      | none => exact ih pending g
      | some m =>
        have howned : m.bare.isOwnedBy entry = m.isOwnedBy entry := rfl
        simp only [Option.map_some, howned]
        split
        · exact ih pending g
        · rw [ih, bare_addOwner]
          rfl

theorem bare_claim (g : Graph) (id entry : String) :
    (g.claim id entry).bare = g.bare.claim id entry := by
  have hedges : g.bare.edges = g.edges := by
    simp [edges, bare, Module.bare, List.flatMap_map]
  rw [claim, claim, bare_claimAll, hedges]

theorem bare_insert (g : Graph) (m : Module) : (g.insert m).bare = g.bare.insert m.bare := by
  refine eq_of_modules_eq ?_
  have hid : m.bare.id = m.id := rfl
  by_cases h : m.id ∈ g.names
  · rw [insert, insert, dif_pos h, dif_pos (by rwa [names_bare])]
  · rw [modules_insert (by rwa [names_bare, hid])]
    show (g.insert m).modules.map Module.bare = _
    rw [modules_insert h, List.map_append]
    rfl

end Graph

end ModuleBundler
