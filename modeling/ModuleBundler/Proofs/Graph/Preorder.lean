import ModuleBundler.Proofs.Graph.Claim

/-! Depth-first preorder. A traversal keeps the names it has still to come to on a stack. It takes
the name on top, passes over it if it was listed before, and else lists it and puts its dependencies
on the stack, the first of them on top. A graph follows the traversal from some roots if its new
modules are those that the traversal lists, in its order, when it starts with these roots on top of
whatever stack. -/
namespace ModuleBundler

open ModuleBundler.Module (Grows)

namespace Module

def needsOf (modules : List Module) (id : String) : List String :=
  ((modules.find? fun m => m.id = id).map Module.dependencies).getD []

def unlisted (modules : List Module) (listed : List String) : Nat :=
  (modules.filter fun m => m.id ∉ listed).length

theorem unlisted_concat_cases (modules : List Module) {listed : List String} {id : String}
    (h : id ∉ listed) : unlisted modules (listed ++ [id]) < unlisted modules listed ∨
      unlisted modules (listed ++ [id]) = unlisted modules listed ∧ needsOf modules id = [] := by
  have hfilter : modules.filter (fun m => m.id ∉ listed ++ [id]) =
      (modules.filter fun m => m.id ∉ listed).filter fun m => m.id ≠ id := by
    rw [List.filter_filter]
    refine List.filter_congr fun m _ => ?_
    simp [and_comm]
  unfold unlisted
  rw [hfilter]
  by_cases hid : ∃ m ∈ modules, m.id = id
  · obtain ⟨m, hm, rfl⟩ := hid
    refine .inl (List.length_filter_lt_length_iff_exists.2 ⟨m, List.mem_filter.2 ⟨hm, ?_⟩, ?_⟩)
    · simpa using h
    · simp
  · -- a name of no module is listed, and has nothing to put on the stack
    have hne : ∀ m ∈ modules, m.id ≠ id := fun m hm heq => hid ⟨m, hm, heq⟩
    refine .inr ⟨?_, ?_⟩
    · rw [List.filter_eq_self.2]
      intro m hm
      simpa using hne m (List.mem_of_mem_filter hm)
    · have hnone : (modules.find? fun m => m.id = id) = none := by
        rw [List.find?_eq_none]
        intro m hm
        simpa using hne m hm
      rw [needsOf, hnone]
      rfl

/-- The names that a traversal lists, behind those that were listed, from a stack of names. -/
def preorder (modules : List Module) (stack listed : List String) : List String :=
  match stack with
  | [] => listed
  | id :: stack =>
    if id ∈ listed then preorder modules stack listed
    else preorder modules (needsOf modules id ++ stack) (listed ++ [id])
termination_by (unlisted modules listed, stack.length)
decreasing_by
  · exact .right _ (Nat.lt_succ_self _)
  · rename_i hid
    rcases unlisted_concat_cases modules hid with hlt | ⟨heq, hnil⟩
    · exact .left _ _ hlt
    · rw [heq, hnil]
      exact .right _ (Nat.lt_succ_self _)

variable {modules : List Module} {listed : List String} {id : String}

@[simp] theorem preorder_nil (modules : List Module) (listed : List String) :
    preorder modules [] listed = listed := by
  rw [preorder]

theorem preorder_listed (h : id ∈ listed) (stack : List String) :
    preorder modules (id :: stack) listed = preorder modules stack listed := by
  rw [preorder, if_pos h]

theorem preorder_new (h : id ∉ listed) (stack : List String) :
    preorder modules (id :: stack) listed =
      preorder modules (needsOf modules id ++ stack) (listed ++ [id]) := by
  rw [preorder, if_neg h]

end Module

namespace Graph

open ModuleBundler.Module (needsOf preorder preorder_nil preorder_listed preorder_new)

def ToldBy (modules : List Module) (g : Graph) : Prop :=
  ∀ m ∈ g.modules, needsOf modules m.id = m.dependencies

theorem toldBy_modules (g : Graph) : g.ToldBy g.modules := by
  intro m hm
  rw [needsOf, Module.find?_of_mem g.names_nodup hm]
  rfl

theorem ToldBy.of_grows {modules : List Module} {entry : String} {g g' : Graph}
    (h : g'.ToldBy modules) (hgrows : Grows entry g.modules g'.modules) : g.ToldBy modules := by
  intro m hm
  obtain ⟨m', hm', hg⟩ := hgrows.exists_mem hm
  rw [← hg.id_eq, h m' hm', hg.dependencies_eq]

/-- The graph has grown by what the traversal lists from some roots, as long as it is told the
dependencies that the modules have in the end. -/
def Traverses (roots : List String) (g g' : Graph) : Prop :=
  ∀ modules, g'.ToldBy modules → ∀ stack,
    preorder modules (roots ++ stack) g.names = preorder modules stack g'.names

theorem Traverses.nil (g : Graph) : Traverses [] g g := fun _ _ _ => rfl

theorem Traverses.trans {roots more : List String} {entry : String} {g g' g'' : Graph}
    (h : Traverses roots g g') (h' : Traverses more g' g'')
    (hgrows : Grows entry g'.modules g''.modules) : Traverses (roots ++ more) g g'' := by
  intro modules htold stack
  rw [List.append_assoc, h modules (htold.of_grows hgrows), h' modules htold]

theorem Traverses.claim {id : String} {g : Graph} (hid : id ∈ g.names) (entry : String) :
    Traverses [id] g (g.claim id entry) := by
  intro modules _ stack
  rw [(claimed_claim g id entry).names_eq, List.singleton_append, preorder_listed hid]

theorem Traverses.found {entry : String} {g g' : Graph} {m : Module} (hm : m.id ∉ g.names)
    (hgrows : Grows entry (g.insert m).modules g'.modules)
    (h : Traverses m.dependencies (g.insert m) g') : Traverses [m.id] g g' := by
  intro modules htold stack
  have hneeds : needsOf modules m.id = m.dependencies :=
    htold.of_grows hgrows m (mem_insert_self hm)
  rw [List.singleton_append, preorder_new hm, hneeds, ← names_insert hm, h modules htold]

end Graph

end ModuleBundler
