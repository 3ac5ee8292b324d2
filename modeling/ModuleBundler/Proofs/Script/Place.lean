import Mathlib.Data.List.Forall2
import ModuleBundler.Script.Dependency

/-! Places in a tree. A place says on which way down from the root a node is met: the number of a
part of the root, the number of a part of that part, and so on. Places in the order of words (a
place before those below it, and what is below an earlier part before what is below a later one)
list the nodes of a tree in pre-order. The dependencies of a tree are its calls of a name with a
string, one for each place at which such a call stands, in this order. -/
namespace ModuleBundler.Script.Node

def parts : Node → List Node
  | leaf .. => []
  | branch _ _ ns => ns
  | call _ f types arguments => f :: (types ++ arguments)

mutual

theorem parts_induction {P : Node → Prop} (step : ∀ n, (∀ m ∈ n.parts, P m) → P n) :
    (n : Node) → P n
  | leaf .. => step _ fun _ hm => absurd hm List.not_mem_nil
  | branch _ _ ns => step _ (forall_of_parts step ns)
  | call _ f types arguments => step _ <| List.forall_mem_cons.2 ⟨parts_induction step f,
      List.forall_mem_append.2 ⟨forall_of_parts step types, forall_of_parts step arguments⟩⟩

theorem forall_of_parts {P : Node → Prop} (step : ∀ n, (∀ m ∈ n.parts, P m) → P n) :
    (ns : List Node) → ∀ m ∈ ns, P m
  | [] => fun _ hm => absurd hm List.not_mem_nil
  | n :: more => List.forall_mem_cons.2 ⟨parts_induction step n, forall_of_parts step more⟩

end

def at? : List Nat → Node → Option Node
  | [], n => some n
  | i :: place, n => n.parts[i]?.bind (at? place)

def inPart (i : Nat) (p : List Nat × Node) : List Nat × Node := (i :: p.1, p.2)

mutual

/-- The nodes of a tree with their places, each node before its parts. -/
def placed : Node → List (List Nat × Node)
  | leaf kind span text => [([], leaf kind span text)]
  | branch kind span ns => ([], branch kind span ns) :: placedFrom 0 ns
  | call span f types arguments =>
    ([], call span f types arguments) ::
      ((placed f).map (inPart 0) ++
        (placedFrom 1 types ++ placedFrom (types.length + 1) arguments))

def placedFrom : Nat → List Node → List (List Nat × Node)
  | _, [] => []
  | i, n :: more => (placed n).map (inPart i) ++ placedFrom (i + 1) more

end

theorem placedFrom_append (i : Nat) (ns ms : List Node) :
    placedFrom i (ns ++ ms) = placedFrom i ns ++ placedFrom (i + ns.length) ms := by
  induction ns generalizing i with
  | nil => rfl
  | cons n more ih =>
    rw [List.cons_append, placedFrom, placedFrom, ih, List.append_assoc, List.length_cons,
      Nat.add_assoc, Nat.add_comm 1]

theorem placed_eq (n : Node) : n.placed = ([], n) :: placedFrom 0 n.parts := by
  cases n with
  | leaf => rfl
  | branch => rfl
  | call span f types arguments =>
    rw [placed, parts, placedFrom, placedFrom_append, Nat.zero_add, Nat.add_comm 1]

theorem mem_placedFrom {i : Nat} {ns : List Node} {place : List Nat} {m : Node} :
    (place, m) ∈ placedFrom i ns ↔
      ∃ j n rest, ns[j]? = some n ∧ (rest, m) ∈ n.placed ∧ place = (i + j) :: rest := by
  induction ns generalizing i with
  | nil => simp [placedFrom]
  | cons n more ih =>
    rw [placedFrom, List.mem_append, ih]
    constructor
    · rintro (h | ⟨j, n', rest, hj, hm, rfl⟩)
      · obtain ⟨⟨rest, m'⟩, hm, heq⟩ := List.mem_map.1 h
        obtain ⟨rfl, rfl⟩ := Prod.mk.injEq .. ▸ heq
        exact ⟨0, n, rest, rfl, hm, rfl⟩
      · exact ⟨j + 1, n', rest, hj, hm, by rw [Nat.add_assoc, Nat.add_comm 1]⟩
    · rintro ⟨j | j, n', rest, hj, hm, rfl⟩
      · obtain rfl := Option.some.inj hj
        exact .inl (List.mem_map.2 ⟨(rest, m), hm, rfl⟩)
      · exact .inr ⟨j, n', rest, hj, hm, by rw [Nat.add_assoc, Nat.add_comm 1]⟩

theorem mem_placed {n m : Node} {place : List Nat} :
    (place, m) ∈ n.placed ↔ at? place n = some m := by
  induction n using parts_induction generalizing place m with
  | step n ih =>
    rw [placed_eq, List.mem_cons, mem_placedFrom]
    cases place with
    | nil => simp [at?, eq_comm]
    | cons i rest =>
      rw [at?, Option.bind_eq_some_iff]
      constructor
      · rintro (h | ⟨j, part, rest', hj, hm, heq⟩)
        · simp at h
        · obtain ⟨rfl, rfl⟩ := List.cons.inj heq
          rw [Nat.zero_add]
          exact ⟨part, hj, (ih part (List.mem_of_getElem? hj)).1 hm⟩
      · rintro ⟨part, hj, hm⟩
        exact .inr ⟨i, part, rest, hj, (ih part (List.mem_of_getElem? hj)).2 hm, by simp⟩

theorem pairwise_placedFrom {i : Nat} {ns : List Node}
    (h : ∀ n ∈ ns, n.placed.Pairwise fun a b => a.1 < b.1) :
    (placedFrom i ns).Pairwise fun a b => a.1 < b.1 := by
  induction ns generalizing i with
  | nil => exact .nil
  | cons n more ih =>
    obtain ⟨hn, hmore⟩ := List.forall_mem_cons.1 h
    rw [placedFrom, List.pairwise_append]
    refine ⟨List.pairwise_map.2 (hn.imp fun hab => ?_), ih hmore, ?_⟩
    · exact List.cons_lt_cons_iff.2 (.inr ⟨rfl, hab⟩)
    · -- what is below this part has its number first, what follows has a greater one
      rintro a ha ⟨place, m⟩ hb
      obtain ⟨a', -, rfl⟩ := List.mem_map.1 ha
      obtain ⟨j, -, rest, -, -, rfl⟩ := mem_placedFrom.1 hb
      exact List.cons_lt_cons_iff.2 (.inl (by omega))

theorem pairwise_placed (n : Node) : n.placed.Pairwise fun a b => a.1 < b.1 := by
  induction n using parts_induction with
  | step n ih =>
    rw [placed_eq, List.pairwise_cons]
    refine ⟨?_, pairwise_placedFrom ih⟩
    rintro ⟨place, m⟩ hm
    obtain ⟨j, -, rest, -, -, rfl⟩ := mem_placedFrom.1 hm
    exact List.nil_lt_cons ..

section Dependencies

variable (callee : String)

theorem dependenciesIn_eq_flatMap (ns : List Node) :
    dependenciesIn callee ns = ns.flatMap (dependencies callee) := by
  induction ns with
  | nil => rfl
  | cons n more ih => rw [dependenciesIn, ih, List.flatMap_cons]

theorem dependencies_eq_parts (n : Node) :
    n.dependencies callee =
      (dependency? callee n).toList ++ n.parts.flatMap (dependencies callee) := by
  cases n with
  | leaf => rfl
  | branch kind span ns => exact dependenciesIn_eq_flatMap callee ns
  | call span f types arguments =>
    rw [dependencies, parts, List.flatMap_cons, List.flatMap_append, dependenciesIn_eq_flatMap,
      dependenciesIn_eq_flatMap]

theorem flatMap_dependencies {i : Nat} {ns : List Node}
    (h : ∀ n ∈ ns, n.dependencies callee = n.placed.filterMap fun p => dependency? callee p.2) :
    ns.flatMap (dependencies callee) =
      (placedFrom i ns).filterMap fun p => dependency? callee p.2 := by
  induction ns generalizing i with
  | nil => rfl
  | cons n more ih =>
    obtain ⟨hn, hmore⟩ := List.forall_mem_cons.1 h
    rw [List.flatMap_cons, placedFrom, List.filterMap_append, List.filterMap_map, ← ih hmore, hn]
    rfl

/-- The dependencies of a tree are those that its nodes name, one by one. -/
theorem dependencies_eq_placed (n : Node) :
    n.dependencies callee = n.placed.filterMap fun p => dependency? callee p.2 := by
  induction n using parts_induction with
  | step n ih =>
    rw [dependencies_eq_parts, placed_eq, List.filterMap_cons, ← flatMap_dependencies callee ih]
    cases dependency? callee n <;> rfl

end Dependencies

/-- A node that is a call of a name, the name standing there by itself, with a string as its first
argument. -/
def Names (callee : String) (n : Node) (d : DependencyCall) : Prop :=
  ∃ span types more, n = call span (leaf .identifier d.callee callee) types
    (leaf .string d.argument d.specifier :: more)

theorem dependency?_eq_some {callee : String} {n : Node} {d : DependencyCall} :
    dependency? callee n = some d ↔ n.Names callee d := by
  constructor
  · intro h
    unfold dependency? at h
    split at h
    · split_ifs at h with hname
      obtain rfl := Option.some.inj h
      subst hname
      exact ⟨_, _, _, rfl⟩
    · cases h
  · rintro ⟨span, types, more, rfl⟩
    exact if_pos rfl

theorem forall₂_filterMap {α β : Type} (f : α → Option β) (as : List α) :
    List.Forall₂ (fun a b => a ∈ as ∧ f a = some b) (as.filter fun a => (f a).isSome)
      (as.filterMap f) := by
  induction as with
  | nil => exact .nil
  | cons a more ih =>
    replace ih := ih.imp fun _ _ h => And.imp_left (List.mem_cons_of_mem a) h
    cases h : f a with
    | none => rwa [List.filter_cons_of_neg (by simp [h]), List.filterMap_cons_none h]
    | some b =>
      rw [List.filter_cons_of_pos (by simp [h]), List.filterMap_cons_some h]
      exact .cons ⟨List.mem_cons_self, h⟩ ih

/-- The dependencies of a tree are exactly its calls of the name with a string: one for each place
at which such a call stands, with what the call says, and in the order of the places. -/
theorem dependencies_at_places (callee : String) (tree : Node) :
    ∃ places : List (List Nat), places.Pairwise (· < ·) ∧
      (∀ place, place ∈ places ↔ ∃ n d, at? place tree = some n ∧ n.Names callee d) ∧
      List.Forall₂ (fun place d => ∃ n, at? place tree = some n ∧ n.Names callee d)
        places (tree.dependencies callee) := by
  let found := tree.placed.filter fun p => (dependency? callee p.2).isSome
  refine ⟨found.map Prod.fst, ?_, fun place => ?_, ?_⟩
  · rw [List.pairwise_map]
    exact (pairwise_placed tree).filter _
  · constructor
    · intro h
      obtain ⟨⟨_, n⟩, hn, rfl⟩ := List.mem_map.1 h
      obtain ⟨hplaced, hsome⟩ := List.mem_filter.1 hn
      obtain ⟨d, hd⟩ := Option.isSome_iff_exists.1 hsome
      exact ⟨n, d, mem_placed.1 hplaced, dependency?_eq_some.1 hd⟩
    · rintro ⟨n, d, hplace, hnames⟩
      refine List.mem_map.2 ⟨(place, n), List.mem_filter.2 ⟨mem_placed.2 hplace, ?_⟩, rfl⟩
      simp [dependency?_eq_some.2 hnames]
  · rw [dependencies_eq_placed, List.forall₂_map_left_iff]
    refine (forall₂_filterMap (fun p => dependency? callee p.2) tree.placed).imp ?_
    rintro ⟨place, n⟩ d ⟨hplaced, hd⟩
    exact ⟨n, mem_placed.1 hplaced, dependency?_eq_some.1 hd⟩

end ModuleBundler.Script.Node
