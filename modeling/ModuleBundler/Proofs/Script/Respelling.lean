import Mathlib.Data.List.Basic
import ModuleBundler.Script.Dependency

/-! Trees that differ in what is written at their leaves, and in where it stands. Their calls are in
the same places, so what they depend on can be told from the leaves. -/
namespace ModuleBundler.Script

structure Word where
  kind : Leaf
  span : Span
  text : String
deriving DecidableEq

namespace Node

section Equality

mutual

def decEq : (a b : Node) → Decidable (a = b)
  | leaf kind span text, leaf kind' span' text' =>
    decidable_of_iff (kind = kind' ∧ span = span' ∧ text = text') (leaf.injEq ..).symm.to_iff
  | branch kind span parts, branch kind' span' parts' =>
    have := decEqIn parts parts'
    decidable_of_iff (kind = kind' ∧ span = span' ∧ parts = parts') (branch.injEq ..).symm.to_iff
  | call span f types arguments, call span' f' types' arguments' =>
    have := decEq f f'
    have := decEqIn types types'
    have := decEqIn arguments arguments'
    decidable_of_iff (span = span' ∧ f = f' ∧ types = types' ∧ arguments = arguments')
      (call.injEq ..).symm.to_iff
  | leaf .., branch .. | leaf .., call .. | branch .., leaf .. | branch .., call ..
  | call .., leaf .. | call .., branch .. => isFalse nofun

def decEqIn : (as bs : List Node) → Decidable (as = bs)
  | [], [] => isTrue rfl
  | a :: as, b :: bs =>
    have := decEq a b
    have := decEqIn as bs
    decidable_of_iff (a = b ∧ as = bs) (List.cons.injEq ..).symm.to_iff
  | [], _ :: _ | _ :: _, [] => isFalse nofun

end

instance : DecidableEq Node := decEq

end Equality

section Calls

mutual

def callNodes : Node → List Node
  | leaf .. => []
  | branch _ _ parts => callNodesIn parts
  | call span f types arguments =>
    call span f types arguments ::
      (callNodes f ++ (callNodesIn types ++ callNodesIn arguments))

def callNodesIn : List Node → List Node
  | [] => []
  | n :: more => callNodes n ++ callNodesIn more

end

mutual

theorem dependencies_eq (callee : String) : (n : Node) →
    n.dependencies callee = n.callNodes.filterMap (dependency? callee)
  | leaf .. => rfl
  | branch _ _ parts => dependenciesIn_eq callee parts
  | call span f types arguments => by
    rw [dependencies, dependencies_eq callee f, dependenciesIn_eq callee types,
      dependenciesIn_eq callee arguments, callNodes, List.filterMap_cons, List.filterMap_append,
      List.filterMap_append]
    cases dependency? callee (call span f types arguments) <;> rfl

theorem dependenciesIn_eq (callee : String) : (ns : List Node) →
    dependenciesIn callee ns = (callNodesIn ns).filterMap (dependency? callee)
  | [] => rfl
  | n :: more => by
    rw [dependenciesIn, dependencies_eq callee n, dependenciesIn_eq callee more, callNodesIn,
      List.filterMap_append]

end

end Calls

section Map

variable (place : Span → Span) (new : Word → String)

mutual

/-- The tree with its spans and the texts at its leaves changed. -/
def map : Node → Node
  | leaf kind span text => leaf kind (place span) (new ⟨kind, span, text⟩)
  | branch kind span parts => branch kind (place span) (mapIn parts)
  | call span f types arguments => call (place span) (map f) (mapIn types) (mapIn arguments)

def mapIn : List Node → List Node
  | [] => []
  | n :: more => map n :: mapIn more

end

def respell : Node → Node := map id new

/-- The tree without the places of its parts. -/
def unplaced : Node → Node := map (fun _ => ⟨0, 0⟩) Word.text

mutual

theorem callNodes_map : (n : Node) →
    (n.map place new).callNodes = n.callNodes.map (map place new)
  | leaf .. => rfl
  | branch _ _ parts => callNodesIn_mapIn parts
  | call span f types arguments => by
    rw [map, callNodes, callNodes_map f, callNodesIn_mapIn types, callNodesIn_mapIn arguments,
      callNodes, List.map_cons, List.map_append, List.map_append, map]

theorem callNodesIn_mapIn : (ns : List Node) →
    callNodesIn (mapIn place new ns) = (callNodesIn ns).map (map place new)
  | [] => rfl
  | n :: more => by
    rw [mapIn, callNodesIn, callNodes_map n, callNodesIn_mapIn more, callNodesIn, List.map_append]

end

end Map

section Literal

def literalCall? : Node → Option (String × DependencyCall)
  | call _ (leaf .identifier at_ name) _ (leaf .string argument specifier :: _) =>
    some (name, ⟨specifier, at_, argument⟩)
  | _ => none

theorem dependency?_eq (callee : String) (n : Node) : dependency? callee n =
    (literalCall? n).bind fun d => if d.1 = callee then some d.2 else none := by
  unfold dependency?
  split
  · rfl
  · next hother =>
    rw [literalCall?.eq_2 n hother]
    rfl

def literalCalls (n : Node) : List (String × DependencyCall) := n.callNodes.filterMap literalCall?

theorem dependencies_eq_literalCalls (callee : String) (n : Node) :
    n.dependencies callee =
      n.literalCalls.filterMap fun d => if d.1 = callee then some d.2 else none := by
  rw [dependencies_eq, literalCalls, List.filterMap_filterMap]
  exact congrArg (n.callNodes.filterMap ·) (funext (dependency?_eq callee))

variable (place : Span → Span) (new : Word → String)

def mapCall (d : String × DependencyCall) : String × DependencyCall :=
  (new ⟨.identifier, d.2.callee, d.1⟩,
    ⟨new ⟨.string, d.2.argument, d.2.specifier⟩, place d.2.callee, place d.2.argument⟩)

theorem literalCall?_map (n : Node) :
    literalCall? (n.map place new) = (literalCall? n).map (mapCall place new) := by
  -- only a call tells, by the kinds of the leaf that is called and of the first argument
  rcases n with _ | ⟨_, ⟨kind, _, _⟩ | _ | _, _, _ | ⟨⟨kind', _, _⟩ | _ | _, _⟩⟩ | _ <;>
    try rfl
  all_goals cases kind <;> try rfl
  all_goals cases kind' <;> rfl

theorem literalCalls_map (n : Node) :
    (n.map place new).literalCalls = n.literalCalls.map (mapCall place new) := by
  rw [literalCalls, callNodes_map, List.filterMap_map, literalCalls, List.map_filterMap]
  exact congrArg (n.callNodes.filterMap ·) (funext (literalCall?_map place new))

end Literal

section Respelled

variable {callee loader : String} {new : Word → String} {n n' : Node}

theorem mem_dependencies {d : DependencyCall} :
    d ∈ n.dependencies callee ↔ (callee, d) ∈ n.literalCalls := by
  rw [dependencies_eq_literalCalls, List.mem_filterMap]
  constructor
  · rintro ⟨⟨name, d'⟩, hmem, heq⟩
    obtain ⟨rfl, rfl⟩ : name = callee ∧ d' = d := by simpa using heq
    exact hmem
  · exact fun hmem => ⟨_, hmem, if_pos rfl⟩

def said (d : String × DependencyCall) : String × String := (d.1, d.2.specifier)

theorem map_specifier_dependencies (callee : String) (n : Node) :
    (n.dependencies callee).map DependencyCall.specifier =
      (n.literalCalls.map said).filterMap fun d => if d.1 = callee then some d.2 else none := by
  rw [dependencies_eq_literalCalls, List.map_filterMap, List.filterMap_map]
  refine congrArg (n.literalCalls.filterMap ·) (funext fun d => ?_)
  by_cases h : d.1 = callee <;> simp [said, h]

theorem said_of_unplaced_eq (h : n'.unplaced = (n.respell new).unplaced) :
    n'.literalCalls.map said = n.literalCalls.map fun d =>
      (new ⟨.identifier, d.2.callee, d.1⟩, new ⟨.string, d.2.argument, d.2.specifier⟩) := by
  have hsaid := congrArg (fun m => m.literalCalls.map said) h
  simp only [unplaced, respell, literalCalls_map, List.map_map] at hsaid
  exact hsaid

/-- The calls of one name are made those of another, which the tree did not call. -/
theorem specifiers_respelled (h : n'.unplaced = (n.respell new).unplaced)
    (hloader : n.dependencies loader = []) (hne : callee ≠ loader)
    (hname : ∀ d ∈ n.dependencies callee, new ⟨.identifier, d.callee, callee⟩ = loader)
    (hother : ∀ span text, text ≠ callee → new ⟨.identifier, span, text⟩ = text) :
    (n'.dependencies loader).map DependencyCall.specifier =
        (n.dependencies callee).map (fun d => new ⟨.string, d.argument, d.specifier⟩) ∧
      n'.dependencies callee = [] := by
  have hnames : ∀ d ∈ n.literalCalls, new ⟨.identifier, d.2.callee, d.1⟩ =
      if d.1 = callee then loader else d.1 := by
    rintro ⟨name, d⟩ hd
    by_cases hcallee : name = callee
    · subst hcallee
      rw [if_pos rfl]
      exact hname d (mem_dependencies.2 hd)
    · rw [if_neg hcallee]
      exact hother d.callee name hcallee
  have hno : ∀ d ∈ n.literalCalls, d.1 ≠ loader := by
    rintro ⟨name, d⟩ hd rfl
    exact absurd (hloader ▸ mem_dependencies.2 hd) List.not_mem_nil
  have hsaid := said_of_unplaced_eq h
  -- of a call both sides keep the name and the string alone, and the new name tells which it was
  constructor
  · rw [map_specifier_dependencies, hsaid, List.filterMap_map, dependencies_eq_literalCalls,
      List.map_filterMap]
    refine List.filterMap_congr fun d hd => ?_
    rw [Function.comp_apply, hnames d hd]
    by_cases hcallee : d.1 = callee
    · simp [hcallee]
    · simp [hcallee, hno d hd]
  · rw [← List.map_eq_nil_iff (f := DependencyCall.specifier), map_specifier_dependencies, hsaid,
      List.filterMap_map, List.filterMap_eq_nil_iff]
    intro d hd
    rw [Function.comp_apply, hnames d hd]
    by_cases hcallee : d.1 = callee
    · simp [hcallee, hne.symm]
    · simp [hcallee]

end Respelled

end Node

end ModuleBundler.Script
