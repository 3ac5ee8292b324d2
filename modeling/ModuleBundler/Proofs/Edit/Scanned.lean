import Mathlib.Data.List.Flatten
import Mathlib.Data.List.Perm.Subperm
import ModuleBundler.Proofs.Edit.ReadBack
import ModuleBundler.Proofs.Edit.Walk
import ModuleBundler.Proofs.Script.Place

/-! The words of the calls that were found in a text. If the nodes of its tree stand as they should,
each in the node that it is a part of and behind the parts before it, then these words lie apart, so
that any of them can be replaced. They are listed call by call: the words of a call before those of
the calls in its type arguments, though these stand between the two. -/
namespace ModuleBundler

open Script (Span DependencyCall)

namespace Script

namespace Node

def nodes (n : Node) : List Node := n.placed.map Prod.snd

def typeArguments : Node → List Node
  | call _ _ types _ => types
  | _ => []

/-- Where the nodes of a tree stand in a text: between characters, names and strings on some of
them, every node within the one that it is a part of, and behind the parts before it. -/
structure Laid (text : String) (tree : Node) : Prop where
  within : ∀ n ∈ tree.nodes, n.span.Within text
  nonempty : ∀ n ∈ tree.nodes, n.isLeaf .identifier ∨ n.isLeaf .string → n.span.start < n.span.stop
  nested : ∀ n ∈ tree.nodes, ∀ m ∈ n.parts,
    n.span.start ≤ m.span.start ∧ m.span.stop ≤ n.span.stop
  ordered : ∀ n ∈ tree.nodes, n.parts.Pairwise fun a b => a.span.Before b.span

instance (text : String) (tree : Node) : Decidable (tree.Laid text) :=
  decidable_of_iff ((∀ n ∈ tree.nodes, n.span.Within text) ∧
      (∀ n ∈ tree.nodes, n.isLeaf .identifier ∨ n.isLeaf .string → n.span.start < n.span.stop) ∧
      (∀ n ∈ tree.nodes, ∀ m ∈ n.parts,
        n.span.start ≤ m.span.start ∧ m.span.stop ≤ n.span.stop) ∧
      ∀ n ∈ tree.nodes, n.parts.Pairwise fun a b => a.span.Before b.span)
    ⟨fun h => ⟨h.1, h.2.1, h.2.2.1, h.2.2.2⟩, fun h => ⟨h.1, h.2, h.3, h.4⟩⟩

theorem map_snd_placedFrom (i : Nat) (ns : List Node) :
    (placedFrom i ns).map Prod.snd = ns.flatMap nodes := by
  induction ns generalizing i with
  | nil => rfl
  | cons n more ih =>
    rw [placedFrom, List.map_append, ih, List.map_map, List.flatMap_cons]
    rfl

theorem nodes_eq (n : Node) : n.nodes = n :: n.parts.flatMap nodes := by
  rw [nodes, placed_eq, List.map_cons, map_snd_placedFrom]

theorem mem_nodes_self (n : Node) : n ∈ n.nodes := by
  rw [nodes_eq]
  exact List.mem_cons_self

theorem nodes_subset {n m : Node} (h : m ∈ n.parts) : m.nodes ⊆ n.nodes := by
  rw [nodes_eq n]
  exact fun a ha => List.mem_cons_of_mem _ (List.mem_flatMap.2 ⟨m, h, ha⟩)

variable {text : String} {callee : String} {n : Node}

theorem Laid.part (h : n.Laid text) {m : Node} (hm : m ∈ n.parts) : m.Laid text where
  within a ha := h.within a (nodes_subset hm ha)
  nonempty a ha := h.nonempty a (nodes_subset hm ha)
  nested a ha := h.nested a (nodes_subset hm ha)
  ordered a ha := h.ordered a (nodes_subset hm ha)

def words (callee : String) (n : Node) : List Span :=
  (n.dependencies callee).flatMap fun d => [d.callee, d.argument]

theorem words_eq_nil {n : Node} : n.words callee = [] ↔ n.dependencies callee = [] := by
  rw [words, List.flatMap_eq_nil_iff, List.eq_nil_iff_forall_not_mem]
  exact forall_congr' fun d => forall_congr' fun _ => iff_of_false (List.cons_ne_nil _ _) id

theorem words_of_none (h : dependency? callee n = none) :
    n.words callee = n.parts.flatMap (words callee) := by
  rw [words, dependencies_eq_parts, h]
  exact List.flatMap_assoc

theorem words_of_some {d : DependencyCall} (h : dependency? callee n = some d) :
    n.words callee = d.callee :: d.argument :: n.parts.flatMap (words callee) := by
  rw [words, dependencies_eq_parts, h]
  exact congrArg (d.callee :: d.argument :: ·) List.flatMap_assoc

theorem parts_of_names {d : DependencyCall} (h : n.Names callee d) :
    ∃ more, n.parts = leaf .identifier d.callee callee :: (n.typeArguments ++
      leaf .string d.argument d.specifier :: more) := by
  obtain ⟨span, types, more, rfl⟩ := h
  exact ⟨more, rfl⟩

theorem Laid.within_words (h : n.Laid text) (callee : String) : ∀ s ∈ n.words callee,
    n.span.start ≤ s.start ∧ s.start < s.stop ∧ s.stop ≤ n.span.stop ∧ s.Within text := by
  induction n using parts_induction with
  | step n ih =>
    -- the words of a call are leaves among its parts
    have hleaf : ∀ kind s said, (kind = .identifier ∨ kind = .string) →
        leaf kind s said ∈ n.parts → n.span.start ≤ s.start ∧ s.start < s.stop ∧
          s.stop ≤ n.span.stop ∧ s.Within text := by
      intro kind s said hkind hm
      have hmem := nodes_subset hm (mem_nodes_self _)
      have hnested := h.nested n (mem_nodes_self n) _ hm
      refine ⟨hnested.1, h.nonempty _ hmem ?_, hnested.2, h.within _ hmem⟩
      rcases hkind with rfl | rfl
      · exact .inl rfl
      · exact .inr rfl
    have hbelow : ∀ s ∈ n.parts.flatMap (words callee), n.span.start ≤ s.start ∧
        s.start < s.stop ∧ s.stop ≤ n.span.stop ∧ s.Within text := by
      intro s hs
      obtain ⟨m, hm, hs⟩ := List.mem_flatMap.1 hs
      have hnested := h.nested n (mem_nodes_self n) m hm
      obtain ⟨hstart, hlt, hstop, hwithin⟩ := ih m hm (h.part hm) s hs
      exact ⟨by omega, hlt, by omega, hwithin⟩
    cases hd : dependency? callee n with
    | none => rwa [words_of_none hd]
    | some d =>
      obtain ⟨more, hparts⟩ := parts_of_names (dependency?_eq_some.1 hd)
      rw [words_of_some hd]
      refine List.forall_mem_cons.2 ⟨?_, List.forall_mem_cons.2 ⟨?_, hbelow⟩⟩
      · exact hleaf .identifier d.callee callee (.inl rfl) (by simp [hparts])
      · exact hleaf .string d.argument d.specifier (.inr rfl) (by simp [hparts])

theorem Laid.bounds_words (h : n.Laid text) (callee : String) : ∀ s ∈ n.words callee,
    n.span.start ≤ s.start ∧ s.stop ≤ n.span.stop := by
  intro s hs
  obtain ⟨hstart, -, hstop, -⟩ := h.within_words callee s hs
  exact ⟨hstart, hstop⟩

theorem Laid.exists_part (h : n.Laid text) {s : Span} (hs : s ∈ n.words callee) :
    ∃ m ∈ n.parts, m.span.start ≤ s.start ∧ s.stop ≤ m.span.stop := by
  have hbelow : ∀ s ∈ n.parts.flatMap (words callee),
      ∃ m ∈ n.parts, m.span.start ≤ s.start ∧ s.stop ≤ m.span.stop := by
    intro s hs
    obtain ⟨m, hm, hs⟩ := List.mem_flatMap.1 hs
    exact ⟨m, hm, (h.part hm).bounds_words callee s hs⟩
  cases hd : dependency? callee n with
  | none => exact hbelow s (words_of_none hd ▸ hs)
  | some d =>
    obtain ⟨more, hparts⟩ := parts_of_names (dependency?_eq_some.1 hd)
    rw [words_of_some hd] at hs
    rcases List.mem_cons.1 hs with rfl | hs
    · exact ⟨leaf .identifier d.callee callee, by simp [hparts], Nat.le_refl _, Nat.le_refl _⟩
    rcases List.mem_cons.1 hs with rfl | hs
    · exact ⟨leaf .string d.argument d.specifier, by simp [hparts], Nat.le_refl _, Nat.le_refl _⟩
    · exact hbelow s hs

theorem pairwise_flatMap_words {R : Span → Span → Prop} (hR : ∀ a b, a.Before b → R a b)
    {f : Node → List Span} {ns : List Node}
    (hordered : ns.Pairwise fun a b => a.span.Before b.span)
    (hf : ∀ m ∈ ns, ∀ s ∈ f m, m.span.start ≤ s.start ∧ s.stop ≤ m.span.stop) :
    (ns.flatMap f).Pairwise R ↔ ∀ m ∈ ns, (f m).Pairwise R := by
  rw [List.pairwise_flatMap]
  refine and_iff_left (hordered.imp_of_mem fun {a b} ha hb hab s hs t ht => hR s t ?_)
  have := hf a ha s hs
  have := hf b hb t ht
  unfold Span.Before at hab ⊢
  omega

theorem Laid.words_of_names (h : n.Laid text) {d : DependencyCall} (hd : n.Names callee d) :
    ∃ inner outer, n.parts.flatMap (words callee) = inner ++ outer ∧
      inner = n.typeArguments.flatMap (words callee) ∧ d.callee.Before d.argument ∧
      (∀ s ∈ inner, d.callee.Before s ∧ s.Before d.argument) ∧
      ∀ s ∈ outer, d.callee.Before s ∧ d.argument.Before s := by
  obtain ⟨more, hparts⟩ := parts_of_names hd
  have hordered := h.ordered n (mem_nodes_self n)
  rw [hparts, List.pairwise_cons, List.pairwise_append, List.pairwise_cons] at hordered
  obtain ⟨hcallee, -, ⟨hargument, -⟩, htypes⟩ := hordered
  -- parts stand in the order in which they are listed, and no word leaves its part
  have hbounds : ∀ m ∈ n.parts, ∀ s ∈ m.words callee,
      m.span.start ≤ s.start ∧ s.stop ≤ m.span.stop :=
    fun m hm => (h.part hm).bounds_words callee
  rw [hparts] at hbounds ⊢
  refine ⟨_, more.flatMap (words callee), ?_, rfl, hcallee (leaf .string d.argument d.specifier)
    (by simp), fun s hs => ?_, fun s hs => ?_⟩
  · rw [List.flatMap_cons, List.flatMap_append, List.flatMap_cons]
    rfl
  · obtain ⟨m, hm, hs⟩ := List.mem_flatMap.1 hs
    have hbound := hbounds m (by simp [hm]) s hs
    have hbefore : d.callee.stop ≤ m.span.start := hcallee m (by simp [hm])
    have hbehind : m.span.stop ≤ d.argument.start := htypes m hm _ List.mem_cons_self
    unfold Span.Before
    omega
  · obtain ⟨m, hm, hs⟩ := List.mem_flatMap.1 hs
    have hbound := hbounds m (by simp [hm]) s hs
    have hbefore : d.callee.stop ≤ m.span.start := hcallee m (by simp [hm])
    have hbehind : d.argument.stop ≤ m.span.start := hargument m hm
    unfold Span.Before
    omega

theorem Laid.pairwise_parts (h : n.Laid text) (callee : String) {R : Span → Span → Prop}
    (hR : ∀ a b, a.Before b → R a b) : (n.parts.flatMap (words callee)).Pairwise R ↔
      ∀ m ∈ n.parts, (m.words callee).Pairwise R :=
  pairwise_flatMap_words hR (h.ordered n (mem_nodes_self n))
    fun _ hm => (h.part hm).bounds_words callee

theorem Laid.apart_words (h : n.Laid text) : (n.words callee).Pairwise Span.Apart := by
  induction n using parts_induction with
  | step n ih =>
    have hparts := (h.pairwise_parts callee fun _ _ => Or.inl).2
      fun m hm => ih m hm (h.part hm)
    cases hd : dependency? callee n with
    | none => rwa [words_of_none hd]
    | some d =>
      obtain ⟨inner, outer, heq, -, hown, hinner, houter⟩ :=
        h.words_of_names (dependency?_eq_some.1 hd)
      -- the words of the call are on either side of those in its type arguments
      rw [words_of_some hd]
      rw [heq] at hparts ⊢
      refine List.pairwise_cons.2 ⟨List.forall_mem_cons.2 ⟨.inl hown, ?_⟩,
        List.pairwise_cons.2 ⟨?_, hparts⟩⟩
      · exact List.forall_mem_append.2
          ⟨fun s hs => .inl (hinner s hs).1, fun s hs => .inl (houter s hs).1⟩
      · exact List.forall_mem_append.2
          ⟨fun s hs => .inr (hinner s hs).2, fun s hs => .inl (houter s hs).2⟩

/-- No call of the name is in the type arguments of another. -/
def QuietTypes (callee : String) (n : Node) : Prop :=
  ∀ m ∈ n.nodes, (dependency? callee m).isSome → ∀ t ∈ m.typeArguments, t.dependencies callee = []

theorem quietTypes_iff : n.QuietTypes callee ↔
    ((dependency? callee n).isSome → ∀ t ∈ n.typeArguments, t.dependencies callee = []) ∧
      ∀ m ∈ n.parts, m.QuietTypes callee := by
  unfold QuietTypes
  rw [nodes_eq, List.forall_mem_cons]
  refine and_congr_right fun _ => ⟨fun h m hm a ha => ?_, fun h a ha => ?_⟩
  · exact h a (List.mem_flatMap.2 ⟨m, hm, ha⟩)
  · obtain ⟨m, hm, ha⟩ := List.mem_flatMap.1 ha
    exact h m hm a ha

/-- The words of the calls of a tree are listed as they stand in the text exactly if no such call
is in the type arguments of another. -/
theorem Laid.before_words_iff (h : n.Laid text) :
    (n.words callee).Pairwise Span.Before ↔ n.QuietTypes callee := by
  induction n using parts_induction with
  | step n ih =>
    have hparts : (n.parts.flatMap (words callee)).Pairwise Span.Before ↔
        ∀ m ∈ n.parts, m.QuietTypes callee :=
      (h.pairwise_parts callee fun _ _ h => h).trans
        (forall_congr' fun m => forall_congr' fun hm => ih m hm (h.part hm))
    rw [quietTypes_iff, ← hparts]
    cases hd : dependency? callee n with
    | none => simp [words_of_none hd]
    | some d =>
      obtain ⟨inner, outer, heq, htypes, hown, hinner, houter⟩ :=
        h.words_of_names (dependency?_eq_some.1 hd)
      have hwords := h.within_words callee
      rw [words_of_some hd, heq] at hwords ⊢
      -- a word of the type arguments stands before the argument, and is listed behind it
      have hnone : (∀ s ∈ inner, d.argument.Before s) ↔
          ∀ t ∈ n.typeArguments, t.dependencies callee = [] := by
        rw [htypes] at hinner hwords ⊢
        simp only [← words_eq_nil, ← List.flatMap_eq_nil_iff]
        constructor
        · intro hbefore
          rw [List.eq_nil_iff_forall_not_mem]
          intro s hs
          have hs' : s.stop ≤ d.argument.start := (hinner s hs).2
          have ha : d.argument.stop ≤ s.start := hbefore s hs
          have hlt := (hwords s (by simp [hs])).2.1
          have halt := (hwords d.argument (by simp)).2.1
          omega
        · intro hnil
          simp [hnil]
      rw [List.pairwise_cons, List.pairwise_cons, List.forall_mem_cons, List.forall_mem_append,
        List.forall_mem_append, hnone]
      constructor
      · exact fun hall => ⟨fun _ => hall.2.1.1, hall.2.2⟩
      · rintro ⟨hquiet, hrest⟩
        exact ⟨⟨hown, fun s hs => (hinner s hs).1, fun s hs => (houter s hs).1⟩,
          ⟨hquiet rfl, fun s hs => (houter s hs).2⟩, hrest⟩

theorem Laid.before_callees (h : n.Laid text) (callee : String) :
    ((n.dependencies callee).map DependencyCall.callee).Pairwise Span.Before ∧
      ∀ d ∈ n.dependencies callee, d.callee.Before d.argument := by
  have hsub : ∀ m : Node, ∀ s ∈ (m.dependencies callee).map DependencyCall.callee,
      s ∈ m.words callee := by
    intro m s hs
    obtain ⟨d, hd, rfl⟩ := List.mem_map.1 hs
    exact List.mem_flatMap.2 ⟨d, hd, List.mem_cons_self⟩
  induction n using parts_induction with
  | step n ih =>
    have hparts : (n.parts.flatMap fun m =>
        (m.dependencies callee).map DependencyCall.callee).Pairwise Span.Before := by
      refine (pairwise_flatMap_words (fun _ _ h => h) (h.ordered n (mem_nodes_self n)) ?_).2
        fun m hm => (ih m hm (h.part hm)).1
      exact fun m hm s hs => (h.part hm).bounds_words callee s (hsub m s hs)
    have hbelow : ∀ d ∈ n.parts.flatMap (dependencies callee), d.callee.Before d.argument := by
      intro d hd
      obtain ⟨m, hm, hd⟩ := List.mem_flatMap.1 hd
      exact (ih m hm (h.part hm)).2 d hd
    rw [dependencies_eq_parts, List.map_append, List.map_flatMap]
    cases hd : dependency? callee n with
    | none => exact ⟨hparts, hbelow⟩
    | some d =>
      obtain ⟨inner, outer, heq, -, hown, hinner, houter⟩ :=
        h.words_of_names (dependency?_eq_some.1 hd)
      refine ⟨List.pairwise_cons.2 ⟨fun s hs => ?_, hparts⟩, List.forall_mem_cons.2 ⟨hown, hbelow⟩⟩
      obtain ⟨m, hm, hs⟩ := List.mem_flatMap.1 hs
      have hmem : s ∈ inner ++ outer := heq ▸ List.mem_flatMap.2 ⟨m, hm, hsub m s hs⟩
      exact (List.mem_append.1 hmem).elim (fun hs => (hinner s hs).1) fun hs => (houter s hs).1

end Node

/-- A program whose nodes stand in a text as they should, behind the line that addresses the
system's loader if there is one. -/
structure Program.Laid (text : String) (p : Program) : Prop where
  tree : p.tree.Laid text
  hashbang : ∀ s, p.hashbang = some s →
    (∃ before after, text.toList = before ++ '#' :: '!' :: after ∧ byteLength before = s.start) ∧
      ∀ n ∈ p.tree.parts, s.start + 2 ≤ n.span.start

namespace Scan

def sign (found : Scan) : List Span := (Sources.startPlan found).edits.map Edit.span

end Scan

section Found

variable {text : String} {callee : String} {p : Program}

theorem Program.Laid.sign_cases (h : p.Laid text) (callee : String) : (p.found callee).sign = [] ∨
    ∃ s, (p.found callee).sign = [s] ∧ s.start < s.stop ∧ s.Within text ∧
      ∀ t ∈ p.tree.words callee, s.Before t := by
  have hhashbang := h.hashbang
  unfold Scan.sign Sources.startPlan Program.found
  cases hp : p.hashbang with
  | none => exact .inl rfl
  | some s =>
    obtain ⟨⟨before, after, htext, hbefore⟩, hparts⟩ := hhashbang s hp
    refine .inr ⟨⟨s.start, s.start + 2⟩, rfl, Nat.lt_add_of_pos_right (by decide), ?_, ?_⟩
    · have hwithin := Span.within_append before ['#', '!'] after
      rw [hbefore, List.append_assoc, List.cons_append, List.cons_append, List.nil_append, ← htext,
        String.ofList_toList] at hwithin
      exact hwithin
    · intro t ht
      obtain ⟨m, hm, hstart, -⟩ := h.tree.exists_part ht
      exact Nat.le_trans (hparts m hm) hstart

theorem tokens_found (callee : String) (p : Program) :
    (p.found callee).tokens = (p.found callee).sign ++ p.tree.words callee := rfl

theorem Program.Laid.tokens_apart (h : p.Laid text) (callee : String) :
    (∀ s ∈ (p.found callee).tokens, s.start < s.stop ∧ s.Within text) ∧
      (p.found callee).tokens.Pairwise Span.Apart := by
  have hwords : ∀ s ∈ p.tree.words callee, s.start < s.stop ∧ s.Within text := by
    intro s hs
    obtain ⟨-, hlt, -, hwithin⟩ := h.tree.within_words callee s hs
    exact ⟨hlt, hwithin⟩
  rw [tokens_found]
  rcases h.sign_cases callee with hsign | ⟨s, hsign, hlt, hwithin, hbefore⟩
  · rw [hsign]
    exact ⟨hwords, h.tree.apart_words⟩
  · rw [hsign]
    exact ⟨List.forall_mem_cons.2 ⟨⟨hlt, hwithin⟩, hwords⟩,
      List.pairwise_cons.2 ⟨fun t ht => .inl (hbefore t ht), h.tree.apart_words⟩⟩

theorem Program.Laid.before_tokens_iff (h : p.Laid text) :
    (p.found callee).tokens.Pairwise Span.Before ↔ p.tree.QuietTypes callee := by
  rw [tokens_found, ← h.tree.before_words_iff]
  rcases h.sign_cases callee with hsign | ⟨s, hsign, -, -, hbefore⟩
  · rw [hsign]
    exact Iff.rfl
  · rw [hsign]
    exact List.pairwise_cons.trans (and_iff_right hbefore)

theorem Program.Laid.before_callees (h : p.Laid text) (callee : String) :
    ((p.found callee).sign ++ (p.found callee).calls.map DependencyCall.callee).Pairwise
        Span.Before ∧
      ∀ d ∈ (p.found callee).calls, d.callee.Before d.argument := by
  obtain ⟨hcallees, hown⟩ := h.tree.before_callees callee
  refine ⟨?_, hown⟩
  rcases h.sign_cases callee with hsign | ⟨s, hsign, -, -, hbefore⟩
  · rw [hsign]
    exact hcallees
  · rw [hsign]
    refine List.pairwise_cons.2 ⟨fun t ht => hbefore t ?_, hcallees⟩
    obtain ⟨d, hd, rfl⟩ := List.mem_map.1 ht
    exact List.mem_flatMap.2 ⟨d, hd, List.mem_cons_self⟩

theorem Program.Laid.fits (h : p.Laid text) {plan : EditPlan}
    (hplan : (plan.edits.map Edit.span).Subperm (p.found callee).tokens) : plan.Fits text := by
  obtain ⟨hwithin, hapart⟩ := h.tokens_apart callee
  obtain ⟨spans, hperm, hsub⟩ := hplan
  have hspans : (plan.edits.map Edit.span).Pairwise Span.Apart :=
    (hperm.pairwise_iff fun hab => hab.symm).1 (hapart.sublist hsub)
  have hmem : ∀ e ∈ plan.edits, e.span ∈ (p.found callee).tokens := fun e he =>
    hsub.subset (hperm.symm.subset (List.mem_map_of_mem he))
  have hseparable : plan.Separable text :=
    ⟨fun e he => (hwithin _ (hmem e he)).1, fun e he => (hwithin _ (hmem e he)).2,
      List.pairwise_map.1 hspans⟩
  exact hseparable.fits

/-- The plan that redirects some of the calls that were found, after other edits. -/
def redirectAll (start : EditPlan) (steps : List (DependencyCall × String)) : EditPlan :=
  steps.foldl (fun plan step => plan.redirect step.1 step.2) start

theorem subperm_redirectAll {found : Scan} {start : EditPlan}
    (hstart : start = .empty ∨ start = Sources.startPlan found)
    {steps : List (DependencyCall × String)} (hsteps : (steps.map Prod.fst).Subperm found.calls) :
    ((redirectAll start steps).edits.map Edit.span).Subperm found.tokens := by
  have hspans : (redirectAll start steps).edits.map Edit.span = start.edits.map Edit.span ++
      (steps.map Prod.fst).flatMap fun call => [call.callee, call.argument] := by
    rw [redirectAll, edits_foldl_redirect, List.map_append, List.map_flatMap, List.flatMap_map]
    rfl
  obtain ⟨calls, hperm, hsub⟩ := hsteps
  rw [hspans, Scan.tokens]
  refine List.Subperm.append ?_ ⟨_, hperm.flatMap_right _, hsub.flatMap _⟩
  rcases hstart with rfl | rfl
  · exact List.nil_subperm
  · exact .refl _

/-- Edits that were found by one reading of a text can be made. The words of the calls and the sign
of a hashbang are some bytes of the text each and lie apart: the sign before all, the names of the
calls in their order, and each name before the string of its call. So far as they are listed they
are in their order too, unless a call is in the type arguments of another. Whichever calls are
redirected, and to whatever modules, every edit finds its span in the text as it is by then. -/
theorem tokens_of_scan_fit {read : Dialect → List Char → Except Fault Program} {dialect : Dialect}
    {found : Scan} (hlaid : ∀ program, read dialect text.toList = .ok program → program.Laid text)
    (hfound : scanBy read callee dialect text = .ok found) :
    (∀ s ∈ found.tokens, s.start < s.stop ∧ s.Within text) ∧
    found.tokens.Pairwise Span.Apart ∧
    (found.sign ++ found.calls.map DependencyCall.callee).Pairwise Span.Before ∧
    (∀ call ∈ found.calls, call.callee.Before call.argument) ∧
    (∃ program, read dialect text.toList = .ok program ∧
      (found.tokens.Pairwise Span.Before ↔ program.tree.QuietTypes callee)) ∧
    ∀ start, start = .empty ∨ start = Sources.startPlan found →
      ∀ steps : List (DependencyCall × String), (steps.map Prod.fst).Subperm found.calls →
        (redirectAll start steps).Fits text := by
  obtain ⟨program, hread, rfl⟩ := scanBy_eq_ok.1 hfound
  have hprogram := hlaid program hread
  obtain ⟨hwithin, hapart⟩ := hprogram.tokens_apart callee
  obtain ⟨hcallees, hown⟩ := hprogram.before_callees callee
  refine ⟨hwithin, hapart, hcallees, hown, ⟨program, hread, hprogram.before_tokens_iff⟩, ?_⟩
  exact fun start hstart steps hsteps => hprogram.fits (subperm_redirectAll hstart hsteps)

end Found

section Typed

def typedDialect : Dialect := .ofFileName "a.ts".toList

/-- What can be compared of a program that was read: whether its nodes stand as they should, behind
so many bytes, and what was found in it. -/
def overview (text : String) (lead : Nat) (p : Program) :
    Bool × List DependencyCall × Option Span :=
  (decide (p.tree.Laid text ∧ ∀ n ∈ p.tree.parts, lead ≤ n.span.start),
    p.tree.dependencies "require", p.hashbang)

theorem read_of_overview (text : String) (lead : Nat) (found : Scan)
    (h : (Program.read typedDialect text.toList).toOption.map (overview text lead) =
      some (true, found.calls, found.hashbang)) :
    ∃ program, Program.read typedDialect text.toList = .ok program ∧
      program.found "require" = found ∧ program.tree.Laid text ∧
      ∀ n ∈ program.tree.parts, lead ≤ n.span.start := by
  cases hread : Program.read typedDialect text.toList with
  | error e =>
    rw [hread] at h
    cases h
  | ok program =>
    rw [hread] at h
    simp only [Except.toOption, Option.map_some, overview, Option.some.injEq, Prod.mk.injEq,
      decide_eq_true_eq] at h
    obtain ⟨⟨hlaid, hlead⟩, hcalls, hhashbang⟩ := h
    refine ⟨program, rfl, ?_, hlaid, hlead⟩
    rw [Program.found, hcalls, hhashbang]

def typedText : String := "require<\x7b[require('a')]: 1\x7d>('z')"

def typedFound : Scan := ⟨[⟨"z", ⟨0, 7⟩, ⟨29, 32⟩⟩, ⟨"a", ⟨10, 17⟩, ⟨18, 21⟩⟩], none⟩

/-- The words of a call in type arguments are listed behind the string that they stand before. -/
theorem tokens_disordered_by_types :
    ∃ program, Program.read typedDialect typedText.toList = .ok program ∧
      program.Laid typedText ∧ scan "require" typedDialect typedText = .ok typedFound ∧
      typedFound.tokens = [⟨0, 7⟩, ⟨29, 32⟩, ⟨10, 17⟩, ⟨18, 21⟩] ∧
      ¬ typedFound.tokens.Pairwise Span.Before := by
  obtain ⟨program, hread, hfound, hlaid, -⟩ :=
    read_of_overview typedText 0 typedFound (by decide +kernel)
  have hhashbang : program.hashbang = none := congrArg Scan.hashbang hfound
  refine ⟨program, hread, ⟨hlaid, ?_⟩, ?_, rfl, by decide⟩
  · rw [hhashbang]
    exact nofun
  · rw [scan_eq_scanBy]
    exact scanBy_eq_ok.2 ⟨program, hread, hfound⟩

def runText : String := "#!/n\nrequire<\x7b[require('é')]: 1\x7d>('z', require('b'))"

def runFound : Scan :=
  ⟨[⟨"z", ⟨5, 12⟩, ⟨35, 38⟩⟩, ⟨"é", ⟨15, 22⟩, ⟨23, 27⟩⟩, ⟨"b", ⟨40, 47⟩, ⟨48, 51⟩⟩], some ⟨0, 4⟩⟩

/-- The first call and the last can be redirected without the one between them. -/
theorem tokens_of_run_fit :
    scan "require" typedDialect runText = .ok runFound ∧
    runFound.tokens.Pairwise Span.Apart ∧ ¬ runFound.tokens.Pairwise Span.Before ∧
    ∀ first last, (redirectAll (Sources.startPlan runFound)
      [(⟨"z", ⟨5, 12⟩, ⟨35, 38⟩⟩, first), (⟨"b", ⟨40, 47⟩, ⟨48, 51⟩⟩, last)]).Fits runText := by
  obtain ⟨program, hread, hfound, htree, hlead⟩ :=
    read_of_overview runText 2 runFound (by decide +kernel)
  have hhashbang : program.hashbang = some ⟨0, 4⟩ := congrArg Scan.hashbang hfound
  have hlaid : program.Laid runText := by
    refine ⟨htree, fun s hs => ?_⟩
    obtain rfl := Option.some.inj (hhashbang.symm.trans hs)
    exact ⟨⟨[], _, rfl, rfl⟩, hlead⟩
  have hscan := scanBy_eq_ok.2 ⟨program, hread, hfound⟩
  obtain ⟨-, hapart, -, -, -, hfits⟩ := tokens_of_scan_fit
    (fun other hother => Except.ok.inj (hread.symm.trans hother) ▸ hlaid) hscan
  refine ⟨scan_eq_scanBy ▸ hscan, hapart, by decide, fun first last => ?_⟩
  refine hfits _ (.inr rfl) _ (List.Sublist.subperm ?_)
  exact .cons_cons _ (.cons _ (.refl _))

end Typed

end Script

end ModuleBundler
