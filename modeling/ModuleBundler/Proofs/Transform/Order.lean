import ModuleBundler.Transform

/-! The order in which the transforms of a module run: those of later rules before those of earlier
ones, and in a rule from the last to the first. Rules that are put together are run as two builds
one after the other would run them, so what is configured before a transform that fails never
counts. -/
namespace ModuleBundler.Transform

variable {path : Path} {text input : String} {e : BuildError}

section Run

def attempt (t : Transform) (path : Path) (text : String) : Except BuildError String :=
  (t.run text).mapError fun chain => .transform path t.name (chainMessage chain)

theorem runAll_append (first second : List Transform) (text : String) :
    runAll path (first ++ second) text = (runAll path first text).bind (runAll path second) := by
  induction first generalizing text with
  | nil => rfl
  | cons t more ih =>
    rw [List.cons_append, runAll, runAll]
    cases t.run text with
    | error chain => rfl
    | ok result => exact ih result

theorem runAll_singleton (t : Transform) (text : String) :
    runAll path [t] text = t.attempt path text := by
  rw [runAll, attempt]
  cases t.run text <;> rfl

theorem runAll_reverse (transforms : List Transform) (text : String) :
    runAll path transforms.reverse text =
      transforms.foldr (fun t result => result.bind (t.attempt path)) (.ok text) := by
  induction transforms with
  | nil => rfl
  | cons t more ih =>
    rw [List.reverse_cons, runAll_append, ih, List.foldr_cons]
    congr 1
    funext result
    exact runAll_singleton t result

theorem runAll_failing {before : List Transform} {t : Transform} {chain : List String}
    (hbefore : runAll path before text = .ok input) (hfails : t.run input = .error chain)
    (after : List Transform) : runAll path (before ++ t :: after) text =
      .error (.transform path t.name (chainMessage chain)) := by
  rw [runAll_append, hbefore, Except.bind, runAll, hfails]

theorem runAll_error {transforms : List Transform} (h : runAll path transforms text = .error e) :
    ∃ before t after result chain, transforms = before ++ t :: after ∧
      runAll path before text = .ok result ∧ t.run result = .error chain ∧
        e = .transform path t.name (chainMessage chain) := by
  induction transforms generalizing text with
  | nil => cases h
  | cons t more ih =>
    rw [runAll] at h
    cases hrun : t.run text with
    | error chain =>
      rw [hrun] at h
      exact ⟨[], t, more, text, chain, rfl, rfl, hrun, (Except.error.inj h).symm⟩
    | ok next =>
      rw [hrun] at h
      obtain ⟨before, t', after, result, chain, rfl, hbefore, hfails, rfl⟩ := ih h
      refine ⟨t :: before, t', after, result, chain, rfl, ?_, hfails, rfl⟩
      rw [runAll, hrun]
      exact hbefore

end Run

section Rules

theorem selected_append (rules more : List Rule) (path : Path) :
    selected (rules ++ more) path = selected rules path ++ selected more path := by
  rw [selected, List.filter_append, List.flatMap_append]
  rfl

theorem apply_append (rules more : List Rule) (path : Path) (text : String) :
    apply (rules ++ more) path text = (apply more path text).bind (apply rules path) := by
  rw [apply, selected_append, List.reverse_append, runAll_append]
  rfl

theorem apply_singleton (rule : Rule) (path : Path) (text : String) :
    apply [rule] path text =
      if rule.applies path then runAll path rule.transforms.reverse text else .ok text := by
  unfold apply selected
  by_cases happlies : rule.applies path = true
  · rw [List.filter_cons, if_pos happlies, if_pos happlies, List.filter_nil,
      List.flatMap_singleton]
  · rw [List.filter_cons, if_neg happlies, if_neg happlies]
    rfl

theorem apply_cons (rule : Rule) (rules : List Rule) (path : Path) (text : String) :
    apply (rule :: rules) path text = (apply rules path text).bind fun result =>
      if rule.applies path then runAll path rule.transforms.reverse result else .ok result := by
  rw [← List.singleton_append, apply_append]
  congr 1
  funext result
  exact apply_singleton rule path result

variable {pattern : Pattern} {inner : List Transform} {t : Transform} {chain : List String}

theorem apply_cons_of_match (hmatch : pattern.isMatch path.slashed = true)
    (transforms : List Transform) (rules : List Rule) (text : String) :
    apply (⟨pattern, transforms⟩ :: rules) path text =
      (apply rules path text).bind (runAll path transforms.reverse) := by
  rw [apply_cons]
  congr 1
  funext result
  exact if_pos hmatch

theorem apply_failing {after : List Rule} (hmatch : pattern.isMatch path.slashed = true)
    (hinput : apply (⟨pattern, inner⟩ :: after) path text = .ok input)
    (hfails : t.run input = .error chain) (before : List Rule) (outer : List Transform) :
    apply (before ++ ⟨pattern, outer ++ t :: inner⟩ :: after) path text =
      .error (.transform path t.name (chainMessage chain)) := by
  have hrule : apply (⟨pattern, outer ++ t :: inner⟩ :: after) path text =
      .error (.transform path t.name (chainMessage chain)) := by
    rw [apply_cons_of_match hmatch] at hinput ⊢
    cases hafter : apply after path text with
    | error e =>
      rw [hafter] at hinput
      cases hinput
    | ok middle =>
      rw [hafter] at hinput
      have hstops := runAll_failing hinput hfails outer.reverse
      rwa [Except.bind, List.reverse_append, List.reverse_cons, List.append_assoc,
        List.singleton_append]
  rw [apply_append, hrule]
  rfl

/-- A failure is that of the first transform that fails, from the last rule to the first. -/
theorem apply_error {rules : List Rule} (h : apply rules path text = .error e) :
    ∃ before pattern outer t inner after input chain,
      rules = before ++ ⟨pattern, outer ++ t :: inner⟩ :: after ∧
      pattern.isMatch path.slashed = true ∧
      apply (⟨pattern, inner⟩ :: after) path text = .ok input ∧ t.run input = .error chain ∧
      e = .transform path t.name (chainMessage chain) := by
  induction rules with
  | nil => cases h
  | cons rule more ih =>
    cases hmore : apply more path text with
    | error e' =>
      -- a rule behind this one fails first, and this one is not reached
      have heq : e' = e := by
        rw [apply_cons, hmore] at h
        exact Except.error.inj h
      obtain ⟨before, pattern, outer, t, inner, after, input, chain, rfl, hrest⟩ := ih (heq ▸ hmore)
      exact ⟨rule :: before, pattern, outer, t, inner, after, input, chain, rfl, hrest⟩
    | ok middle =>
      obtain ⟨pattern, transforms⟩ := rule
      by_cases hmatch : pattern.isMatch path.slashed = true
      · -- the transforms of the rule are run from the last to the first
        rw [apply_cons_of_match hmatch, hmore] at h
        obtain ⟨inner, t, outer, input, chain, hsplit, hinner, hfails, rfl⟩ := runAll_error h
        have htransforms : transforms = outer.reverse ++ t :: inner.reverse := by
          rw [← List.reverse_reverse transforms, hsplit]
          simp
        refine ⟨[], pattern, outer.reverse, t, inner.reverse, more, input, chain, ?_, hmatch, ?_,
          hfails, rfl⟩
        · rw [htransforms]
          rfl
        · rw [apply_cons_of_match hmatch, hmore, List.reverse_reverse]
          exact hinner
      · rw [apply_cons, hmore, Except.bind, Rule.applies, if_neg hmatch] at h
        cases h

end Rules

/-- Transforms are composed from the last to the first. A failure is that of the first one that
fails in this order, and nothing configured before it counts. -/
theorem apply_composes (path : Path) (text : String) :
    (∀ rules more : List Rule,
      apply (rules ++ more) path text = (apply more path text).bind (apply rules path)) ∧
    (∀ rule : Rule, apply [rule] path text =
      if rule.pattern.isMatch path.slashed then
        rule.transforms.foldr (fun t result => result.bind (t.attempt path)) (.ok text)
      else .ok text) ∧
    ∀ rules e, apply rules path text = .error e ↔
      ∃ before pattern outer t inner after input chain,
        rules = before ++ ⟨pattern, outer ++ t :: inner⟩ :: after ∧
        pattern.isMatch path.slashed = true ∧
        apply (⟨pattern, inner⟩ :: after) path text = .ok input ∧ t.run input = .error chain ∧
        e = .transform path t.name (String.intercalate ": " chain) ∧
        ∀ before' outer',
          apply (before' ++ ⟨pattern, outer' ++ t :: inner⟩ :: after) path text = .error e := by
  refine ⟨fun rules more => apply_append rules more path text, fun rule => ?_, fun rules e => ?_⟩
  · rw [← runAll_reverse]
    exact apply_singleton rule path text
  · constructor
    · intro h
      obtain ⟨before, pattern, outer, t, inner, after, input, chain, rfl, hmatch, hinput, hfails,
        rfl⟩ := apply_error h
      exact ⟨before, pattern, outer, t, inner, after, input, chain, rfl, hmatch, hinput, hfails,
        rfl, apply_failing hmatch hinput hfails⟩
    · rintro ⟨before, pattern, outer, t, inner, after, input, chain, rfl, hmatch, hinput, hfails,
        rfl, -⟩
      exact apply_failing hmatch hinput hfails before outer

end ModuleBundler.Transform
