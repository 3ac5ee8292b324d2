import ModuleBundler.Proofs.Script.Phrase

/-! Functions and statements that are read whatever stands around them, and lists of statements. -/
namespace ModuleBundler.Script.Parser

open State
open Grammar (nested)

variable {α : Type} {p : Parser α} {s s' s₁ : State} {a : α} {d : Dialect} {n : Nat}
  {k : TokenKind} {m v body : Node} {ms : List Node} {more : List TokenKind}

section Statements

inductive Closing : TokenKind → Prop where
  | braceClose : Closing (.mark .braceClose)
  | finish : Closing .finish

inductive Statements (d : Dialect) (n : Nat) : State → List Node → State → Prop where
  | done {s : State} : Statements d n s [] s
  | step {s s₁ s' : State} {m : Node} {ms : List Node} : ¬ Closing s.token.kind →
      (nested d n).statement false s = .ok m s₁ → Statements d n s₁ ms s' →
      Statements d n s (m :: ms) s'

theorem not_closing (h : s.token.kind = k) (hbrace : k ≠ .mark .braceClose) (hend : k ≠ .finish) :
    ¬ Closing s.token.kind := by
  rw [h]
  rintro (_ | _)
  · exact hbrace rfl
  · exact hend rfl

theorem Statements.append {ms' : List Node} (h : Statements d n s ms s₁)
    (h' : Statements d n s₁ ms' s') : Statements d n s (ms ++ ms') s' := by
  induction h with
  | done => exact h'
  | step hother hread _ ih => exact .step hother hread (ih h')

theorem run_many_some {step : Parser (Option Node)} (h : step s = .ok (some m) s₁) (fuel : Nat)
    (taken : List Node) : many (fuel + 1) step taken s = many fuel step (m :: taken) s₁ := by
  simp [many, h]

theorem run_many_none {step : Parser (Option Node)} (h : step s = .ok none s') (fuel : Nat)
    (taken : List Node) : many (fuel + 1) step taken s = .ok taken.reverse s' := by
  simp [many, h]

theorem Statements.run_many (h : Statements d n s ms s') {test : Parser Bool}
    (htest : ∀ s, test s = .ok (s.token.kind == k) s) (hk : Closing k) (hend : s'.token.kind = k)
    {fuel : Nat} (hfuel : ms.length < fuel) (taken : List Node) : many fuel (do
        if ← test then return none
        return some (← (nested d n).statement false)) taken s = .ok (taken.reverse ++ ms) s' := by
  induction h generalizing fuel taken with
  | done =>
    obtain ⟨fuel, rfl⟩ := Nat.exists_eq_add_of_le' hfuel
    rw [List.append_nil]
    exact run_many_none (by simp [htest, hend]) _ taken
  | @step s s₁ s' m ms hother hread hmore ih =>
    obtain ⟨fuel, rfl⟩ := Nat.exists_eq_add_of_le' hfuel
    have hleft : ms.length < fuel + (m :: ms).length := by
      rw [List.length_cons]
      omega
    have hmany := ih hend hleft (m :: taken)
    have hnot : s.token.kind ≠ k := by
      rintro rfl
      exact hother hk
    rw [List.reverse_cons, List.append_assoc] at hmany
    exact (run_many_some (by simp [htest, hnot, hread]) _ taken).trans hmany

theorem run_functionBody (h : s.Sees [.mark .braceOpen]) {r : Bool} (hc : s.context = .ordinary r)
    (hstatements : Statements .script (n + 1) ((s.skip 1).within (.ordinary true)) ms s')
    (hclose : s'.Sees [.mark .braceClose]) (hcount : ms.length < n) :
    functionBody (level (n + 1)) s =
      .ok (.branch .body ⟨s.token.span.start, (s'.skip 1).lastStop⟩ ms)
        ((s'.skip 1).within (.ordinary r)) := by
  have hmany := hstatements.run_many (run_atMark .braceClose) .braceClose hclose.1.1 hcount []
  have hinside : inContext (fun c => Context.mk true c.yields c.awaits true false c.ambient false)
      (until_ (level (n + 1)) .braceClose ((level (n + 1)).statement false)) (s.skip 1) =
        .ok ms (s'.within (.ordinary r)) := by
    have hcontext : (s.skip 1).context = .ordinary r := by
      rw [context_skip, hc]
    rw [← hcontext]
    refine run_inContext ?_
    rw [hcontext]
    exact hmany
  have hlast : (s'.within (.ordinary r)).Sees [.mark .braceClose] := sees_within hclose
  have hend := run_expect (n := n + 1) hlast "a closing brace"
  simp [functionBody, run_expect h, hinside, hend]

theorem Statements.run_program (h : Statements d (n + 1) s ms s') (hend : s'.token.kind = .finish)
    (hcount : ms.length < n) : many (nested d (n + 1)).fuel (do
      if ← atEnd then return none
      return some (← (nested d (n + 1)).statement false)) [] s = .ok ms s' :=
  h.run_many run_atEnd .finish hend hcount []

theorem run_reader (hhashbang : s.token.kind ≠ .hashbang) (h : Statements d (n + 1) s ms s')
    (hend : s'.token.kind = .finish) (hcount : ms.length < n) :
    Program.reader (nested d (n + 1)) s =
      .ok ⟨none, .branch .program ⟨s.token.span.start, s'.lastStop⟩ ms⟩ s' := by
  have hparts := h.run_program hend hcount
  simp only [Program.reader, run_bind, run_current, beq_eq_false_iff_ne.2 hhashbang, run_pure,
    run_position, Bool.false_eq_true, if_false]
  rw [hparts]
  rfl

theorem run_reader_hashbang (hkind : s.token.kind = .hashbang)
    (h : Statements .script (n + 1) (s.skip 1) ms s') (hend : s'.token.kind = .finish)
    (hcount : ms.length < n) : Program.reader (level (n + 1)) s =
      .ok ⟨some s.token.span,
        .branch .program ⟨(s.skip 1).token.span.start, s'.lastStop⟩ ms⟩ s' := by
  have hparts := h.run_program hend hcount
  have hplain : s.token.Plain := fun hescaped => by
    simp [Token.keyword?, hkind] at hescaped
  simp only [Program.reader, run_bind, run_current, hkind, beq_self_eq_true, if_true,
    run_advance hplain, run_pure, run_position]
  rw [hparts]
  rfl

theorem functionBody_eq {g : Grammar} (h : functionBody g s = .ok m s') :
    ∃ span ms, m = .branch .body span ms := by
  simp only [functionBody, run_bind, run_position] at h
  split at h
  · split at h
    · split at h
      · cases h
        exact ⟨_, _, rfl⟩
      · cases h
    · cases h
  · cases h

end Statements

section Functions

theorem run_untyped (hd : d.typed = false) (p : Parser Bool) (s : State) :
    (pure (nested d n).dialect.typed <&&> p) s = .ok false s := by
  rw [dialect_nested, hd]
  rfl

theorem run_annotation (s : State) : annotation (level n) s = .ok [] s := by
  unfold annotation
  simp only [run_bind, run_untyped (d := .script) rfl]
  rfl

theorem run_typeParameters (s : State) : typeParameters (level n) s = .ok [] s := by
  simp [typeParameters]

theorem run_resultType (s : State) : resultType (level n) s = .ok [] s := by
  simp only [resultType, run_bind, run_untyped (d := .script) rfl]
  rfl

theorem run_modifiers (h : Naming s.token.kind) :
    modifiers (level (n + 2)) false false s = .ok [] s := by
  generalize hk : s.token.kind = k at h
  cases h <;> simp [modifiers, modifiersFrom, modifier?, Token.keyword?, hk, Keyword.isModifier]

theorem run_decorators (h : s.token.kind ≠ .mark .atSign) :
    decorators (level (n + 2)) s = .ok [] s := by
  simp [decorators, many, run_eat_other h]

theorem run_pattern (h : Naming s.token.kind) : (level (n + 2)).pattern s =
    .ok (.leaf .binding s.token.span (wordText s.token)) (s.skip 1) := by
  have hname := run_bindingName (n := n + 1) h
  rw [pattern_nested]
  generalize hkind : s.token.kind = k at h
  cases h <;> simp [patternOf, hkind, hname]

theorem run_parameter (hk : Naming s.token.kind) (he : (s.skip 1).token.kind ≠ .mark .assign) :
    parameter (level (n + 2)) false s =
      .ok (.leaf .binding s.token.span (wordText s.token)) (s.skip 1) := by
  have hmodifiers := run_modifiers (n := n) hk
  have hdecorators : decorators (level (n + 2)) s = .ok [] s := by
    refine run_decorators fun h => ?_
    rw [h] at hk
    cases hk
  simp [parameter, hdecorators, hmodifiers, allowOnly, patternWithDefault, typedPattern,
    run_pattern hk, run_annotation, annotated, withDefault, run_eat_other he]

/-- Further parameters, each after a comma, up to the closing parenthesis. -/
inductive Parameters : State → List Node → State → Prop where
  | done {s : State} : s.Sees [.mark .parenClose] → Parameters s [] s
  | next {s s' : State} {k : TokenKind} {ms : List Node} : s.Sees [.mark .comma, k] → Naming k →
      Parameters (s.skip 2) ms s' →
      Parameters s (.leaf .binding (s.skip 1).token.span (wordText (s.skip 1).token) :: ms) s'

theorem Parameters.not_assign (h : Parameters s ms s') : s.token.kind ≠ .mark .assign := by
  rcases h with hclose | ⟨hcomma, -, -⟩
  · simp [hclose.1.1]
  · simp [hcomma.1.1]

theorem Parameters.sees_close (h : Parameters s ms s') : s'.Sees [.mark .parenClose] := by
  induction h with
  | done hclose => exact hclose
  | next _ _ _ ih => exact ih

theorem Parameters.run (h : Parameters s ms s') {fuel : Nat} (hfuel : ms.length < fuel)
    (taken : List Node) : delimitedWithRest (level (n + 2)) .parenClose
        (parameter (level (n + 2)) false) (restParameter (level (n + 2))) fuel false false taken s =
      .ok (taken.reverse ++ ms) s' := by
  induction h generalizing fuel taken with
  | done hclose =>
    obtain ⟨fuel, rfl⟩ := Nat.exists_eq_add_of_le' hfuel
    simp [delimitedWithRest, hclose.1.1]
  | @next s s' k ms hcomma hk hmore ih =>
    obtain ⟨fuel, rfl⟩ := Nat.exists_eq_add_of_le' hfuel
    obtain ⟨⟨hcomma, hplain⟩, ⟨hkind, -⟩, -⟩ := hcomma
    have hnaming : Naming (s.skip 1).token.kind := hkind ▸ hk
    have hnext := run_parameter (n := n) hnaming (by simpa using hmore.not_assign)
    have hleft : ms.length < fuel + (ms.length + 1) := by omega
    have hms := ih hleft
      (.leaf .binding (s.skip 1).token.span (wordText (s.skip 1).token) :: taken)
    rw [List.reverse_cons, List.append_assoc] at hms
    have hsees : s.Sees [.mark .comma] := ⟨⟨hcomma, hplain⟩, trivial⟩
    have hexpect := run_expect (n := n + 2) hsees "a comma"
    have hstep : fuel + (ms.length + 1).succ = fuel + (ms.length + 1) + 1 := rfl
    rw [List.length_cons, hstep, delimitedWithRest]
    cases hk <;> simp [hcomma, hkind, hexpect, hnext] <;> exact hms

theorem run_parameters_nil (hc : s.context.Calm)
    (h : s.Sees (.mark .parenOpen :: .mark .parenClose :: more)) :
    parameters (level (n + 2)) false s = .ok [] (s.skip 2) := by
  have hlist : delimitedWithRest (level (n + 2)) .parenClose (parameter (level (n + 2)) false)
      (restParameter (level (n + 2))) (n + 1) true false [] (s.skip 1) = .ok [] (s.skip 1) := by
    simp [delimitedWithRest, h.2.1.1]
  have hinside := run_allowingIn (s := s.skip 1) (by simpa using hc) hlist rfl
  have hclose := run_expect (n := n + 2) h.2 ")"
  simp [parameters, run_expect h, hinside, hclose]

theorem Parameters.run_parameters (h : Parameters (s.skip 2) ms s') (hc : s.context.Calm)
    (hopen : s.Sees [.mark .parenOpen, k]) (hk : Naming k) (hs : s'.context = s.context)
    (hcount : ms.length + 1 < n) : parameters (level (n + 2)) false s =
      .ok (.leaf .binding (s.skip 1).token.span (wordText (s.skip 1).token) :: ms)
        (s'.skip 1) := by
  have hkind := hopen.2.1.1
  have hfirst := run_parameter (n := n) (s := s.skip 1) (hkind ▸ hk) (by simpa using h.not_assign)
  have hleft : ms.length < n := Nat.lt_of_succ_lt hcount
  have hms := h.run (n := n) hleft
    [.leaf .binding (s.skip 1).token.span (wordText (s.skip 1).token)]
  have hlist : delimitedWithRest (level (n + 2)) .parenClose (parameter (level (n + 2)) false)
      (restParameter (level (n + 2))) (n + 1) true false [] (s.skip 1) =
        .ok (.leaf .binding (s.skip 1).token.span (wordText (s.skip 1).token) :: ms) s' := by
    rw [delimitedWithRest]
    cases hk <;> simp [hkind, hfirst] <;> exact hms
  have hinside := run_allowingIn (s := s.skip 1) (by simpa using hc) hlist (by simpa using hs)
  simp [parameters, run_expect hopen, hinside, run_expect h.sees_close]

theorem run_inContext_same {change : Context → Context} (h : p s = .ok a s')
    (hc : change s.context = s.context) (hs : s'.context = s.context) :
    inContext change p s = .ok a s' := by
  have hinside : p (s.within (change s.context)) = .ok a s' := by
    rw [hc]
    exact h
  rw [run_inContext hinside, within_eq hs]

theorem run_arrowHead {r : Bool} (hc : s.context = .ordinary r)
    (hopen : s.token.kind = .mark .parenOpen) (h : parameters (level n) false s = .ok ms s')
    (hs : s'.context = s.context) : arrowHead (level n) s = .ok ⟨false, ms, false⟩ s' := by
  have hasync : eatKeyword (level n) .asyncWord s = .ok false s :=
    run_eatKeyword_other (by simp [hopen])
  simp only [arrowHead, run_bind, hasync]
  rw [run_inContext_same (a := (ms, false)) ?_ (by rw [hc]; rfl) hs]
  · rfl
  · simp [run_typeParameters, h, run_resultType]

theorem run_arrowFrom {r : Bool} (ms : List Node) (hc : s.context = .ordinary r)
    (h : s.Sees [.mark .arrow, .mark .braceOpen]) (hline : s.token.afterBreak = false)
    (hbody : functionBody (level n) (s.skip 1) = .ok body s') (hs : s'.context = s.context)
    (start : Nat) (b : Bool) : arrowFrom (level n) start ⟨false, ms, false⟩ b s =
      .ok (.branch (.arrow false) ⟨start, s'.lastStop⟩ (ms ++ [body])) s' := by
  have harrow := run_expect (n := n) h "=>"
  have hinside : arrowBody (level n) false b (s.skip 1) = .ok body s' := by
    refine run_inContext_same ?_ (by rw [context_skip, hc]; rfl) (by rw [hs, context_skip])
    simp [h.2.1.1, hbody]
  simp [arrowFrom, arrowSign, hline, harrow, hinside]

theorem run_arrow_nil {r : Bool} (hc : s.context = .ordinary r)
    (h : s.Sees [.mark .parenOpen, .mark .parenClose, .mark .arrow, .mark .braceOpen])
    (hline : (s.skip 2).token.afterBreak = false)
    (hbody : functionBody (level (n + 2)) (s.skip 3) = .ok body s') (hs : s'.context = s.context)
    (b : Bool) : (level (n + 3)).assignment b s =
      .ok (.branch (.arrow false) ⟨s.token.span.start, s'.lastStop⟩ [body]) s' := by
  have harrow := h.2.2
  rw [skip_skip] at harrow
  have hguess : guessArrow (level (n + 2)) s = .ok .yes s := by
    have hclose := run_advance (n := n + 2) h.2.1.2
    simp [guessArrow, h.1.1, run_advance h.1.2, guessAfterParen, h.2.1.1, hclose, harrow.1.1]
  have hcalm : s.context.Calm := hc ▸ Context.calm_ordinary r
  have hhead := run_arrowHead hc h.1.1 (run_parameters_nil (n := n) hcalm h) (by simp)
  have hfrom := run_arrowFrom (s := s.skip 2) [] (by simpa using hc) harrow hline
    (by simpa using hbody) (by simpa using hs) s.token.span.start true
  rw [assignment_nested]
  simp [assignmentOf, yieldOperates, h.1.1, parenthesizedArrow, hguess, hhead, hfrom]

theorem run_attempt {p : Parser (Option α)} (h : p s = .ok (some a) s') :
    attempt p s = .ok (some a) s' := by
  unfold attempt
  rw [h]

theorem run_arrow {r : Bool} (hc : s.context = .ordinary r)
    (hfresh : s.token.span.start ∉ s.notArrows)
    (h : s.Sees [.mark .parenOpen, k, .mark .comma]) (hk : Naming k)
    (hparameters : Parameters (s.skip 2) ms s₁) (hcount : ms.length + 1 < n)
    (hs₁ : s₁.context = s.context)
    (harrow : (s₁.skip 1).Sees [.mark .arrow, .mark .braceOpen])
    (hline : (s₁.skip 1).token.afterBreak = false)
    (hbody : functionBody (level (n + 2)) (s₁.skip 2) = .ok body s')
    (hs : s'.context = s.context) : (level (n + 3)).assignment true s =
      .ok (.branch (.arrow false) ⟨s.token.span.start, s'.lastStop⟩
        (.leaf .binding (s.skip 1).token.span (wordText (s.skip 1).token) :: (ms ++ [body])))
        s' := by
  have hguess : guessArrow (level (n + 2)) s = .ok .perhaps s := by
    have hkind := h.2.1.1
    have hcomma := h.2.2.1.1
    have hname := run_advance (n := n + 2) h.2.1.2
    have hbinding : (s.skip 1).token.isBinding = true := isBinding_of_naming (hkind ▸ hk)
    rw [skip_skip] at hcomma
    cases hk <;> simp [guessArrow, h.1.1, run_advance h.1.2, guessAfterParen, hkind, hname, hcomma,
      Token.keyword?, Keyword.isModifier, hbinding]
  have hcalm : s.context.Calm := hc ▸ Context.calm_ordinary r
  have hread := hparameters.run_parameters hcalm ⟨h.1, h.2.1, trivial⟩ hk hs₁ hcount
  have hhead := run_arrowHead hc h.1.1 hread (by simpa using hs₁)
  have hfrom := run_arrowFrom (s := s₁.skip 1)
    (.leaf .binding (s.skip 1).token.span (wordText (s.skip 1).token) :: ms)
    (by simpa [hc] using hs₁) harrow hline (by simpa using hbody) (by simpa [hs₁] using hs)
    s.token.span.start true
  rw [List.cons_append] at hfrom
  generalize Node.branch (.arrow false) ⟨s.token.span.start, s'.lastStop⟩ _ = tree at hfrom ⊢
  -- no arrow was tried here in vain before, so it is tried
  have hpossible : possibleArrow (level (n + 2)) true s = .ok (some tree) s' := by
    simp only [possibleArrow, run_bind, run_position, run_get, List.contains_iff_mem, if_neg hfresh]
    rw [show attempt _ s = .ok (some tree) s' from run_attempt ?_]
    · simp
    · simp [hhead, harrow.1.1, hfrom]
  rw [assignment_nested]
  simp [assignmentOf, yieldOperates, h.1.1, parenthesizedArrow, hguess, hpossible]

end Functions

section Single

variable {r : Bool}

theorem run_typedOrExpression (hd : d.typed = false) (s : State) :
    typedOrExpression (nested d n) s = expressionOrLabel (nested d n) s := by
  simp only [typedOrExpression, run_bind, run_untyped hd]
  rfl

/-- Kinds of tokens at which a statement starts that is no more than an expression. -/
inductive Expressive : TokenKind → Prop where
  | name : Expressive .name
  | module : Expressive (.keyword .moduleWord)
  | parenOpen : Expressive (.mark .parenOpen)

theorem run_expressionStatement (hd : d.typed = false) (hc : s.context.Calm)
    (hk : Expressive s.token.kind) (h : (nested d (n + 2)).assignment true s = .ok m s₁)
    (hs : s₁.context = s.context) (hm : m.isLeaf .identifier = false)
    (hcomma : s₁.token.kind ≠ .mark .comma)
    (hend : endStatement (nested d (n + 2)) s₁ = .ok ⟨⟩ s') (b : Bool) :
    (nested d (n + 3)).statement b s =
      .ok (.branch .expressionStatement ⟨s.token.span.start, s'.lastStop⟩ [m]) s' := by
  have hexpression := run_allowingIn hc (run_expression hc h hs hcomma) hs
  have hwhole : expressionOrLabel (nested d (n + 2)) s =
      .ok (.branch .expressionStatement ⟨s.token.span.start, s'.lastStop⟩ [m]) s' := by
    simp only [expressionOrLabel, run_bind, run_position, hexpression]
    split
    · cases hm
    · simp [expressionStatement, hend]
  rw [statement_nested]
  generalize hkind : s.token.kind = k at hk
  cases hk <;> simpa [statementOf, hkind, run_typedOrExpression hd] using hwhole

theorem run_var (h : s.Sees [.keyword .varWord, k, .mark .assign]) (hk : Naming k)
    (hv : (level (n + 2)).assignment true (s.skip 3) = .ok v s')
    (hend : s'.Sees [.mark .semicolon]) : (level (n + 3)).statement false s =
      .ok (.branch (.variableList .var) ⟨s.token.span.start, (s'.skip 1).lastStop⟩
        [.branch .declarator ⟨(s.skip 1).token.span.start, s'.lastStop⟩
          [.leaf .binding (s.skip 1).token.span (wordText (s.skip 1).token), v]]) (s'.skip 1) := by
  obtain ⟨⟨hvar, hplain⟩, ⟨hkind, -⟩, hassign⟩ := h
  rw [skip_skip] at hassign
  have hpattern := run_pattern (n := n) (s := s.skip 1) (hkind ▸ hk)
  have heat := run_eat (n := n + 2) hassign
  have hcomma : eat (level (n + 2)) .comma s' = .ok false s' :=
    run_eat_other (by simp [hend.1.1])
  rw [statement_nested]
  simp [statementOf, hvar, run_advance hplain, variableStatement, variableList, declarator,
    hpattern, run_annotation, annotated, heat, hv, checkInitialized, many, hcomma,
    run_endStatement hend]

theorem run_return (hc : s.context = .ordinary true) (h : s.Sees [.keyword .returnWord])
    (hstart : Starting (s.skip 1).token.kind) (hline : (s.skip 1).token.afterBreak = false)
    (hv : (level (n + 2)).assignment true (s.skip 1) = .ok v s') (hs : s'.context = s.context)
    (hend : s'.Sees [.mark .semicolon]) (b : Bool) : (level (n + 3)).statement b s =
      .ok (.branch .return_ ⟨s.token.span.start, (s'.skip 1).lastStop⟩ [v]) (s'.skip 1) := by
  have hcalm : s.context.Calm := hc ▸ Context.calm_ordinary true
  have hreturns : s.context.returns = true := by
    rw [hc]
    rfl
  have hmay : mayEnd (s.skip 1) = .ok false (s.skip 1) := by
    generalize hk : (s.skip 1).token.kind = k at hstart
    rcases hstart with ⟨⟨⟩⟩ | ⟨⟨⟩⟩ <;> simp [mayEnd, hk, hline]
  have hexpression := run_allowingIn (s := s.skip 1) (by simpa using hcalm)
    (run_expression (by simpa using hcalm) hv (by simpa using hs) (by simp [hend.1.1]))
    (by simpa using hs)
  rw [statement_nested]
  simp [statementOf, h.1.1, returnStatement, hreturns, run_advance h.1.2, hmay, hexpression,
    run_endStatement hend]

theorem run_block (h : s.Sees [.mark .braceOpen])
    (hstatements : Statements .script (n + 1) (s.skip 1) ms s')
    (hclose : s'.Sees [.mark .braceClose]) (hcount : ms.length < n) (b : Bool) :
    (level (n + 2)).statement b s =
      .ok (.branch .block ⟨s.token.span.start, (s'.skip 1).lastStop⟩ ms) (s'.skip 1) := by
  have hmany := hstatements.run_many (run_atMark .braceClose) .braceClose hclose.1.1 hcount []
  have hinside : until_ (level (n + 1)) .braceClose ((level (n + 1)).statement false) (s.skip 1) =
      .ok ms s' := hmany
  rw [statement_nested]
  simp [statementOf, h.1.1, block, run_expect h, hinside, run_expect hclose]

theorem run_if (hc : s.context.Calm) (h : s.Sees [.keyword .ifWord, .mark .parenOpen])
    (htest : (level (n + 2)).assignment true (s.skip 2) = .ok m s₁) (hs : s₁.context = s.context)
    (hclose : s₁.Sees [.mark .parenClose])
    (hbody : (level (n + 2)).statement true (s₁.skip 1) = .ok body s')
    (helse : s'.token.kind ≠ .keyword .elseWord) (b : Bool) : (level (n + 3)).statement b s =
      .ok (.branch .if_ ⟨s.token.span.start, s'.lastStop⟩ [m, body]) s' := by
  have hexpression := run_allowingIn (s := s.skip 2) (by simpa using hc)
    (run_expression (by simpa using hc) htest (by simpa using hs) (by simp [hclose.1.1]))
    (by simpa using hs)
  have hopen := run_expect (n := n + 2) h.2 "("
  rw [statement_nested]
  simp [statementOf, h.1.1, ifStatement, run_advance h.1.2, parenthesizedHead, hopen,
    hexpression, run_expect hclose, hbody, run_eatKeyword_other helse]

theorem run_functionRest (hc : s.context = .ordinary r)
    (hparameters : parameters (level n) false s = .ok ms s₁)
    (hbody : functionBody (level n) s₁ = .ok body s') (hs : s'.context = s.context)
    (kind : Branch) (before : List Node) (start : Nat) :
    functionRest (level n) kind start false false false before s =
      .ok (.branch kind ⟨start, s'.lastStop⟩ (before ++ (ms ++ [body]))) s' := by
  simp only [functionRest, run_bind]
  rw [show inContext _ _ s = .ok (ms ++ [body]) s' from
    run_inContext_same ?_ (by rw [hc]; rfl) hs]
  · rfl
  · simp only [run_bind, run_typeParameters, hparameters, run_resultType,
      run_untyped (d := .script) rfl]
    simp [hbody]

theorem run_function (hc : s.context = .ordinary r)
    (h : s.Sees [.keyword .functionWord, k]) (hk : Naming k)
    (hparameters : parameters (level n) false (s.skip 2) = .ok ms s₁)
    (hbody : functionBody (level n) s₁ = .ok body s') (hs : s'.context = s.context) (b : Bool) :
    (level (n + 1)).statement b s =
      .ok (.branch (.function false false) ⟨s.token.span.start, s'.lastStop⟩
        (.leaf .binding (s.skip 1).token.span (wordText (s.skip 1).token) :: (ms ++ [body])))
        s' := by
  have hkind := h.2.1.1
  have hstar : eat (level n) .star (s.skip 1) = .ok false (s.skip 1) := by
    refine run_eat_other ?_
    rw [hkind]
    cases hk <;> simp
  have hnaming : Naming (s.skip 1).token.kind := hkind ▸ hk
  have hcheck := run_checkName (s := s.skip 1) hnaming
  have hrest := run_functionRest (s := s.skip 2) (by simpa using hc) hparameters hbody
    (by simpa using hs) (.function false false)
    [.leaf .binding (s.skip 1).token.span (wordText (s.skip 1).token)] s.token.span.start
  rw [statement_nested]
  simp [statementOf, h.1.1, function, run_expectKeyword h, hstar, functionName,
    isBinding_of_naming hnaming, hcheck, takeLeaf, hrest]

end Single

end ModuleBundler.Script.Parser
