import ModuleBundler.Proofs.Script.Step

/-! Phrases that are read whatever stands around them: operands, calls and lists. Each lemma goes
from the kinds of the next tokens to the tree of the phrase and the state behind it. -/
namespace ModuleBundler.Script

open State
open Grammar (nested)

/-- Kinds of tokens that name something wherever an expression may stand. -/
inductive Naming : TokenKind → Prop where
  | name : Naming .name
  | module : Naming (.keyword .moduleWord)
  | undefined : Naming (.keyword .undefinedWord)

/-- Kinds of tokens at which a literal starts that has no sign before it. -/
inductive Literal : TokenKind → Prop where
  | string (value : List Char) (lone : Bool) : Literal (.string value lone)
  | number : Literal .number
  | null : Literal (.keyword .nullWord)
  | true : Literal (.keyword .trueWord)
  | false : Literal (.keyword .falseWord)
  | bracketOpen : Literal (.mark .bracketOpen)
  | braceOpen : Literal (.mark .braceOpen)

theorem Literal.ne_parenOpen {k : TokenKind} (h : Literal k) : k ≠ .mark .parenOpen := by
  rintro rfl
  cases h

/-- Kinds of tokens at which an operand starts that is no function and no operation. -/
inductive Starting : TokenKind → Prop where
  | naming {k : TokenKind} : Naming k → Starting k
  | literal {k : TokenKind} : Literal k → Starting k
  | parenOpen : Starting (.mark .parenOpen)

/-- Kinds of tokens at which an operand starts, perhaps with a minus sign before it. -/
inductive Signed : TokenKind → Prop where
  | starting {k : TokenKind} : Starting k → Signed k
  | minus : Signed (.mark .minus)

/-- Kinds of tokens at which an expression without commas ends. -/
inductive Ending : TokenKind → Prop where
  | semicolon : Ending (.mark .semicolon)
  | comma : Ending (.mark .comma)
  | parenClose : Ending (.mark .parenClose)
  | bracketClose : Ending (.mark .bracketClose)
  | braceClose : Ending (.mark .braceClose)

/-- Kinds of tokens that no operator is. -/
inductive Bounding : TokenKind → Prop where
  | ending {k : TokenKind} : Ending k → Bounding k
  | assign : Bounding (.mark .assign)

/-- Kinds of tokens with which no access and no call goes on. -/
inductive Stopping : TokenKind → Prop where
  | bounding {k : TokenKind} : Bounding k → Stopping k
  | strictNotEqual : Stopping (.mark .strictNotEqual)

/-- The context of expressions in brackets of any kind. -/
structure Context.Calm (c : Context) : Prop where
  inOperator_eq : c.inOperator = true
  decorating_eq : c.decorating = false

def Context.ordinary (returns : Bool) : Context :=
  ⟨true, false, false, returns, false, false, false⟩

theorem Context.calm_ordinary (returns : Bool) : (Context.ordinary returns).Calm := ⟨rfl, rfl⟩

namespace Parser

variable {α : Type} {p : Parser α} {s s' s₁ s₂ : State} {a : α} {d : Dialect} {n : Nat}
  {k : TokenKind} {m v : Node} {more : List TokenKind}

theorem run_allowingIn (hc : s.context.Calm) (h : p s = .ok a s') (hs : s'.context = s.context) :
    allowingIn p s = .ok a s' := by
  obtain ⟨hin, hdec⟩ := hc
  have hcontext : { s.context with inOperator := true, decorating := false } = s.context := by
    rw [← hin, ← hdec]
  have hinside : p (s.within { s.context with inOperator := true, decorating := false }) =
      .ok a s' := by
    rw [hcontext]
    exact h
  rw [allowingIn, run_inContext hinside, within_eq hs]

section Operand

theorem isBinding_of_naming {t : Token} (h : Naming t.kind) : t.isBinding = true := by
  unfold Token.isBinding
  generalize t.kind = k at h
  cases h <;> decide

theorem run_checkName {t : Token} (h : Naming t.kind) (c : Context) :
    checkName t c s = .ok ⟨⟩ s := by
  generalize hk : t.kind = k at h
  cases h <;> simp [checkName, hk]

theorem run_identifier (h : Naming s.token.kind)
    (hadvance : advanceName (nested d n) s = .ok ⟨⟩ s') : identifier (nested d n) s =
      .ok (.leaf .identifier s.token.span (wordText s.token)) s' := by
  simp [identifier, isBinding_of_naming h, run_checkName h, takeLeaf, hadvance]

theorem run_bindingName (h : Naming s.token.kind) : bindingName (level n) s =
    .ok (.leaf .binding s.token.span (wordText s.token)) (s.skip 1) := by
  simp [bindingName, isBinding_of_naming h, run_checkName h, takeLeaf]

theorem run_primary_naming (h : Naming s.token.kind)
    (hadvance : advanceName (nested d n) s = .ok ⟨⟩ s') : (nested d (n + 1)).primary s =
      .ok (.leaf .identifier s.token.span (wordText s.token)) s' := by
  have hname := run_identifier h hadvance
  rw [primary_nested]
  generalize hk : s.token.kind = k at h
  cases h <;> simpa [primaryOf, atFunction, atAsyncFunction, hk] using hname

theorem run_primary_string {value : List Char} {lone : Bool}
    (h : s.Sees (.string value lone :: more)) : (level (n + 1)).primary s =
      .ok (.leaf .string s.token.span (String.ofList value)) (s.skip 1) := by
  rw [primary_nested]
  simp [primaryOf, atFunction, atAsyncFunction, stringLeaf, h.1.1, run_advance h.1.2]

theorem run_unary (hs : Starting s.token.kind) (h : (nested d n).leftHand s = .ok m s')
    (he : Stopping s'.token.kind) : (nested d (n + 1)).unary s = .ok m s' := by
  have hpostfix : postfix_ (nested d n) s = .ok m s' := by
    generalize hk : s'.token.kind = k at he
    rcases he with ⟨⟨⟨⟩⟩⟩ <;> simp [postfix_, h, hk]
  rw [unary_nested]
  generalize hk : s.token.kind = k at hs
  rcases hs with ⟨⟨⟩⟩ | ⟨⟨⟩⟩ <;> simpa [unaryOf, hk] using hpostfix

theorem run_binaryRest_stop (h : Bounding s.token.kind) (start l fuel : Nat) :
    binaryRest (nested d n) start l (fuel + 1) m s = .ok m s := by
  generalize hk : s.token.kind = k at h
  rcases h with ⟨⟨⟩⟩ <;> simp [binaryRest, hk, level?]

theorem run_binaryOf (hs : Signed s.token.kind) (h : (nested d (n + 1)).unary s = .ok m s')
    (l : Nat) : binaryOf (nested d (n + 1)) l s =
      binaryRest (nested d (n + 1)) s.token.span.start l n m s' := by
  generalize hk : s.token.kind = k at hs
  rcases hs with ⟨⟨⟨⟩⟩ | ⟨⟨⟩⟩⟩ <;> simp [binaryOf, hk, h]

theorem run_binary_unary (hs : Signed s.token.kind) (h : (nested d (n + 2)).unary s = .ok m s')
    (he : Bounding s'.token.kind) (l : Nat) : (nested d (n + 3)).binary l s = .ok m s' := by
  rw [binary_nested, run_binaryOf hs h]
  exact run_binaryRest_stop he _ _ _

theorem run_binary (hs : Starting s.token.kind) (h : (nested d (n + 1)).leftHand s = .ok m s')
    (he : Bounding s'.token.kind) (l : Nat) : (nested d (n + 3)).binary l s = .ok m s' :=
  run_binary_unary (.starting hs) (run_unary hs h (.bounding he)) he l

theorem run_conditionalRest (h : Ending s.token.kind) (start : Nat) (b : Bool) :
    conditionalRest (nested d n) start b m s = .ok m s := by
  generalize hk : s.token.kind = k at h
  cases h <;> simp [conditionalRest, hk, run_eat_other]

theorem run_noArrow (hs : Signed s.token.kind)
    (harrow : s.token.kind = .mark .parenOpen → guessArrow (nested d n) s = .ok .no s) (b : Bool) :
    yieldOperates (nested d n) s = .ok false s ∧ parenthesizedArrow (nested d n) b s = .ok none s ∧
      asyncNameArrow (nested d n) b s = .ok none s := by
  generalize hk : s.token.kind = k at hs harrow
  rcases hs with ⟨⟨⟨⟩⟩ | ⟨⟨⟩⟩⟩ <;>
    simp [yieldOperates, parenthesizedArrow, asyncNameArrow, hk, harrow]

theorem run_assignment_binary (hs : Signed s.token.kind)
    (harrow : s.token.kind = .mark .parenOpen → guessArrow (nested d n) s = .ok .no s)
    (h : (nested d n).binary 0 s = .ok m s') (he : Ending s'.token.kind) (b : Bool) :
    (nested d (n + 1)).assignment b s = .ok m s' := by
  obtain ⟨hyield, hparen, hasync⟩ := run_noArrow hs harrow b
  have hrest := run_conditionalRest (d := d) (n := n) (m := m) he s.token.span.start b
  rw [assignment_nested]
  generalize hk : s'.token.kind = k at he
  cases he <;> simp [assignmentOf, hyield, hparen, hasync, h, hk, hrest]

theorem run_assignment (hs : Starting s.token.kind)
    (harrow : s.token.kind = .mark .parenOpen → guessArrow (nested d (n + 3)) s = .ok .no s)
    (h : (nested d (n + 1)).leftHand s = .ok m s') (he : Ending s'.token.kind) (b : Bool) :
    (nested d (n + 4)).assignment b s = .ok m s' :=
  run_assignment_binary (.starting hs) harrow (run_binary hs h (.ending he) 0) he b

theorem run_assignment_assign {kind : Branch} {span : Span} {parts : List Node}
    (hkind : kind = .member ∨ kind = .element) (hs : Starting s.token.kind)
    (hparen : s.token.kind ≠ .mark .parenOpen)
    (h : (nested d n).binary 0 s = .ok (.branch kind span parts) s₁)
    (hassign : s₁.token.kind = .mark .assign) (hadvance : advance (nested d n) s₁ = .ok ⟨⟩ s₂)
    {b : Bool} (hv : (nested d n).assignment b s₂ = .ok v s') :
    (nested d (n + 1)).assignment b s =
      .ok (.branch .assign ⟨s.token.span.start, s'.lastStop⟩ [.branch kind span parts, v]) s' := by
  obtain ⟨hyield, hparen, hasync⟩ :=
    run_noArrow (d := d) (n := n) (.starting hs) (fun hk => absurd hk hparen) b
  rw [assignment_nested]
  rcases hkind with rfl | rfl <;>
    simp [assignmentOf, hyield, hparen, hasync, h, hassign, hadvance, target, toTarget,
      isAssignable, isSimpleTarget, hv]

theorem run_binaryRest_notEqual {r : Node} (h : s.Sees [.mark .strictNotEqual])
    (hr : (level n).binary 7 (s.skip 1) = .ok r s') (he : Bounding s'.token.kind)
    (start fuel : Nat) : binaryRest (level n) start 0 (fuel + 2) m s =
      .ok (.branch (.binary (.mark .strictNotEqual)) ⟨start, s'.lastStop⟩ [m, r]) s' := by
  have hrest := fun m => run_binaryRest_stop (d := .script) (n := n) (m := m) he start 0 fuel
  rw [binaryRest]
  simp [h.1.1, level?, operatorBranch, run_advance h.1.2, hr, hrest]

theorem run_expression (hc : s.context.Calm)
    (h : (nested d (n + 2)).assignment true s = .ok m s') (hs : s'.context = s.context)
    (he : s'.token.kind ≠ .mark .comma) : expression (nested d (n + 2)) s = .ok m s' := by
  have hquiet : ∀ {s : State}, s.context.decorating = false →
      { s with context := { s.context with decorating := false } } = s := by
    intro s h
    rw [← h]
  have hstart := hquiet hc.decorating_eq
  have hend := hquiet (hs ▸ hc.decorating_eq)
  simp [expression, hc.decorating_eq, hstart, hend, h, many, run_eat_other he]

end Operand

section Access

theorem run_accesses_stop (h : Stopping s.token.kind ∨ s.token.kind = .mark .parenOpen)
    (start fuel : Nat) (x : Access) : accesses (nested d n) start (fuel + 1) x s = .ok x s := by
  rcases h with h | h
  · generalize hk : s.token.kind = k at h
    rcases h with ⟨⟨⟨⟩⟩⟩ <;> simp [accesses, hk]
  · simp [accesses, h]

theorem run_accesses_dot (h : s.Sees (.mark .dot :: .name :: more)) (start fuel : Nat) :
    accesses (level n) start (fuel + 1) ⟨m, false, []⟩ s =
      accesses (level n) start fuel ⟨.branch .member ⟨start, (s.skip 2).lastStop⟩
        [m, .leaf .word (s.skip 1).token.span (wordText (s.skip 1).token)], false, []⟩
        (s.skip 2) := by
  obtain ⟨⟨hdot, hplain⟩, ⟨hname, -⟩, -⟩ := h
  simp [accesses, hdot, Access.settled, run_advance hplain, dottedProperty, hname, anyWord,
    Token.isWord, takeLeaf]

theorem run_leftHand {m' : Node} (h : (nested d n).primary s = .ok m s₁)
    (hcalls : callsAndAccesses (nested d n) s.token.span.start (nested d n).fuel ⟨m, false, []⟩
      s₁ = .ok ⟨m', false, []⟩ s') : (nested d (n + 1)).leftHand s = .ok m' s' := by
  rw [leftHand_nested]
  simp [leftHandOf, h, hcalls, Access.settled]

theorem run_callsAndAccesses_access {x y : Access} {start : Nat}
    (h : accesses (nested d n) start (nested d n).fuel x s = .ok y s')
    (he : Stopping s'.token.kind) (fuel : Nat) :
    callsAndAccesses (nested d n) start (fuel + 1) x s = .ok y s' := by
  generalize hk : s'.token.kind = k at he
  rcases he with ⟨⟨⟨⟩⟩⟩ <;> simp [callsAndAccesses, hk, h, run_eat_other]

theorem run_callsAndAccesses_call {x : Access} {start : Nat} {args : List Node}
    (h : accesses (nested d n) start (nested d n).fuel x s = .ok ⟨m, false, []⟩ s₁)
    (hopen : s₁.token.kind = .mark .parenOpen)
    (hargs : enclosed (nested d n) .parenOpen .parenClose (argument (nested d n)) s₁ = .ok args s')
    (fuel : Nat) : callsAndAccesses (nested d n) start (fuel + 1) x s =
      callsAndAccesses (nested d n) start fuel
        ⟨.call ⟨start, s'.lastStop⟩ m [] args, false, []⟩ s' := by
  simp [callsAndAccesses, h, hopen, run_eat_other, hargs]

/-- An operand is read with its accesses up to a state. -/
def Accessed (d : Dialect) (n : Nat) (s : State) (m : Node) (s' : State) : Prop :=
  ∃ first s₁, (nested d n).primary s = .ok first s₁ ∧
    accesses (nested d n) s.token.span.start (nested d n).fuel ⟨first, false, []⟩ s₁ =
      .ok ⟨m, false, []⟩ s'

theorem accessed_primary (h : (nested d (n + 2)).primary s = .ok m s')
    (he : Stopping s'.token.kind ∨ s'.token.kind = .mark .parenOpen) : Accessed d (n + 2) s m s' :=
  ⟨m, s', h, run_accesses_stop he _ _ _⟩

theorem Accessed.run_leftHand (h : Accessed d (n + 2) s m s') (he : Stopping s'.token.kind) :
    (nested d (n + 3)).leftHand s = .ok m s' := by
  obtain ⟨first, s₁, hfirst, haccesses⟩ := h
  exact Parser.run_leftHand hfirst (run_callsAndAccesses_access haccesses he n)

theorem Accessed.run_assignment (h : Accessed d (n + 2) s m s') (hs : Starting s.token.kind)
    (harrow : s.token.kind = .mark .parenOpen → guessArrow (nested d (n + 5)) s = .ok .no s)
    (he : Ending s'.token.kind) (b : Bool) : (nested d (n + 6)).assignment b s = .ok m s' :=
  Parser.run_assignment hs harrow (h.run_leftHand (.bounding (.ending he))) he b

theorem run_assignment_primary (hs : Starting s.token.kind)
    (hparen : s.token.kind ≠ .mark .parenOpen) (h : (nested d (n + 2)).primary s = .ok m s')
    (he : Ending s'.token.kind) (b : Bool) : (nested d (n + 6)).assignment b s = .ok m s' :=
  (accessed_primary h (.inl (.bounding (.ending he)))).run_assignment hs
    (fun hk => absurd hk hparen) he b

theorem run_assignment_minus (hs : s.token.kind = .mark .minus)
    (hminus : advance (nested d (n + 4)) s = .ok ⟨⟩ s₁) (hs₁ : Starting s₁.token.kind)
    (h : (nested d (n + 2)).primary s₁ = .ok m s') (he : Ending s'.token.kind) (b : Bool) :
    (nested d (n + 7)).assignment b s =
      .ok (.branch .unary ⟨s.token.span.start, s'.lastStop⟩ [m]) s' := by
  have hstop : Stopping s'.token.kind := .bounding (.ending he)
  have hunary := run_unary hs₁ ((accessed_primary h (.inl hstop)).run_leftHand hstop) hstop
  have hwhole : (nested d (n + 5)).unary s =
      .ok (.branch .unary ⟨s.token.span.start, s'.lastStop⟩ [m]) s' := by
    rw [unary_nested]
    simp [unaryOf, hs, hminus, hunary]
  exact run_assignment_binary (hs ▸ .minus) (by simp [hs])
    (run_binary_unary (hs ▸ .minus) hwhole (.ending he) 0) he b

theorem run_leftHand_naming (h : Naming s.token.kind) (he : Stopping (s.skip 1).token.kind) :
    (level (n + 3)).leftHand s =
      .ok (.leaf .identifier s.token.span (wordText s.token)) (s.skip 1) :=
  (accessed_primary (run_primary_naming h run_advanceName) (.inl he)).run_leftHand he

theorem run_assignment_naming (h : Naming s.token.kind) (he : Ending (s.skip 1).token.kind)
    (b : Bool) : (level (n + 6)).assignment b s =
      .ok (.leaf .identifier s.token.span (wordText s.token)) (s.skip 1) := by
  refine run_assignment_primary (.naming h) ?_ (run_primary_naming h run_advanceName) he b
  intro hk
  rw [hk] at h
  cases h

theorem run_accesses_bracket (hc : s.context.Calm)
    (h : s.Sees (.mark .bracketOpen :: .name :: .mark .bracketClose :: more)) (start fuel : Nat) :
    accesses (level (n + 6)) start (fuel + 1) ⟨m, false, []⟩ s =
      accesses (level (n + 6)) start fuel ⟨.branch .element ⟨start, (s.skip 3).lastStop⟩
        [m, .leaf .identifier (s.skip 1).token.span (wordText (s.skip 1).token)], false, []⟩
        (s.skip 3) := by
  obtain ⟨⟨hopen, hplain⟩, ⟨hname, -⟩, hclose⟩ := h
  rw [skip_skip] at hclose
  have hending : Ending ((s.skip 1).skip 1).token.kind := by
    rw [skip_skip, hclose.1.1]
    exact .bracketClose
  have hkey := run_assignment_naming (n := n) (hname ▸ .name) hending true
  have hexpression := run_expression (s := s.skip 1) (by simpa using hc) hkey (by simp)
    (by simp [hclose.1.1])
  have hinside := run_allowingIn (s := s.skip 1) (by simpa using hc) hexpression (by simp)
  simp [accesses, hopen, hc.decorating_eq, Access.settled, run_advance hplain, bracketedProperty,
    hinside, run_expect hclose]

theorem accessed_member (h : s.Sees [k, .mark .dot, .name]) (hk : Naming k)
    (he : Stopping (s.skip 3).token.kind) : Accessed .script (n + 3) s
      (.branch .member ⟨s.token.span.start, (s.skip 3).lastStop⟩
        [.leaf .identifier s.token.span (wordText s.token),
          .leaf .word (s.skip 2).token.span (wordText (s.skip 2).token)]) (s.skip 3) := by
  have hname := run_primary_naming (n := n + 2) (s := s) (h.1.1 ▸ hk) run_advanceName
  have hstop : Stopping ((s.skip 1).skip 2).token.kind := by rwa [skip_skip]
  have haccess := run_accesses_dot (n := n + 3)
    (m := .leaf .identifier s.token.span (wordText s.token)) h.2 s.token.span.start (n + 1)
  rw [run_accesses_stop (.inl hstop), skip_skip, skip_skip] at haccess
  exact ⟨_, _, hname, haccess⟩

theorem accessed_element (hc : s.context.Calm)
    (h : s.Sees [.name, .mark .bracketOpen, .name, .mark .bracketClose])
    (he : Stopping (s.skip 4).token.kind ∨ (s.skip 4).token.kind = .mark .parenOpen) :
    Accessed .script (n + 6) s (.branch .element ⟨s.token.span.start, (s.skip 4).lastStop⟩
      [.leaf .identifier s.token.span (wordText s.token),
        .leaf .identifier (s.skip 2).token.span (wordText (s.skip 2).token)]) (s.skip 4) := by
  have hname := run_primary_naming (n := n + 5) (s := s) (h.1.1 ▸ .name) run_advanceName
  have hcalm : (s.skip 1).context.Calm := by simpa using hc
  have haccess := run_accesses_bracket (n := n)
    (m := .leaf .identifier s.token.span (wordText s.token)) hcalm h.2 s.token.span.start (n + 4)
  have hstop : Stopping ((s.skip 1).skip 3).token.kind ∨
      ((s.skip 1).skip 3).token.kind = .mark .parenOpen := by rwa [skip_skip]
  rw [run_accesses_stop hstop, skip_skip, skip_skip] at haccess
  exact ⟨_, _, hname, haccess⟩

end Access

section Lists

/-- Items that are read one after the other, with a comma between two, up to a closing mark. -/
inductive Listed (d : Dialect) (n : Nat) (item : Parser Node) (close : Mark) :
    State → List Node → State → Prop where
  | last {s s' : State} {m : Node} : s.token.kind ≠ .mark close → item s = .ok m s' →
      s'.token.kind = .mark close → Listed d n item close s [m] s'
  | next {s s₁ s₂ s' : State} {m : Node} {ms : List Node} : s.token.kind ≠ .mark close →
      item s = .ok m s₁ → s₁.token.kind = .mark .comma →
      advance (nested d n) s₁ = .ok ⟨⟩ s₂ → Listed d n item close s₂ ms s' →
      Listed d n item close s (m :: ms) s'

variable {item : Parser Node} {opening close : Mark} {ms : List Node}

theorem Listed.not_close (h : Listed d n item close s ms s') : s.token.kind ≠ .mark close := by
  cases h <;> assumption

theorem Listed.run_tail (h : Listed d n item close s ms s') (hclose : close ≠ .comma) {fuel : Nat}
    (hfuel : ms.length ≤ fuel) (taken : List Node) :
    ∃ m s₁, item s = .ok m s₁ ∧ delimitedTail (nested d n) close item fuel (m :: taken) s₁ =
      .ok (taken.reverse ++ ms, false) s' := by
  induction h generalizing fuel taken with
  | @last s s' m _ hitem hend =>
    obtain ⟨fuel, rfl⟩ := Nat.exists_eq_add_of_le' hfuel
    exact ⟨m, s', hitem, by simp [delimitedTail, hend]⟩
  | @next s s₁ s₂ s' m ms _ hitem hcomma hadvance hmore ih =>
    obtain ⟨fuel, rfl⟩ := Nat.exists_eq_add_of_le' hfuel
    have hleft : ms.length ≤ fuel + ms.length := Nat.le_add_left _ fuel
    obtain ⟨m', s₃, hnext, htail⟩ := ih hleft (m :: taken)
    have hother := hmore.not_close
    refine ⟨m, s₁, hitem, ?_⟩
    rw [List.length_cons, ← Nat.add_assoc, delimitedTail]
    simp [hcomma, hclose.symm, expect, eat, hadvance, hother, hnext, htail]

theorem Listed.run_delimited (h : Listed d (n + 1) item close s ms s') (hclose : close ≠ .comma)
    (hcount : ms.length ≤ n) : delimited (nested d (n + 1)) close item s = .ok (ms, false) s' := by
  obtain ⟨m, s₁, hitem, htail⟩ := h.run_tail hclose hcount []
  simpa [delimited, h.not_close, hitem] using htail

theorem run_enclosed_nil (h : s.Sees (.mark opening :: .mark close :: more)) :
    enclosed (level n) opening close item s = .ok [] (s.skip 2) := by
  have hclose := run_expect (n := n) h.2 "a closing mark"
  simp [enclosed, run_expect h, delimited, h.2.1.1, hclose]

theorem Listed.run_enclosed (h : Listed .script (n + 1) item close (s.skip 1) ms s')
    (hopen : s.Sees (.mark opening :: more)) (hend : s'.Sees [.mark close])
    (hclose : close ≠ .comma) (hcount : ms.length ≤ n) :
    enclosed (level (n + 1)) opening close item s = .ok ms (s'.skip 1) := by
  simp [enclosed, run_expect hopen, h.run_delimited hclose hcount, run_expect hend]

end Lists

section Brackets

theorem run_guessArrow_no (h : s.Sees [.mark .parenOpen, .name, .mark .bracketOpen]) :
    guessArrow (level n) s = .ok .no s := by
  obtain ⟨⟨hopen, hopen'⟩, ⟨hname, hname'⟩, ⟨hbracket, -⟩, -⟩ := h
  rw [skip_skip] at hbracket
  simp [guessArrow, hopen, run_advance hopen', guessAfterParen, hname, run_advance hname',
    Token.keyword?, Token.isBinding, hbracket]

theorem run_guessArrow_twice (h : s.Sees [.mark .parenOpen, .mark .parenOpen]) :
    guessArrow (level n) s = .ok .no s := by
  obtain ⟨⟨hopen, hopen'⟩, ⟨hname, hname'⟩, -⟩ := h
  simp [guessArrow, hopen, run_advance hopen', guessAfterParen, hname, run_advance hname',
    Token.keyword?, Token.isBinding]

theorem run_parenthesized (hc : s.context.Calm) (h : s.Sees [.mark .parenOpen])
    (hlisted : Listed .script (n + 2) ((level (n + 2)).assignment true) .parenClose (s.skip 1)
      [m] s')
    (hs : s'.context = s.context) (hclose : s'.Sees [.mark .parenClose]) :
    (level (n + 3)).primary s =
      .ok (.branch .parenthesized ⟨s.token.span.start, (s'.skip 1).lastStop⟩ [m])
        (s'.skip 1) := by
  have hms := hlisted.run_delimited (by decide) (show [m].length ≤ n + 1 by simp)
  have hinside := run_allowingIn (s := s.skip 1) (by simpa using hc) hms (by simpa using hs)
  rw [primary_nested]
  simp [primaryOf, atFunction, atAsyncFunction, h.1.1, parenthesized, run_advance h.1.2, hinside,
    run_expect hclose]

theorem run_object_nil (h : s.Sees [.mark .braceOpen, .mark .braceClose]) :
    (level (n + 1)).primary s =
      .ok (.branch .object ⟨s.token.span.start, (s.skip 2).lastStop⟩ []) (s.skip 2) := by
  rw [primary_nested]
  have hclose := run_expect (n := n) h.2 "a closing brace"
  simp [primaryOf, atFunction, atAsyncFunction, h.1.1, objectLiteral, run_advance h.1.2,
    delimited, h.2.1.1, rememberComma, hclose]

theorem run_object {ms : List Node} (h : s.Sees [.mark .braceOpen])
    (hitems : Listed .script (n + 1) (objectItem (level (n + 1))) .braceClose (s.skip 1) ms s')
    (hclose : s'.Sees [.mark .braceClose]) (hcount : ms.length ≤ n) :
    (level (n + 2)).primary s =
      .ok (.branch .object ⟨s.token.span.start, (s'.skip 1).lastStop⟩ ms) (s'.skip 1) := by
  have hms := hitems.run_delimited (by decide) hcount
  rw [primary_nested]
  simp [primaryOf, atFunction, atAsyncFunction, h.1.1, objectLiteral, run_advance h.1.2,
    hms, rememberComma, run_expect hclose]

def keyLeaf? (t : Token) : Option Node :=
  match t.kind with
  | .name => some (.leaf .word t.span (wordText t))
  | .string value _ => some (.leaf .text t.span (String.ofList value))
  | _ => none

theorem run_propertyKey {key : Node} (hkey : keyLeaf? s.token = some key) (hp : s.token.Plain) :
    propertyKey (level n) s = .ok (key, false) (s.skip 1) := by
  unfold keyLeaf? at hkey
  split at hkey
  · next hkind =>
    obtain rfl := Option.some.inj hkey
    simp [propertyKey, hkind, anyWord, Token.isWord, takeLeaf]
  · next value lone hkind =>
    obtain rfl := Option.some.inj hkey
    simp [propertyKey, hkind, stringLeaf, run_advance hp]
  · cases hkey

theorem run_objectItem (key : Node) (hleaf : keyLeaf? s.token = some key)
    (hkey : propertyKey (nested d (n + 2)) s = .ok (key, false) s₁)
    (hcolon : s₁.token.kind = .mark .colon) (hadvance : advance (nested d (n + 2)) s₁ = .ok ⟨⟩ s₂)
    (hc : s₂.context.Calm) (hv : (nested d (n + 2)).assignment true s₂ = .ok v s')
    (hs : s'.context = s₂.context) : objectItem (nested d (n + 2)) s =
      .ok (.branch .property ⟨s.token.span.start, s'.lastStop⟩ [key, v]) s' := by
  have hv := run_allowingIn hc hv hs
  unfold keyLeaf? at hleaf
  split at hleaf
  case h_3 => cases hleaf
  all_goals
    next htoken =>
      simp [objectItem, htoken, modifiers, modifiersFrom, modifier?, Token.keyword?,
        accessorWord, hkey, atSignature, hcolon, allowOnly, expect, eat, hadvance,
        hv]

theorem run_argument (hc : s.context.Calm) (h : (nested d n).assignment true s = .ok m s')
    (hs : s'.context = s.context) (hdots : s.token.kind ≠ .mark .ellipsis) :
    argument (nested d n) s = .ok m s' := by
  simp [argument, hdots, run_allowingIn hc h hs]

theorem Accessed.run_call {args : List Node} (h : Accessed d (n + 3) s m s₁)
    (hopen : s₁.token.kind = .mark .parenOpen)
    (hargs : enclosed (nested d (n + 3)) .parenOpen .parenClose (argument (nested d (n + 3))) s₁ =
      .ok args s') (he : Stopping s'.token.kind) : (nested d (n + 4)).leftHand s =
        .ok (.call ⟨s.token.span.start, s'.lastStop⟩ m [] args) s' := by
  obtain ⟨first, s₀, hfirst, haccesses⟩ := h
  refine Parser.run_leftHand hfirst ?_
  have hcall := run_callsAndAccesses_call haccesses hopen hargs (n + 1)
  have hstop := run_accesses_stop (d := d) (n := n + 3) (.inl he) s.token.span.start (n + 1)
    ⟨.call ⟨s.token.span.start, s'.lastStop⟩ m [] args, false, []⟩
  rw [fuel_nested]
  exact hcall.trans (run_callsAndAccesses_access hstop he n)

end Brackets

end Parser

end ModuleBundler.Script
