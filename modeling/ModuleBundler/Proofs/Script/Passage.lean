import ModuleBundler.Proofs.Script.Code
import ModuleBundler.Proofs.Script.Opening
import ModuleBundler.Proofs.Script.Statement
import ModuleBundler.Proofs.Script.Wording

/-! Texts that are read as statements, or as the body of a function, wherever they stand. -/
namespace ModuleBundler.Script

open ModuleBundler.Script.Parser

section States

variable {s s' : State} {text rest : List Char} {ks ks' : List TokenKind}

namespace State

theorem Sees.front (h : s.Sees ks) (hks : ks' <+: ks) : s.Sees ks' := by
  induction ks' generalizing s ks with
  | nil => trivial
  | cons k more ih =>
    obtain ⟨behind, rfl⟩ := hks
    exact ⟨h.1, ih h.2 (List.prefix_append more behind)⟩

theorem Sees.append (h : s.Sees ks) (h' : (s.skip ks.length).Sees ks') : s.Sees (ks ++ ks') := by
  induction ks generalizing s with
  | nil => exact h'
  | cons k more ih =>
    refine ⟨h.1, ih h.2 ?_⟩
    rw [skip_skip, Nat.add_comm]
    exact h'

theorem Sees.behind (h : s.Sees ks) (i : Nat) (hks : ks' <+: ks.drop i) : (s.skip i).Sees ks' := by
  induction i generalizing s ks with
  | zero => exact h.front hks
  | succ i ih =>
    cases ks with
    | nil =>
      obtain rfl := List.prefix_nil.1 hks
      trivial
    | cons k more =>
      have hmore := ih h.2 hks
      rwa [skip_skip, Nat.add_comm] at hmore

theorem Texts.front {ts ts' : List String} (h : s.Texts ts) (hts : ts' <+: ts) : s.Texts ts' := by
  induction ts' generalizing s ts with
  | nil => trivial
  | cons t more ih =>
    obtain ⟨behind, rfl⟩ := hts
    exact ⟨h.1, ih h.2 (List.prefix_append more behind)⟩

theorem Texts.behind {ts ts' : List String} (h : s.Texts ts) (i : Nat) (hts : ts' <+: ts.drop i) :
    (s.skip i).Texts ts' := by
  induction i generalizing s ts with
  | zero => exact h.front hts
  | succ i ih =>
    cases ts with
    | nil =>
      obtain rfl := List.prefix_nil.1 hts
      trivial
    | cons t more =>
      have hmore := ih h.2 hts
      rwa [skip_skip, Nat.add_comm] at hmore

theorem Fresh.within (h : s.Fresh) (c : Context) : (s.within c).Fresh :=
  ⟨h.notArrows, h.trailingCommas⟩

theorem Leads.within {c : Context} (h : (s.within c).Leads s' rest) :
    s.Leads (s'.within s.context) rest :=
  ⟨h.at_rest, h.faults_eq, rfl, fun hfresh => (h.fresh (hfresh.within c)).within s.context⟩

theorem At.not_else (h : s.At text) (htext : Opens text) :
    s.token.kind ≠ .keyword .elseWord := by
  obtain ⟨broken, pos, hnext⟩ := h
  obtain ⟨t, ht, hkind, -, -⟩ := htext broken pos
  obtain rfl := sound_injective (ht.symm.trans hnext)
  exact hkind

theorem At.sees_mark {m : Mark} (h : s.At (markText m ++ rest))
    (hm : (Piece.mark m).fits none = true) : s.Sees [.mark m] := by
  obtain ⟨broken, pos, hnext⟩ := h
  exact ⟨(token_of_next (shows_mark hm nofun) hnext).1, trivial⟩

theorem At.sees_braceOpen (h : s.At ('\x7b' :: rest)) : s.Sees [.mark .braceOpen] :=
  At.sees_mark (m := .braceOpen) h rfl

theorem At.finish (h : s.At []) : s.token.kind = .finish := by
  obtain ⟨broken, pos, hnext⟩ := h
  have htoken : Lexer.token .finish broken ⟨[], pos⟩ ⟨[], pos⟩ = s.token := sound_injective hnext
  rw [← htoken]
  rfl

end State

end States

/-- A tree says what it should, and no default value is left over in it. -/
structure Node.Tells (m : Node) (p : Code → Prop) : Prop where
  strayDefault?_eq : strayDefault? m = none
  holds : p m.code

def Code.Meet (ps : List (Code → Prop)) (cs : List Code) : Prop :=
  List.Forall₂ (fun p c => p c) ps cs

/-- A text is read as statements wherever it stands. -/
structure Spells (n : Nat) (r : Bool) (text : List Char) (ps : List (Code → Prop)) : Prop where
  opens : ∀ {rest}, Opens rest → Opens (text ++ rest)
  reads : ∀ {s : State} {rest : List Char}, s.At (text ++ rest) → Opens rest →
    s.context = .ordinary r → s.Fresh →
      ∃ ms s', Statements .script n s ms s' ∧ List.Forall₂ Node.Tells ms ps ∧ s.Leads s' rest

variable {n : Nat} {r : Bool} {text text' rest : List Char} {s : State} {p : Code → Prop}
  {ps ps' : List (Code → Prop)} {cs : List Code} {ms : List Node} {k : TokenKind}
  {ks : List TokenKind} {ws : List Piece}

theorem strayDefaultIn?_of_tells (h : List.Forall₂ Node.Tells ms ps) :
    strayDefaultIn? ms = none := by
  induction h with
  | nil => rfl
  | cons hm _ ih =>
    rw [strayDefaultIn?, hm.strayDefault?_eq, ih]
    rfl

theorem meet_of_tells (h : List.Forall₂ Node.Tells ms ps) : Code.Meet ps (ms.map Node.code) := by
  induction h with
  | nil => exact .nil
  | cons hm _ ih => exact .cons hm.holds ih

theorem Code.meet_eq_iff {cs' : List Code} : Code.Meet (cs.map Eq) cs' ↔ cs' = cs := by
  induction cs generalizing cs' with
  | nil => exact List.forall₂_nil_left_iff
  | cons c more ih =>
    refine List.forall₂_cons_left_iff.trans ⟨?_, ?_⟩
    · rintro ⟨_, _, rfl, hmore, rfl⟩
      rw [ih.1 hmore]
    · rintro rfl
      exact ⟨c, more, rfl, ih.2 rfl, rfl⟩

namespace Spells

theorem nil : Spells n r [] [] := by
  refine ⟨id, ?_⟩
  intro s rest hs _ _ _
  exact ⟨[], s, .done, .nil, hs, rfl, rfl, id⟩

theorem blank {d : Char} (h : Spells n r text ps) (hd : isBlank d = true) :
    Spells n r (d :: text) ps := by
  refine ⟨fun hrest => (h.opens hrest).blank hd, ?_⟩
  intro s rest hs hrest
  exact h.reads (hs.blank hd) hrest

theorem blanks (ds : List Char) (hds : ds.all isBlank = true) : Spells n r ds [] := by
  induction ds with
  | nil => exact nil
  | cons d more ih =>
    obtain ⟨hd, hmore⟩ : isBlank d = true ∧ more.all isBlank = true := by simpa using hds
    exact (ih hmore).blank hd

theorem append (h : Spells n r text ps) (h' : Spells n r text' ps') :
    Spells n r (text ++ text') (ps ++ ps') := by
  constructor
  · intro rest hrest
    rw [List.append_assoc]
    exact h.opens (h'.opens hrest)
  · intro s rest hs hrest hc hfresh
    rw [List.append_assoc] at hs
    obtain ⟨ms, s₁, hfirst, htells, hleads⟩ := h.reads hs (h'.opens hrest) hc hfresh
    obtain ⟨ms', s', hsecond, htells', hleads'⟩ :=
      h'.reads hleads.at_rest hrest (hleads.context_eq.trans hc) (hleads.fresh hfresh)
    exact ⟨ms ++ ms', s', hfirst.append hsecond, List.rel_append htells htells',
      hleads.trans hleads'⟩

theorem single (hopens : ∀ {rest}, Opens rest → Opens (text ++ rest))
    (hreads : ∀ {s : State} {rest : List Char}, s.At (text ++ rest) → Opens rest →
      s.context = .ordinary r → s.Fresh → ¬ Closing s.token.kind ∧
        ∃ m s', (level n).statement false s = .ok m s' ∧ m.Tells p ∧ s.Leads s' rest) :
    Spells n r text [p] := by
  refine ⟨hopens, ?_⟩
  intro s rest hs hrest hc hfresh
  obtain ⟨hother, m, s', hread, htells, hleads⟩ := hreads hs hrest hc hfresh
  exact ⟨[m], s', .step hother hread .done, .cons htells .nil, hleads⟩

theorem mono {q : Code → Prop} (h : Spells n r text [p]) (hpq : ∀ c, p c → q c) :
    Spells n r text [q] := by
  refine ⟨h.opens, ?_⟩
  intro s rest hs hrest hc hfresh
  obtain ⟨ms, s', hread, htells, hleads⟩ := h.reads hs hrest hc hfresh
  obtain ⟨m, _, hm, hnone, rfl⟩ := List.forall₂_cons_right_iff.1 htells
  exact ⟨_, s', hread, .cons ⟨hm.strayDefault?_eq, hpq _ hm.holds⟩ hnone, hleads⟩

end Spells

open State in
theorem run_nameCall {value : List Char} {lone : Bool} (hc : s.context.Calm)
    (h : s.Sees [.name, .mark .parenOpen, .string value lone, .mark .parenClose,
      .mark .semicolon]) : ∃ span span' span'' : Span, (level (n + 11)).statement false s =
        .ok (.branch .expressionStatement span
          [.call span' (.leaf .identifier s.token.span (wordText s.token)) []
            [.leaf .string span'' (String.ofList value)]]) (s.skip 5) := by
  have hname := h.1.1
  have hopen : (s.skip 1).Sees [.mark .parenOpen] := h.behind 1 ⟨_, rfl⟩
  have hargument : (s.skip 2).Sees [.string value lone] := h.behind 2 ⟨_, rfl⟩
  have hclose : (s.skip 3).Sees [.mark .parenClose] := h.behind 3 ⟨_, rfl⟩
  have hend : (s.skip 4).Sees [.mark .semicolon] := h.behind 4 ⟨_, rfl⟩
  have haccess := accessed_primary (n := n + 4)
    (run_primary_naming (n := n + 5) (s := s) (hname ▸ .name) run_advanceName) (.inr hopen.1.1)
  have hid := run_primary_string (n := n + 1) hargument
  rw [skip_skip] at hid
  have hvalue := run_argument (s := s.skip 2) (by simpa using hc) (run_assignment_primary
    (hargument.1.1 ▸ .literal (.string _ _)) (by simp [hargument.1.1]) hid
    (hclose.1.1 ▸ .parenClose) true) (by simp) (by simp [hargument.1.1])
  have hlisted := Listed.last (d := .script) (n := n + 6) (s := (s.skip 1).skip 1)
    (by simp [hargument.1.1]) (by simpa using hvalue) hclose.1.1
  have hargs := hlisted.run_enclosed (n := n + 5) hopen hclose nofun (by simp)
  simp only [skip_skip, Nat.reduceAdd] at hargs
  have hcall := haccess.run_call (n := n + 3) hopen.1.1 hargs
    (hend.1.1 ▸ .bounding (.ending .semicolon))
  have hwhole := run_assignment (n := n + 6) (hname ▸ .naming .name) (by simp [hname]) hcall
    (hend.1.1 ▸ .semicolon) true
  have hread := run_expressionStatement (n := n + 8) rfl hc (hname ▸ .name) hwhole (by simp) rfl
    (by simp [hend.1.1]) (run_endStatement hend) false
  simp only [skip_skip, Nat.reduceAdd] at hread
  exact ⟨_, _, _, hread⟩

theorem Worded.spells (h : Worded ws text (k :: ks)) (hk : ¬ Closing k)
    (hreads : ∀ s : State, s.context = .ordinary r → s.Sees (k :: ks) → s.Texts (texts ws) →
      (s.skip (ks.length + 1)).token.kind ≠ .keyword .elseWord →
      (∀ i, (breaks true ws).getD i true = false → (s.skip i).token.afterBreak = false) →
      ∃ m, (level n).statement false s = .ok m (s.skip (ks.length + 1)) ∧ m.Tells p) :
    Spells n r text [p] := by
  refine .single h.opens ?_
  intro s rest hs hrest hc _
  obtain ⟨hsees, hleads⟩ := h.passes hs hrest
  have helse := hleads.at_rest.not_else hrest
  have hlines := fun i => h.sameLine (i := i) hs hrest
  obtain ⟨m, hm, htells⟩ := hreads s hc hsees (h.sees_texts hs hrest) helse hlines
  refine ⟨?_, m, _, hm, htells, hleads⟩
  rw [hsees.1.1]
  exact hk

theorem worded_braceOpen : Worded [.mark .braceOpen] ['\x7b'] [.mark .braceOpen] := ⟨rfl, rfl, rfl⟩

theorem worded_braceClose : Worded [.mark .braceClose] ['\x7d'] [.mark .braceClose] :=
  ⟨rfl, rfl, rfl⟩

theorem opens_braceOpen (rest : List Char) : Opens ('\x7b' :: rest) :=
  (shows_mark (m := .braceOpen) (c := none) rfl nofun).opens nofun

theorem opens_braceClose (rest : List Char) : Opens ('\x7d' :: rest) :=
  (shows_mark (m := .braceClose) (c := none) rfl nofun).opens nofun

theorem Spells.run_functionBody (h : Spells (n + 1) true text ps) (hcount : ps.length < n)
    (hs : s.At ('\x7b' :: (text ++ '\x7d' :: rest))) (hrest : Opens rest)
    (hc : s.context = .ordinary r) (hfresh : s.Fresh) :
    ∃ span ms s', functionBody (level (n + 1)) s = .ok (.branch .body span ms) s' ∧
      List.Forall₂ Node.Tells ms ps ∧ s.Leads s' rest := by
  obtain ⟨hsees, hstart⟩ := worded_braceOpen.passes hs (h.opens (opens_braceClose rest))
  obtain ⟨ms, s₁, hstatements, htells, hinside⟩ :=
    h.reads (s := (s.skip 1).within (.ordinary true)) hstart.at_rest (opens_braceClose rest) rfl
      ((hstart.fresh hfresh).within _)
  obtain ⟨hlast, hend⟩ := worded_braceClose.passes hinside.at_rest hrest
  refine ⟨_, ms, _, Parser.run_functionBody hsees hc hstatements hlast
    (htells.length_eq ▸ hcount), htells, ?_⟩
  have hbody := hstart.trans (hinside.trans hend).within
  rwa [State.context_skip, hc] at hbody

/-- Between the braces of a function that is neither asynchronous nor a generator, each on a line of
its own, a text is read as the body of the function. -/
def ReadsAsBody (text : List Char) : Prop :=
  ∀ (n : Nat) (s : State) (rest : List Char), 8 * text.length + 64 ≤ n →
    s.At ('\x7b' :: '\n' :: (text ++ ("\n    \x7d".toList ++ rest))) → Opens rest →
      s.context = .ordinary true → s.Fresh →
        ∃ m s', functionBody (level n) s = .ok m s' ∧ strayDefault? m = none ∧ s.Leads s' rest

/-- A tree, without the places of its parts, that a text is read as there. -/
def BodyOf (text : List Char) (tree : Node) : Prop :=
  ∃ (n : Nat) (s s' : State) (rest : List Char) (m : Node),
    s.At ('\x7b' :: '\n' :: (text ++ ("\n    \x7d".toList ++ rest))) ∧
      functionBody (level n) s = .ok m s' ∧ s'.At rest ∧ m.unplaced = tree

def awaiting : State :=
  (Program.startState .script
    (Lexer.first false "\x7b\nawait 1;\n    \x7d;".toList).token).within (.ordinary true)

/-- What a module may do at its top, a function that is not asynchronous may not. -/
theorem not_readsAsBody_await : ¬ ReadsAsBody "await 1;".toList := by
  intro h
  have hat : awaiting.At
      ('\x7b' :: '\n' :: ("await 1;".toList ++ ("\n    \x7d".toList ++ ";".toList))) :=
    ⟨true, 0, rfl⟩
  have hsemicolon : Shows ";".toList (.mark .semicolon) [] [] :=
    shows_mark (m := .semicolon) (c := none) rfl nofun
  have hnoted : (match functionBody (level 128) awaiting with
      | .ok _ s' => s'.faults.isEmpty
      | .error _ _ => false) = false := by
    decide +kernel
  obtain ⟨m, s', hrun, -, hleads⟩ :=
    h 128 awaiting _ (by decide) hat (hsemicolon.opens nofun) rfl ⟨nofun, nofun⟩
  rw [hrun] at hnoted
  dsimp only at hnoted
  have hnone : s'.faults = [] := hleads.faults_eq
  rw [hnone] at hnoted
  cases hnoted

/-- Statements are the body of a function, if few enough for the text they stand in. -/
theorem readsAsBody_of_spells (ps : List (Code → Prop))
    (h : ∀ n, 8 * text.length + 63 ≤ n → Spells (n + 1) true text ps)
    (hcount : ps.length ≤ text.length) : ReadsAsBody text := by
  intro n s rest hn hs hrest hc hfresh
  obtain ⟨n, rfl⟩ : ∃ m, n = m + 1 := Nat.exists_eq_add_of_le' (by omega)
  have hend : Spells (n + 1) true "\n    ".toList [] := .blanks _ (by decide)
  have hwhole := ((h n (by omega)).append hend).blank (d := '\n') (by decide)
  rw [List.append_nil] at hwhole
  have htext : ("\n    \x7d" : String).toList = "\n    ".toList ++ ['\x7d'] := by decide
  rw [htext] at hs
  obtain ⟨span, ms, s', hrun, htells, hleads⟩ :=
    hwhole.run_functionBody (by omega) (by simpa using hs) hrest hc hfresh
  exact ⟨_, s', hrun, strayDefaultIn?_of_tells htells, hleads⟩

theorem readFrom_sound {t : Token} {s' : State} {program : Program}
    (hread : Program.reader (level (8 * t.here.length + 64)) (Program.startState .script t) =
      .ok program s') (hfaults : s'.faults = []) (hclean : strayDefault? program.tree = none) :
    Program.readFrom .script (Lexer.sound t) = .ok program := by
  have hgrammar : Program.grammar .script t.here = level (8 * t.here.length + 64) := rfl
  simp only [Program.readFrom, Lexer.sound, hgrammar, hread, hfaults, hclean]
  rfl

/-- A text that is statements from its first token on is a program, if they are few enough. -/
theorem Spells.read {whole : List Char} {pos : Nat} (hwhole : ¬ HasHashbang whole)
    (hskip : Lexer.skipGap false .between true whole 0 = (⟨text, pos⟩, true, false))
    {t : Token} (ht : Lexer.next false true ⟨text, 0⟩ = Lexer.sound t) (hhere : t.here = text)
    (hkind : t.kind ≠ .hashbang) (h : Spells (8 * text.length + 64) false text ps)
    (hcount : ps.length < 8 * text.length + 63) :
    ∃ program, Program.read .script whole = .ok program ∧ Code.Meet ps program.code := by
  obtain ⟨s, hs⟩ : ∃ s, Program.startState .script t = s := ⟨_, rfl⟩
  have hat : s.At text := hs ▸ ⟨true, 0, ht⟩
  have hfresh : s.Fresh := hs ▸ ⟨nofun, nofun⟩
  -- the parser starts at the first token, with nothing noted yet
  have hall : s.At (text ++ []) := by rwa [List.append_nil]
  obtain ⟨ms, s', hstatements, htells, hleads⟩ := h.reads hall opens_nil (hs ▸ rfl) hfresh
  have hread := run_reader (hs ▸ hkind) hstatements hleads.at_rest.finish
    (htells.length_eq ▸ hcount)
  have hclean := strayDefaultIn?_of_tells htells
  have hfaults : s'.faults = [] := hleads.faults_eq.trans (hs ▸ rfl)
  subst hs hhere
  have hfrom := readFrom_sound hread hfaults hclean
  refine ⟨Program.moved pos ⟨none, .branch .program ⟨t.span.start, s'.lastStop⟩ ms⟩, ?_, ?_⟩
  · rw [Program.read_of_skipGap hwhole hskip]
    show Program.behind pos (Program.readFrom .script (Lexer.next false true ⟨t.here, 0⟩)) = _
    rw [ht, hfrom]
    rfl
  · rw [Program.code_moved]
    exact meet_of_tells htells

end ModuleBundler.Script
