import ModuleBundler.Proofs.Chunk.Frame
import ModuleBundler.Proofs.Chunk.Heading

/-! The script of a chunk is a program, whatever its modules are, if each of their sources is the
body of a function and the name in its heading stays on its line. -/
namespace ModuleBundler.Chunk

open Script Script.Parser Script.State

variable {n : Nat} {text rest : List Char} {s s' : State} {m : Module}
  {items : List (List Char)} {ps : List (Code → Prop)}

section Registry

/-- A text is read as one property of an object wherever it stands. -/
structure SpellsItem (n : Nat) (text : List Char) (p : Code → Prop) : Prop where
  opens : ∀ {rest}, Opens rest → Opens (text ++ rest)
  reads : ∀ {s : State} {rest : List Char}, s.At (text ++ rest) → Opens rest →
    s.context = .ordinary true → s.Fresh → s.token.kind ≠ .mark .braceClose ∧
      ∃ m s', objectItem (level n) s = .ok m s' ∧ m.Tells p ∧ s.Leads s' rest

/-- What the function of a module is in the registry: a property that has the name of the module for
its key. -/
def memberCode (m : Module) (tree : Node) : Code := .property m.id (.given inputNames tree)

/-- The function of a module, with its source as its body. -/
def MemberSays (m : Module) (c : Code) : Prop :=
  ∃ tree, BodyOf (body m).toList tree ∧ c = memberCode m tree

def RegistrySays (modules : List Module) (c : Code) : Prop :=
  ∃ members, List.Forall₂ MemberSays modules members ∧ c = .var registryName (.object members)

def memberKey (id : String) : List Char :=
  "    ".toList ++ ((Text.quote id).toList ++ ": ".toList)

theorem worded_memberKey (id : String) : Worded
    [.blank ' ', .blank ' ', .blank ' ', .blank ' ', .quoted id, .mark .colon, .blank ' ']
    (memberKey id) [.string id.toList false, .mark .colon] :=
  ⟨by simp [spelled, Piece.text, markText, memberKey], rfl, rfl⟩

theorem member_append (m : Module) (rest : List Char) : (member m).toList ++ rest =
    memberKey m.id ++ (memberHeadText.toList ++
      ('\x7b' :: '\n' :: ((body m).toList ++ ("\n    \x7d".toList ++ rest)))) := by
  have hopen : ") => \x7b\n".toList = ") => ".toList ++ ['\x7b', '\n'] := by decide
  have hcolon : ": (module, exports, ".toList = ": ".toList ++ "(module, exports, ".toList := by
    decide
  unfold member memberKey memberHeadText
  simp only [String.toList_append, List.append_assoc, hopen, hcolon, List.cons_append,
    List.nil_append, -String.reduceAppend]

theorem run_memberFunction (hbody : ReadsAsBody text) (hn : 8 * text.length + 64 ≤ n + 2)
    (hs : s.At (memberHeadText.toList ++
      ('\x7b' :: '\n' :: (text ++ ("\n    \x7d".toList ++ rest))))) (hrest : Opens rest)
    (hc : s.context = .ordinary true) (hfresh : s.Fresh) :
    ∃ span parts body ms s', (level (n + 3)).assignment true s =
        .ok (.branch (.arrow false) span parts) s' ∧
      Node.Parted parts inputNames (.branch .body body ms) ∧
      BodyOf text (Node.branch .body body ms).unplaced ∧
      strayDefault? (.branch (.arrow false) span parts) = none ∧ s.Leads s' rest := by
  obtain ⟨hsees, hhead⟩ := (Wordings.memberHead wordings).passes hs (opens_braceOpen _)
  have htexts := (Wordings.memberHead wordings).sees_texts hs (opens_braceOpen _)
  rw [Wordings.memberHead_texts wordings] at htexts
  have hline := (Wordings.memberHead wordings).sameLine hs (opens_braceOpen _)
    (Wordings.memberHead_line wordings)
  have hseen := hsees.append hhead.at_rest.sees_braceOpen
  obtain ⟨m, s', hread, hclean, hend⟩ := hbody (n + 2) _ rest hn hhead.at_rest hrest
    (hhead.context_eq.trans hc) (hhead.fresh hfresh)
  obtain ⟨body, ms, rfl⟩ := functionBody_eq hread
  have hwhole := hhead.trans hend
  have hlast : Parameters (s.skip 6) [] (s.skip 6) := .done (hsees.behind 6 ⟨_, rfl⟩)
  have hmore := Parameters.next (s := s.skip 4) (hsees.behind 4 ⟨_, rfl⟩) .name
    (by simpa using hlast)
  have hparameters := Parameters.next (s := s.skip 2) (hsees.behind 2 ⟨_, rfl⟩) .name
    (by simpa using hmore)
  have hplace : s.token.span.start ∉ s.notArrows := fun hmem =>
    Nat.lt_irrefl _ (hfresh.notArrows _ hmem)
  have harrow : ((s.skip 6).skip 1).Sees [.mark .arrow, .mark .braceOpen] := by
    rw [skip_skip]
    exact hseen.behind 7 ⟨_, rfl⟩
  have hfunction := run_arrow (n := n) hc hplace (hsees.front ⟨_, rfl⟩) .module hparameters
    (show 3 < n by omega) (by simp) harrow (by simpa using hline) (by simpa using hread)
    hwhole.context_eq
  simp only [skip_skip, Nat.reduceAdd, htexts.getElem? (i := 1) rfl, htexts.getElem? (i := 3) rfl,
    htexts.getElem? (i := 5) rfl, List.cons_append, List.nil_append] at hfunction
  refine ⟨_, _, body, ms, s', hfunction, .parameter (.parameter (.parameter .body)),
    ⟨_, _, _, _, _, hhead.at_rest, hread, hend.at_rest, rfl⟩, ?_, hwhole⟩
  simpa [strayDefault?, strayDefaultIn?] using hclean

theorem spellsItem_member (hbody : ReadsAsBody (body m).toList)
    (hn : 8 * (body m).toList.length + 64 ≤ n + 2) :
    SpellsItem (n + 3) (member m).toList (MemberSays m) := by
  have hfunction : ∀ rest, Opens (memberHeadText.toList ++
      ('\x7b' :: '\n' :: ((body m).toList ++ ("\n    \x7d".toList ++ rest)))) :=
    fun _ => (Wordings.memberHead wordings).opens (opens_braceOpen _)
  constructor
  · intro rest _
    rw [member_append]
    exact (worded_memberKey m.id).opens (hfunction rest)
  · intro s rest hs hrest hc hfresh
    rw [member_append] at hs
    obtain ⟨hsees, hkey⟩ := (worded_memberKey m.id).passes hs (hfunction rest)
    obtain ⟨span, parts, body, ms, s', hread, hparts, htree, hclean, hend⟩ :=
      run_memberFunction hbody hn hkey.at_rest hrest (hkey.context_eq.trans hc)
        (hkey.fresh hfresh)
    have hwhole := hkey.trans hend
    have hcalm : s.context.Calm := hc ▸ Context.calm_ordinary true
    have hleaf : keyLeaf? s.token = some (.leaf .text s.token.span m.id) := by
      simp [keyLeaf?, hsees.1.1]
    have hitem := run_objectItem _ hleaf (run_propertyKey (n := n + 3) hleaf hsees.1.2) hsees.2.1.1
      (run_advance hsees.2.1.2) (by simpa using hcalm) (by simpa using hread)
      (by simpa using hwhole.context_eq)
    refine ⟨by simp [hsees.1.1], _, s', hitem, ⟨?_, ?_⟩, hwhole⟩
    · simpa [strayDefault?, strayDefaultIn?] using hclean
    · exact ⟨_, htree, hparts.code_given _ _ _ _⟩

theorem worded_comma : Worded [.mark .comma, .blank '\n'] [',', '\n'] [.mark .comma] :=
  ⟨rfl, rfl, rfl⟩

theorem opens_joined (h : List.Forall₂ (SpellsItem n) items ps) (hrest : Opens rest) :
    Opens (List.intercalate [',', '\n'] items ++ rest) := by
  induction h with
  | nil => exact hrest
  | cons htext hmore ih =>
    cases hmore with
    | nil =>
      rw [List.intercalate_singleton]
      exact htext.opens hrest
    | cons =>
      rw [List.intercalate_cons_cons, List.append_assoc, List.append_assoc]
      exact htext.opens (worded_comma.opens ih)

theorem listed_joined (hne : items ≠ []) (h : List.Forall₂ (SpellsItem n) items ps)
    (hs : s.At (List.intercalate [',', '\n'] items ++ rest)) (hrest : Opens rest)
    (hclose : ∀ {s : State}, s.At rest → s.Sees [.mark .braceClose])
    (hc : s.context = .ordinary true) (hfresh : s.Fresh) :
    ∃ ms s', Listed .script n (objectItem (level n)) .braceClose s ms s' ∧
      List.Forall₂ Node.Tells ms ps ∧ s.Leads s' rest := by
  induction h generalizing s with
  | nil => exact absurd rfl hne
  | cons htext hmore ih =>
    cases hmore with
    | nil =>
      rw [List.intercalate_singleton] at hs
      obtain ⟨hother, m, s', hread, htells, hleads⟩ := htext.reads hs hrest hc hfresh
      exact ⟨[m], s', .last hother hread (hclose hleads.at_rest).1.1, .cons htells .nil, hleads⟩
    | cons hsecond hrest' =>
      have hnext := opens_joined (.cons hsecond hrest') hrest
      rw [List.intercalate_cons_cons, List.append_assoc, List.append_assoc] at hs
      obtain ⟨hother, m, s₁, hread, htells, hleads⟩ :=
        htext.reads hs (worded_comma.opens hnext) hc hfresh
      obtain ⟨hcomma, hpast⟩ := worded_comma.passes hleads.at_rest hnext
      have hstart := hleads.trans hpast
      obtain ⟨ms, s', hlisted, htells', hend⟩ := ih (by simp) hstart.at_rest
        (hstart.context_eq.trans hc) (hstart.fresh hfresh)
      exact ⟨m :: ms, s', .next hother hread hcomma.1.1 (run_advance hcomma.1.2) hlisted,
        .cons htells htells', hstart.trans hend⟩

theorem registry_append (modules : List Module) (rest : List Char) :
    (registry modules).toList ++ rest = registryHeadText.toList ++ ('\x7b' :: '\n' ::
      (List.intercalate [',', '\n'] (modules.map fun m => (member m).toList) ++
        ("\n  \x7d;\n\n".toList ++ rest))) := by
  have hopen : " = \x7b\n".toList = " = ".toList ++ ['\x7b', '\n'] := by decide
  have hcomma : ",\n".toList = [',', '\n'] := by decide
  unfold registry registryHeadText
  simp only [String.toList_append, List.append_assoc, hopen, hcomma, String.toList_intercalate,
    List.map_map, Function.comp_def, List.cons_append, List.nil_append, -String.reduceAppend]

theorem run_registryObject {modules : List Module}
    (hmembers : ∀ m ∈ modules, SpellsItem (n + 2) (member m).toList (MemberSays m))
    (hcount : modules.length ≤ n + 1)
    (hs : s.At ('\x7b' :: '\n' ::
      (List.intercalate [',', '\n'] (modules.map fun m => (member m).toList) ++
        ("\n  \x7d;\n\n".toList ++ rest)))) (hrest : Opens rest)
    (hc : s.context = .ordinary true) (hfresh : s.Fresh) :
    ∃ (span : Span) (ms : List Node) (s' : State),
      (level (n + 3)).primary s = .ok (.branch .object span ms) (s'.skip 1) ∧
      List.Forall₂ Node.Tells ms (modules.map MemberSays) ∧
      s'.Sees [.mark .braceClose, .mark .semicolon] ∧ s.Leads (s'.skip 2) rest := by
  have hbrace := hs.sees_braceOpen
  have hitems : List.Forall₂ (SpellsItem (n + 2)) (modules.map fun m => (member m).toList)
      (modules.map MemberSays) := by
    simpa [List.forall₂_same] using hmembers
  have hopens := opens_joined hitems ((Wordings.registryEnd wordings).opens hrest)
  obtain ⟨-, hstart⟩ := worded_braceOpen.passes hs (hopens.blank (by decide))
  have hfirst := hstart.at_rest.blank (by decide)
  cases modules with
  | nil =>
    obtain ⟨hclose, hend⟩ := (Wordings.registryEnd wordings).passes hfirst hrest
    have hread := run_object_nil (n := n + 2) (hbrace.append (hclose.front ⟨_, rfl⟩))
    exact ⟨_, _, s.skip 1, by simpa using hread, .nil, hclose, hstart.trans hend⟩
  | cons m more =>
    obtain ⟨ms, s', hlisted, htells, hinside⟩ := listed_joined (by simp) hitems hfirst
      ((Wordings.registryEnd wordings).opens hrest)
      (fun h => ((Wordings.registryEnd wordings).passes h hrest).1.front ⟨_, rfl⟩)
      (hstart.context_eq.trans hc) (hstart.fresh hfresh)
    obtain ⟨hclose, hend⟩ := (Wordings.registryEnd wordings).passes hinside.at_rest hrest
    have hlength : ms.length ≤ n + 1 := by simpa [htells.length_eq] using hcount
    have hread := run_object (n := n + 1) hbrace hlisted (hclose.front ⟨_, rfl⟩) hlength
    exact ⟨_, ms, s', hread, htells, hclose, hstart.trans (hinside.trans hend)⟩

theorem spells_registry {modules : List Module}
    (hmembers : ∀ m ∈ modules, SpellsItem (n + 2) (member m).toList (MemberSays m))
    (hcount : modules.length ≤ n + 1) :
    Spells (n + 8) true (registry modules).toList [RegistrySays modules] := by
  refine .single ?_ ?_
  · intro rest _
    rw [registry_append]
    exact (Wordings.registryHead wordings).opens (opens_braceOpen _)
  · intro s rest hs hrest hc hfresh
    rw [registry_append] at hs
    obtain ⟨hsees, hhead⟩ := (Wordings.registryHead wordings).passes hs (opens_braceOpen _)
    have htexts := (Wordings.registryHead wordings).sees_texts hs (opens_braceOpen _)
    rw [Wordings.registryHead_texts wordings] at htexts
    obtain ⟨span, ms, s', hread, htells, hclose, hend⟩ :=
      run_registryObject hmembers hcount hhead.at_rest hrest (hhead.context_eq.trans hc)
        (hhead.fresh hfresh)
    have hopen : (s.skip 3).token.kind = .mark .braceOpen := hhead.at_rest.sees_braceOpen.1.1
    have hvalue := run_assignment_primary (n := n + 1) (hopen ▸ .literal .braceOpen)
      (by simp [hopen]) hread (hclose.2.1.1 ▸ .semicolon) true
    have hstatement := run_var (n := n + 5) hsees .name hvalue hclose.2
    refine ⟨not_closing hsees.1.1 nofun nofun, _, _, hstatement, ⟨?_, ?_⟩,
      by simpa using hhead.trans hend⟩
    · simp [strayDefault?, strayDefaultIn?, strayDefaultIn?_of_tells htells]
    · refine ⟨ms.map Node.code, ?_, by simp [htexts.getElem? (i := 1) rfl]⟩
      exact (List.forall₂_map_left_iff (R := fun (p : Code → Prop) c => p c)).1
        (meet_of_tells htells)

end Registry

section Lengths

theorem length_le_intercalate (sep : List Char) {items : List (List Char)}
    (h : ∀ t ∈ items, t ≠ []) : items.length ≤ (List.intercalate sep items).length := by
  induction items with
  | nil => exact Nat.le_refl 0
  | cons text more ih =>
    have htext : 1 ≤ text.length := List.length_pos_iff.2 (h text List.mem_cons_self)
    have hmore := ih fun t ht => h t (List.mem_cons_of_mem text ht)
    cases more with
    | nil =>
      rw [List.intercalate_singleton]
      exact htext
    | cons next more =>
      rw [List.intercalate_cons_cons]
      simp only [List.length_append, List.length_cons] at hmore ⊢
      omega

theorem mem_length_le_intercalate (sep : List Char) {items : List (List Char)}
    (h : text ∈ items) : text.length ≤ (List.intercalate sep items).length := by
  induction items with
  | nil => cases h
  | cons first more ih =>
    cases more with
    | nil =>
      obtain rfl := List.mem_singleton.1 h
      exact Nat.le_of_eq (congrArg List.length List.intercalate_singleton.symm)
    | cons next more =>
      rw [List.intercalate_cons_cons, List.length_append, List.length_append]
      rcases List.mem_cons.1 h with rfl | hmore
      · omega
      · have hlength := ih hmore
        omega

theorem readsAsBody_loaderCalls (ids : List String) : ReadsAsBody (loaderCalls ids) := by
  have hcalls : ∀ t ∈ ids.map loaderCall, t ≠ [] := by
    intro t ht
    obtain ⟨id, -, rfl⟩ := List.mem_map.1 ht
    simp [loaderCall]
  have hlength := length_le_intercalate [' '] hcalls
  rw [List.length_map] at hlength
  refine readsAsBody_of_spells ((ids.map loaderCallCode).map Eq) (fun n hn => ?_)
    (by rwa [List.length_map, List.length_map])
  obtain ⟨n, rfl⟩ : ∃ m, n = m + 10 := Nat.exists_eq_add_of_le' (by omega)
  exact spells_loaderCalls ids

theorem length_body_lt (m : Module) : (body m).toList.length < (member m).toList.length := by
  have hlength := congrArg List.length (member_append m [])
  simp only [List.length_append, List.length_cons, List.length_nil] at hlength
  omega

theorem length_intercalate_le (modules : List Module) :
    (List.intercalate [',', '\n'] (modules.map fun m => (member m).toList)).length ≤
      (registry modules).toList.length := by
  have hlength := congrArg List.length (registry_append modules [])
  simp only [List.length_append, List.length_cons, List.length_nil] at hlength
  omega

theorem registry_bounds (modules : List Module) :
    modules.length ≤ (registry modules).toList.length ∧
      ∀ m ∈ modules, (body m).toList.length < (registry modules).toList.length := by
  have hwhole := length_intercalate_le modules
  constructor
  · have hmembers : ∀ t ∈ modules.map fun m => (member m).toList, t ≠ [] := by
      intro t ht
      obtain ⟨m, -, rfl⟩ := List.mem_map.1 ht
      exact List.length_pos_iff.1 (Nat.zero_lt_of_lt (length_body_lt m))
    have hcount := length_le_intercalate [',', '\n'] hmembers
    rw [List.length_map] at hcount
    exact Nat.le_trans hcount hwhole
  · intro m hm
    have hmember := mem_length_le_intercalate [',', '\n']
      (List.mem_map_of_mem (f := fun m => (member m).toList) hm)
    exact Nat.lt_of_lt_of_le (length_body_lt m) (Nat.le_trans hmember hwhole)

end Lengths

section Whole

def frame (modules : List Module) (id : String) : List Char :=
  '\n' :: ((registry modules).toList ++ (cache.toList ++ (loader.toList ++ (start id).toList)))

def frameCode (members : List Code) (id : String) : List Code :=
  [.var registryName (.object members), cacheCode, loaderCode, startCode id]

def scriptCode (members : List Code) (id : String) : Code :=
  .call (.arrow [] (frameCode members id)) []

/-- A script says what the frame of every script does, around the functions of its modules. -/
def ScriptSays (c : Chunk) (code : Code) : Prop :=
  ∃ members, List.Forall₂ MemberSays c.modules members ∧
    code = scriptCode members c.entryModule.id

theorem spells_start (id : String) :
    Spells (n + 18) true (start id).toList [Eq (startCode id)] := by
  have hcall : Spells (n + 11) true ("\n    ".toList ++ (loaderCall id ++ "\n  ".toList))
      [Eq (loaderCallCode id)] :=
    (Spells.blanks "\n    ".toList (by decide)).append
      ((spells_loaderCall id).append (.blanks _ (by decide)))
  have htext : (start id).toList = "  ".toList ++ (("(() => \x7b".toList ++
      (("\n    ".toList ++ (loaderCall id ++ "\n  ".toList)) ++ "\x7d)();".toList)) ++
        "\n".toList) := by
    have hopen : "  (() => \x7b\n    ".toList =
        "  ".toList ++ ("(() => \x7b".toList ++ "\n    ".toList) := by
      decide
    have hclose : ");\n  \x7d)();\n".toList =
        ");".toList ++ ("\n  ".toList ++ ("\x7d)();".toList ++ "\n".toList)) := by
      decide
    have hparen : "(".toList = ['('] := by decide
    unfold start loaderCall
    simp only [String.toList_append, List.append_assoc, hopen, hclose, hparen, List.cons_append,
      List.nil_append, -String.reduceAppend]
  rw [htext]
  refine (Spells.blanks "  ".toList (by decide)).append
    (((spells_immediate hcall (by simp)).mono ?_).append (.blanks _ (by decide)))
  rintro _ ⟨cs, hcs, rfl⟩
  obtain rfl : cs = [loaderCallCode id] := Code.meet_eq_iff.1 hcs
  rfl

theorem spells_frame {modules : List Module} (hbodies : ∀ m ∈ modules, ReadsAsBody (body m).toList)
    (hfuel : ∀ m ∈ modules, 8 * (body m).toList.length + 64 ≤ n + 12)
    (hcount : modules.length ≤ n + 12) (id : String) :
    Spells (n + 19) true (frame modules id)
      (RegistrySays modules :: [cacheCode, loaderCode, startCode id].map Eq) := by
  have hmembers : ∀ m ∈ modules, SpellsItem (n + 13) (member m).toList (MemberSays m) :=
    fun m hm => spellsItem_member (n := n + 10) (hbodies m hm) (hfuel m hm)
  have hregistry := spells_registry (n := n + 11) hmembers hcount
  have hwhole := hregistry.append <| (spells_cache (n := n + 12)).append <|
    (spells_loader (n := n)).append (spells_start (n := n + 1) id)
  exact hwhole.blank (by decide)

theorem spells_script {c : Chunk} (hbodies : ∀ m ∈ c.modules, ReadsAsBody (body m).toList)
    (hfuel : ∀ m ∈ c.modules, 8 * (body m).toList.length + 64 ≤ n + 12)
    (hcount : c.modules.length ≤ n + 12) : Spells (n + 26) false
      (("(() => \x7b".toList ++ (frame c.modules c.entryModule.id ++ "\x7d)();".toList)) ++
        "\n".toList) [c.ScriptSays] := by
  have hframe := spells_frame hbodies hfuel hcount c.entryModule.id
  refine ((spells_immediate hframe (by simp)).mono ?_).append (.blanks _ (by decide))
  rintro _ ⟨_, hcs, rfl⟩
  obtain ⟨_, cs, ⟨members, hmembers, rfl⟩, hmore, rfl⟩ := List.forall₂_cons_left_iff.1 hcs
  rw [Code.meet_eq_iff.1 hmore]
  exact ⟨members, hmembers, rfl⟩

theorem toList_code (c : Chunk) : c.code.toList =
    ("(() => \x7b".toList ++ (frame c.modules c.entryModule.id ++ "\x7d)();".toList)) ++
      "\n".toList := by
  have hopen : "(() => \x7b\n".toList = "(() => \x7b".toList ++ ['\n'] := by decide
  have hclose : "\x7d)();\n".toList = "\x7d)();".toList ++ "\n".toList := by decide
  unfold code frame
  simp only [String.toList_append, List.append_assoc, hopen, hclose, List.cons_append,
    List.nil_append, -String.reduceAppend]

/-- A chunk whose modules can each be the body of a function is a program. -/
theorem read_code {c : Chunk} (hbodies : ∀ m ∈ c.modules, ReadsAsBody (body m).toList) :
    ∃ program, Program.read .script c.code.toList = .ok program ∧
      Code.Meet [c.ScriptSays] program.code := by
  obtain ⟨hcount, hlength⟩ := registry_bounds c.modules
  have hparen : "(() => \x7b".toList = '(' :: "() => \x7b".toList := by decide
  have hcode := toList_code c
  have hspells := fun n => spells_script (n := n) hbodies
  rw [hparen, List.cons_append, List.cons_append] at hcode hspells
  generalize htail : "() => \x7b".toList ++
    (frame c.modules c.entryModule.id ++ "\x7d)();".toList) ++ "\n".toList = tail at hcode hspells
  -- the grammar is nested as deep as the text is long, which is enough for the modules in it
  have hbound : (registry c.modules).toList.length + 2 ≤ tail.length := by
    have hends : "\x7d)();".toList.length = 5 ∧ "\n".toList.length = 1 := by decide
    rw [← htail]
    simp only [frame, List.length_append, List.length_cons]
    omega
  have hwhole := c.not_hasHashbang_code
  rw [hcode] at hwhole ⊢
  have hfirst : Lexer.next false true ⟨'(' :: tail, 0⟩ =
      Lexer.sound (Lexer.token (.mark .parenOpen) true ⟨'(' :: tail, 0⟩ ⟨tail, 1⟩) := rfl
  refine Spells.read hwhole (skipGap_token (by decide) true tail 0) hfirst rfl nofun
    (hspells (8 * tail.length + 46) (fun m hm => ?_) ?_) ?_
  · have hm := hlength m hm
    omega
  · omega
  · simp

theorem read_script {c : Chunk} (hname : ∀ d ∈ c.name.toList, isLineBreak d = false)
    (hbodies : ∀ m ∈ c.modules, ReadsAsBody (body m).toList) :
    ∃ program code, Program.read .script c.script.toList = .ok program ∧
      program.code = [code] ∧ c.ScriptSays code := by
  obtain ⟨program, hread, hmeet⟩ := read_code hbodies
  obtain ⟨code, _, hsays, hnone, hcode⟩ := List.forall₂_cons_left_iff.1 hmeet
  obtain rfl := List.forall₂_nil_left_iff.1 hnone
  refine ⟨program.moved (byteLength (heading c.name).toList), code, ?_, ?_, hsays⟩
  · rw [read_script_eq hname, hread]
    rfl
  · rw [Program.code_moved, hcode]

end Whole

end ModuleBundler.Chunk
