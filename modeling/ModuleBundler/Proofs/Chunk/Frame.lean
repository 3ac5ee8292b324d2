import ModuleBundler.Chunk
import ModuleBundler.Proofs.Script.Passage

/-! The statements that stand in the script of every chunk, whatever its modules are, and what they
say: the cache, the loader, and the call that starts the entry. -/
namespace ModuleBundler.Chunk

open Script Script.Parser Script.State

variable {n : Nat} {r : Bool} {text : List Char} {rest : List Char} {s s' : State}
  {k : TokenKind} {ws : List Piece} {ps : List (Code → Prop)} {x y : String}

section Codes

def cachedModuleCode : Code := .var "cachedModule" (.element (.name cacheName) (.name "moduleId"))

def fromCacheCode : Code :=
  .if_ (.differs (.name "cachedModule") (.name "undefined"))
    [.return_ (.member (.name "cachedModule") "exports")]

def newModuleCode : Code :=
  .var "module" (.assign (.element (.name cacheName) (.name "moduleId"))
    (.object [.property "exports" (.object [])]))

def inputNames : List String := ["module", "exports", loaderName]

def inputCodes : List Code :=
  [.name "module", .member (.name "module") "exports", .name loaderName]

def callCode : Code := .call (.element (.name registryName) (.name "moduleId")) inputCodes

def exportsCode : Code := .return_ (.member (.name "module") "exports")

def loaderBodyCode : List Code :=
  [cachedModuleCode, fromCacheCode, newModuleCode, callCode, exportsCode]

def loaderCode : Code := .function loaderName ["moduleId"] loaderBodyCode

def cacheCode : Code := .var cacheName (.object [])

def loaderCallCode (id : String) : Code := .call (.name loaderName) [.text id]

def startCode (id : String) : Code := .call (.arrow [] [loaderCallCode id]) []

end Codes

section Texts

def cachedModuleText : String := "    var cachedModule = " ++ cacheName ++ "[moduleId];\n"

def fromCacheText : String :=
  "    if (cachedModule !== undefined) \x7b\n" ++
  "      return cachedModule.exports;\n" ++
  "    \x7d\n"

def newModuleText : String :=
  "    var module = (" ++ cacheName ++ "[moduleId] = \x7b\n" ++
  "      exports: \x7b\x7d\n" ++
  "    \x7d);\n"

def callText : String :=
  "    " ++ registryName ++ "[moduleId](module, module.exports, " ++ loaderName ++ ");\n"

def exportsText : String := "    return module.exports;\n"

def loaderHeadText : String := "  function " ++ loaderName ++ "(moduleId) "

def memberHeadText : String := "(module, exports, " ++ loaderName ++ ") => "

def registryHeadText : String := "  var " ++ registryName ++ " = "

/-- How the texts are read that are the same in every script, and where no line ends in them. -/
structure Wordings : Prop where
  cachedModule : Worded (words cachedModuleText) cachedModuleText.toList
    [.keyword .varWord, .name, .mark .assign, .name, .mark .bracketOpen, .name,
      .mark .bracketClose, .mark .semicolon]
  cachedModule_texts : texts (words cachedModuleText) =
    ["var", "cachedModule", "", cacheName, "", "moduleId", "", ""]
  fromCache : Worded (words fromCacheText) fromCacheText.toList
    [.keyword .ifWord, .mark .parenOpen, .name, .mark .strictNotEqual, .keyword .undefinedWord,
      .mark .parenClose, .mark .braceOpen, .keyword .returnWord, .name, .mark .dot, .name,
      .mark .semicolon, .mark .braceClose]
  fromCache_line : (breaks true (words fromCacheText)).getD 8 true = false
  fromCache_texts : texts (words fromCacheText) =
    ["if", "", "cachedModule", "", "undefined", "", "", "return", "cachedModule", "", "exports",
      "", ""]
  newModule : Worded (words newModuleText) newModuleText.toList
    [.keyword .varWord, .keyword .moduleWord, .mark .assign, .mark .parenOpen, .name,
      .mark .bracketOpen, .name, .mark .bracketClose, .mark .assign, .mark .braceOpen, .name,
      .mark .colon, .mark .braceOpen, .mark .braceClose, .mark .braceClose, .mark .parenClose,
      .mark .semicolon]
  newModule_texts : texts (words newModuleText) =
    ["var", "module", "", "", cacheName, "", "moduleId", "", "", "", "exports", "", "", "", "", "",
      ""]
  call : Worded (words callText) callText.toList
    [.name, .mark .bracketOpen, .name, .mark .bracketClose, .mark .parenOpen,
      .keyword .moduleWord, .mark .comma, .keyword .moduleWord, .mark .dot, .name, .mark .comma,
      .name, .mark .parenClose, .mark .semicolon]
  call_texts : texts (words callText) =
    [registryName, "", "moduleId", "", "", "module", "", "module", "", "exports", "", loaderName,
      "", ""]
  exports : Worded (words exportsText) exportsText.toList
    [.keyword .returnWord, .keyword .moduleWord, .mark .dot, .name, .mark .semicolon]
  exports_line : (breaks true (words exportsText)).getD 1 true = false
  exports_texts : texts (words exportsText) = ["return", "module", "", "exports", ""]
  loaderHead : Worded (words loaderHeadText) loaderHeadText.toList
    [.keyword .functionWord, .name, .mark .parenOpen, .name, .mark .parenClose]
  loaderHead_texts : texts (words loaderHeadText) = ["function", loaderName, "", "moduleId", ""]
  loaderName_fits : (Piece.name loaderName.toList).fits (some '(') = true
  loaderName_kind : nameKind loaderName.toList = .name
  cache : Worded (words cache) cache.toList
    [.keyword .varWord, .name, .mark .assign, .mark .braceOpen, .mark .braceClose, .mark .semicolon]
  cache_texts : texts (words Chunk.cache) = ["var", cacheName, "", "", "", ""]
  registryHead : Worded (words registryHeadText) registryHeadText.toList
    [.keyword .varWord, .name, .mark .assign]
  registryHead_texts : texts (words registryHeadText) = ["var", registryName, ""]
  registryEnd : Worded (words "\n  \x7d;\n\n") "\n  \x7d;\n\n".toList
    [.mark .braceClose, .mark .semicolon]
  memberHead : Worded (words memberHeadText) memberHeadText.toList
    [.mark .parenOpen, .keyword .moduleWord, .mark .comma, .name, .mark .comma, .name,
      .mark .parenClose, .mark .arrow]
  memberHead_line : (breaks true (words memberHeadText)).getD 7 true = false
  memberHead_texts : texts (words memberHeadText) =
    ["", "module", "", "exports", "", loaderName, "", ""]
  arrowHead : Worded (words "(() => ") "(() => ".toList
    [.mark .parenOpen, .mark .parenOpen, .mark .parenClose, .mark .arrow]
  arrowHead_line : (breaks true (words "(() => ")).getD 3 true = false
  arrowEnd : Worded (words ")();") ")();".toList
    [.mark .parenClose, .mark .parenOpen, .mark .parenClose, .mark .semicolon]

theorem wordings : Wordings where
  cachedModule := worded_words (by decide +kernel)
  cachedModule_texts := by decide +kernel
  fromCache := worded_words (by decide +kernel)
  fromCache_line := by decide +kernel
  fromCache_texts := by decide +kernel
  newModule := worded_words (by decide +kernel)
  newModule_texts := by decide +kernel
  call := worded_words (by decide +kernel)
  call_texts := by decide +kernel
  exports := worded_words (by decide +kernel)
  exports_line := by decide +kernel
  exports_texts := by decide +kernel
  loaderHead := worded_words (by decide +kernel)
  loaderHead_texts := by decide +kernel
  loaderName_fits := by decide +kernel
  loaderName_kind := by decide +kernel
  cache := worded_words (by decide +kernel)
  cache_texts := by decide +kernel
  registryHead := worded_words (by decide +kernel)
  registryHead_texts := by decide +kernel
  registryEnd := worded_words (by decide +kernel)
  memberHead := worded_words (by decide +kernel)
  memberHead_line := by decide +kernel
  memberHead_texts := by decide +kernel
  arrowHead := worded_words (by decide +kernel)
  arrowHead_line := by decide +kernel
  arrowEnd := worded_words (by decide +kernel)

end Texts

section Loader

theorem spells_cachedModule :
    Spells (n + 11) true cachedModuleText.toList [Eq cachedModuleCode] := by
  refine (Wordings.cachedModule wordings).spells nofun ?_
  intro s hc hsees htexts _ _
  rw [Wordings.cachedModule_texts wordings] at htexts
  have hcalm : (s.skip 3).context.Calm := by
    rw [context_skip, hc]
    exact Context.calm_ordinary true
  have hvalue : (s.skip 3).Sees [.name, .mark .bracketOpen, .name, .mark .bracketClose] :=
    hsees.behind 3 ⟨_, rfl⟩
  have hend : ((s.skip 3).skip 4).Sees [.mark .semicolon] := by
    rw [skip_skip]
    exact hsees.behind 7 ⟨_, rfl⟩
  have hending : Ending ((s.skip 3).skip 4).token.kind := hend.1.1 ▸ .semicolon
  have haccess := accessed_element (n := n) hcalm hvalue (.inl (.bounding (.ending hending)))
  have hassigned := haccess.run_assignment (hvalue.1.1 ▸ .naming .name) (by simp [hvalue.1.1])
    hending true
  have hread := run_var (n := n + 8) (hsees.front ⟨_, rfl⟩) .name hassigned hend
  simp only [skip_skip, Nat.reduceAdd] at hread
  exact ⟨_, hread, rfl, by simp [cachedModuleCode, htexts.getElem? (i := 1) rfl,
    htexts.getElem? (i := 3) rfl, htexts.getElem? (i := 5) rfl]⟩

theorem run_exports (h : s.Sees [k, .mark .dot, .name]) (hk : Naming k)
    (he : Ending (s.skip 3).token.kind) (b : Bool) : (level (n + 7)).assignment b s =
      .ok (.branch .member ⟨s.token.span.start, (s.skip 3).lastStop⟩
        [.leaf .identifier s.token.span (wordText s.token),
          .leaf .word (s.skip 2).token.span (wordText (s.skip 2).token)]) (s.skip 3) := by
  have hnaming : Naming s.token.kind := h.1.1 ▸ hk
  refine (accessed_member (n := n) h hk (.bounding (.ending he))).run_assignment (.naming hnaming)
    (fun hparen => ?_) he b
  rw [hparen] at hnaming
  cases hnaming

theorem run_returnExports (hc : s.context = .ordinary true)
    (h : s.Sees [.keyword .returnWord, k, .mark .dot, .name, .mark .semicolon]) (hk : Naming k)
    (hline : (s.skip 1).token.afterBreak = false) (b : Bool) : (level (n + 8)).statement b s =
      .ok (.branch .return_ ⟨s.token.span.start, (s.skip 5).lastStop⟩
        [.branch .member ⟨(s.skip 1).token.span.start, (s.skip 4).lastStop⟩
          [.leaf .identifier (s.skip 1).token.span (wordText (s.skip 1).token),
            .leaf .word (s.skip 3).token.span (wordText (s.skip 3).token)]]) (s.skip 5) := by
  have hvalue : (s.skip 1).Sees [k, .mark .dot, .name] := h.2.front ⟨_, rfl⟩
  have hend : ((s.skip 1).skip 3).Sees [.mark .semicolon] := by
    rw [skip_skip]
    exact h.behind 4 ⟨_, rfl⟩
  have hread := run_exports (n := n) hvalue hk (hend.1.1 ▸ .semicolon) true
  have hreturn := run_return (n := n + 5) hc (h.front ⟨_, rfl⟩)
    (hvalue.1.1 ▸ .naming hk) hline hread (by simp) hend b
  simpa only [skip_skip, Nat.reduceAdd] using hreturn

theorem run_defined (h : s.Sees [.name, .mark .strictNotEqual, .keyword .undefinedWord])
    (he : Ending (s.skip 3).token.kind) : (level (n + 7)).assignment true s =
      .ok (.branch (.binary (.mark .strictNotEqual)) ⟨s.token.span.start, (s.skip 3).lastStop⟩
        [.leaf .identifier s.token.span (wordText s.token),
          .leaf .identifier (s.skip 2).token.span (wordText (s.skip 2).token)]) (s.skip 3) := by
  obtain ⟨⟨hname, hplain⟩, hoperator, hundefined⟩ := h
  have hstop : Stopping (s.skip 1).token.kind := hoperator.1 ▸ .strictNotEqual
  have hleft := run_unary (.naming (hname ▸ .name))
    (run_leftHand_naming (n := n + 1) (s := s) (hname ▸ .name) hstop) hstop
  have hnaming : Naming ((s.skip 1).skip 1).token.kind := hundefined.1.1 ▸ .undefined
  have hbehind : ((s.skip 1).skip 1).skip 1 = s.skip 3 := by
    rw [skip_skip, skip_skip]
  have hright := run_leftHand_naming (n := n) hnaming (hbehind ▸ .bounding (.ending he))
  have hvalue := run_binary (n := n + 2) (.naming hnaming) hright (hbehind ▸ .ending he) 7
  have hbinary := run_binaryOf (n := n + 4) (s := s) (hname ▸ .starting (.naming .name)) hleft 0
  rw [run_binaryRest_notEqual ⟨hoperator, trivial⟩ hvalue (hbehind ▸ .ending he)] at hbinary
  have hwhole := run_assignment_binary (n := n + 6) (s := s) (hname ▸ .starting (.naming .name))
    (by simp [hname]) hbinary (hbehind ▸ he) true
  simpa only [skip_skip, Nat.reduceAdd] using hwhole

theorem spells_fromCache : Spells (n + 10) true fromCacheText.toList [Eq fromCacheCode] := by
  refine (Wordings.fromCache wordings).spells nofun ?_
  intro s hc hsees htexts helse hlines
  rw [Wordings.fromCache_texts wordings] at htexts
  have hcalm : s.context.Calm := hc ▸ Context.calm_ordinary true
  have hclose : ((s.skip 2).skip 3).Sees [.mark .parenClose] := by
    rw [skip_skip]
    exact hsees.behind 5 ⟨_, rfl⟩
  have htest := run_defined (n := n + 2) (hsees.behind 2 ⟨_, rfl⟩) (hclose.1.1 ▸ .parenClose)
  have hreturn := run_returnExports (n := n) (s := s.skip 7) (by rw [context_skip, hc])
    (hsees.behind 7 ⟨_, rfl⟩) .name
    (by simpa using hlines 8 (Wordings.fromCache_line wordings)) false
  have hreturnKind := (hsees.behind 7 ⟨_, rfl⟩ : (s.skip 7).Sees [.keyword .returnWord]).1.1
  have hend : ((s.skip 7).skip 5).Sees [.mark .braceClose] := by
    rw [skip_skip]
    exact hsees.behind 12 ⟨_, rfl⟩
  have hstatements := Statements.step (not_closing hreturnKind nofun nofun) hreturn .done
  rw [show s.skip 7 = (s.skip 6).skip 1 from (skip_skip s 6 1).symm] at hstatements hend
  have hblock := run_block (n := n + 7) (s := s.skip 6) (hsees.behind 6 ⟨_, rfl⟩) hstatements
    hend (by simp) true
  have hread := run_if (n := n + 7) hcalm (hsees.front ⟨_, rfl⟩) htest (by simp) hclose
    (by simpa using hblock) (by simpa using helse) false
  simp only [skip_skip, Nat.reduceAdd] at hread
  exact ⟨_, hread, rfl, by simp [fromCacheCode, htexts.getElem? (i := 2) rfl,
    htexts.getElem? (i := 4) rfl, htexts.getElem? (i := 8) rfl, htexts.getElem? (i := 10) rfl]⟩

theorem run_cached (hc : s.context.Calm)
    (h : s.Sees [.name, .mark .bracketOpen, .name, .mark .bracketClose, .mark .assign,
      .mark .braceOpen, .name, .mark .colon, .mark .braceOpen, .mark .braceClose,
      .mark .braceClose])
    (htexts : s.Texts [cacheName, "", "moduleId", "", "", "", "exports", "", "", "", ""])
    (he : Ending (s.skip 11).token.kind) :
    ∃ m, (level (n + 12)).assignment true s = .ok m (s.skip 11) ∧
      m.Tells (Eq (.assign (.element (.name cacheName) (.name "moduleId"))
        (.object [.property "exports" (.object [])]))) := by
  have hassign : (s.skip 4).Sees [.mark .assign] := h.behind 4 ⟨_, rfl⟩
  have hstop : Stopping (s.skip 4).token.kind := hassign.1.1 ▸ .bounding .assign
  have hbrace : (s.skip 5).Sees [.mark .braceOpen] := h.behind 5 ⟨_, rfl⟩
  have hkey : (s.skip 6).Sees [.name, .mark .colon] := h.behind 6 ⟨_, rfl⟩
  have hempty : (s.skip 8).Sees [.mark .braceOpen, .mark .braceClose] := h.behind 8 ⟨_, rfl⟩
  have hclose : (s.skip 10).Sees [.mark .braceClose] := h.behind 10 ⟨_, rfl⟩
  -- from the inside to the outside: the empty object, the record, and what it is assigned to
  have hobject : (level (n + 2)).primary ((s.skip 6).skip 2) =
      .ok (.branch .object ⟨(s.skip 8).token.span.start, (s.skip 10).lastStop⟩ []) (s.skip 10) := by
    simpa using run_object_nil (n := n + 1) hempty
  have hexports := run_assignment_primary (by simpa [hempty.1.1] using .literal .braceOpen)
    (by simp [hempty.1.1]) hobject (hclose.1.1 ▸ .braceClose) true
  have hleaf : keyLeaf? (s.skip 6).token =
      some (.leaf .word (s.skip 6).token.span (wordText (s.skip 6).token)) := by
    simp [keyLeaf?, hkey.1.1]
  have hitem := run_objectItem (n := n + 4) _ hleaf (run_propertyKey (n := n + 6) hleaf hkey.1.2)
    hkey.2.1.1 (run_advance hkey.2.1.2) (by simpa using hc) (by simpa using hexports) (by simp)
  rw [show s.skip 6 = (s.skip 5).skip 1 from (skip_skip s 5 1).symm] at hitem
  have hitems := Listed.last (d := .script) (n := n + 6) (by simp [hkey.1.1]) hitem hclose.1.1
  have hrecord := run_assignment_primary (n := n + 5) (hbrace.1.1 ▸ .literal .braceOpen)
    (by simp [hbrace.1.1]) (run_object hbrace hitems hclose (by simp)) (by simpa using he) true
  have hleft := (accessed_element (n := n + 2) hc (h.front ⟨_, rfl⟩) (.inl hstop)).run_leftHand
    hstop
  have hbinary := run_binary (n := n + 8) (.naming (h.1.1 ▸ .name)) hleft (hassign.1.1 ▸ .assign) 0
  rw [show s.skip 5 = (s.skip 4).skip 1 from (skip_skip s 4 1).symm] at hrecord
  have hwhole := run_assignment_assign (n := n + 11) (.inr rfl) (.naming (h.1.1 ▸ .name))
    (by simp [h.1.1]) hbinary hassign.1.1 (run_advance hassign.1.2) hrecord
  simp only [skip_skip, Nat.reduceAdd] at hwhole
  exact ⟨_, hwhole, rfl, by simp [htexts.1, htexts.getElem? (i := 2) rfl,
    htexts.getElem? (i := 6) rfl]⟩

theorem spells_newModule : Spells (n + 18) true newModuleText.toList [Eq newModuleCode] := by
  refine (Wordings.newModule wordings).spells nofun ?_
  intro s hc hsees htexts _ _
  rw [Wordings.newModule_texts wordings] at htexts
  have hcalm : s.context.Calm := hc ▸ Context.calm_ordinary true
  have hopen : (s.skip 3).Sees [.mark .parenOpen, .name, .mark .bracketOpen] :=
    hsees.behind 3 ⟨_, rfl⟩
  have hclose : (s.skip 15).Sees [.mark .parenClose, .mark .semicolon] := hsees.behind 15 ⟨_, rfl⟩
  obtain ⟨m, hinside, htells⟩ := run_cached (n := n) (s := (s.skip 3).skip 1) (by simpa using hcalm)
    (by simpa using hsees.behind 4 ⟨_, rfl⟩) (by simpa using htexts.behind 4 ⟨_, rfl⟩)
    (by simpa [hclose.1.1] using .parenClose)
  simp only [skip_skip, Nat.reduceAdd] at hinside
  have hlisted := Listed.last (d := .script) (n := n + 12) (s := (s.skip 3).skip 1)
    (hopen.2.1.1.trans_ne nofun) hinside hclose.1.1
  have hm := run_parenthesized (n := n + 10) (by simpa using hcalm) (hopen.front ⟨_, rfl⟩) hlisted
    (by simp) (hclose.front ⟨_, rfl⟩)
  have hvalue := (accessed_primary hm (.inl (hclose.2.1.1 ▸ .bounding (.ending .semicolon))))
    |>.run_assignment (hopen.1.1 ▸ .parenOpen) (fun _ => run_guessArrow_no hopen)
      (hclose.2.1.1 ▸ .semicolon) true
  have hread := run_var (n := n + 15) (hsees.front ⟨_, rfl⟩) .module hvalue hclose.2
  simp only [skip_skip, Nat.reduceAdd] at hread
  exact ⟨_, hread, by simp [strayDefault?, strayDefaultIn?, htells.strayDefault?_eq],
    by simp [newModuleCode, ← htells.holds, htexts.getElem? (i := 1) rfl]⟩

theorem run_moduleArguments (hc : s.context.Calm)
    (h : s.Sees [.mark .parenOpen, .keyword .moduleWord, .mark .comma, .keyword .moduleWord,
      .mark .dot, .name, .mark .comma, .name, .mark .parenClose])
    (htexts : s.Texts ["", "module", "", "module", "", "exports", "", loaderName, ""]) :
    ∃ ms, enclosed (level (n + 7)) .parenOpen .parenClose (argument (level (n + 7))) s =
        .ok ms (s.skip 9) ∧ List.Forall₂ Node.Tells ms (inputCodes.map Eq) := by
  have hfirst : (s.skip 1).Sees [.keyword .moduleWord, .mark .comma] := h.behind 1 ⟨_, rfl⟩
  have hsecond : (s.skip 3).Sees [.keyword .moduleWord, .mark .dot, .name] := h.behind 3 ⟨_, rfl⟩
  have hcomma : ((s.skip 3).skip 3).Sees [.mark .comma] := by
    rw [skip_skip]
    exact h.behind 6 ⟨_, rfl⟩
  have hthird : (s.skip 7).Sees [.name, .mark .parenClose] := h.behind 7 ⟨_, rfl⟩
  have hmodule := run_argument (s := s.skip 1) (by simpa using hc)
    (run_assignment_naming (n := n + 1) (hfirst.1.1 ▸ .module) (hfirst.2.1.1 ▸ .comma) true)
    (by simp) (by simp [hfirst.1.1])
  have hproperty := run_argument (s := s.skip 3) (by simpa using hc)
    (run_exports (n := n) hsecond .module (hcomma.1.1 ▸ .comma) true) (by simp)
    (by simp [hsecond.1.1])
  have hloader := run_argument (s := s.skip 7) (by simpa using hc)
    (run_assignment_naming (n := n + 1) (hthird.1.1 ▸ .name) (hthird.2.1.1 ▸ .parenClose) true)
    (by simp) (by simp [hthird.1.1])
  have hlast := Listed.last (d := .script) (n := n + 7) (by simp [hthird.1.1]) hloader
    hthird.2.1.1
  have hmore := Listed.next (by simp [hsecond.1.1]) hproperty hcomma.1.1
    (run_advance hcomma.1.2) (by simpa using hlast)
  have hlisted := Listed.next (by simp [hfirst.1.1]) hmodule hfirst.2.1.1
    (run_advance hfirst.2.1.2) (by simpa using hmore)
  have hread := hlisted.run_enclosed (n := n + 6) h (h.behind 8 ⟨_, rfl⟩) nofun
    (by simp)
  simp only [skip_skip, Nat.reduceAdd] at hread
  exact ⟨_, hread, .cons ⟨rfl, by simp [htexts.getElem? (i := 1) rfl]⟩ <|
    .cons ⟨rfl, by simp [htexts.getElem? (i := 3) rfl, htexts.getElem? (i := 5) rfl]⟩ <|
      .cons ⟨rfl, by simp [htexts.getElem? (i := 7) rfl]⟩ .nil⟩

theorem spells_call : Spells (n + 12) true callText.toList [Eq callCode] := by
  refine (Wordings.call wordings).spells nofun ?_
  intro s hc hsees htexts _ _
  rw [Wordings.call_texts wordings] at htexts
  have hcalm : s.context.Calm := hc ▸ Context.calm_ordinary true
  have hopen := (hsees.behind 4 ⟨_, rfl⟩ : (s.skip 4).Sees [.mark .parenOpen]).1.1
  have hend : ((s.skip 4).skip 9).Sees [.mark .semicolon] := by
    rw [skip_skip]
    exact hsees.behind 13 ⟨_, rfl⟩
  have haccess := accessed_element (n := n + 1) hcalm (hsees.front ⟨_, rfl⟩) (.inr hopen)
  obtain ⟨ms, hargs, htells⟩ := run_moduleArguments (n := n) (s := s.skip 4) (by simpa using hcalm)
    (hsees.behind 4 ⟨_, rfl⟩) (htexts.behind 4 ⟨_, rfl⟩)
  have hcall := haccess.run_call hopen hargs (hend.1.1 ▸ .bounding (.ending .semicolon))
  have hname := hsees.1.1
  have hwhole := run_assignment (n := n + 7) (hname ▸ .naming .name) (by simp [hname]) hcall
    (hend.1.1 ▸ .semicolon) true
  have hread := run_expressionStatement (n := n + 9) rfl hcalm (hname ▸ .name) hwhole (by simp)
    rfl (hend.1.1.trans_ne nofun) (run_endStatement hend) false
  simp only [skip_skip, Nat.reduceAdd] at hread
  exact ⟨_, hread, by simp [strayDefault?, strayDefaultIn?, strayDefaultIn?_of_tells htells],
    by simp [callCode, Code.meet_eq_iff.1 (meet_of_tells htells), htexts.1,
      htexts.getElem? (i := 2) rfl]⟩

theorem spells_exports : Spells (n + 8) true exportsText.toList [Eq exportsCode] := by
  refine (Wordings.exports wordings).spells nofun ?_
  intro s hc hsees htexts _ hlines
  rw [Wordings.exports_texts wordings] at htexts
  have hread := run_returnExports (n := n) hc hsees .module
    (hlines 1 (Wordings.exports_line wordings)) false
  exact ⟨_, hread, rfl, by simp [exportsCode, htexts.getElem? (i := 1) rfl,
    htexts.getElem? (i := 3) rfl]⟩

def loaderBody : List Char :=
  '\n' :: (cachedModuleText.toList ++ (fromCacheText.toList ++ (newModuleText.toList ++
    (callText.toList ++ (exportsText.toList ++ "  ".toList)))))

theorem spells_loaderBody : Spells (n + 18) true loaderBody (loaderBodyCode.map Eq) := by
  have hstatements := (spells_cachedModule (n := n + 7)).append <|
    (spells_fromCache (n := n + 8)).append <| spells_newModule.append <|
      (spells_call (n := n + 6)).append <| (spells_exports (n := n + 10)).append <|
        .blanks "  ".toList (by decide)
  exact hstatements.blank (by decide)

theorem spells_function {head body : List Char} (hws : Worded ws head
      [.keyword .functionWord, .name, .mark .parenOpen, .name, .mark .parenClose])
    (htexts : texts ws = ["function", x, "", y, ""])
    (hbody : Spells (n + 4) true body ps) (hcount : ps.length < n + 3) :
    Spells (n + 5) r (head ++ ('\x7b' :: (body ++ ['\x7d'])))
      [fun c => ∃ cs, Code.Meet ps cs ∧ c = .function x [y] cs] := by
  refine .single ?_ ?_
  · intro rest _
    rw [List.append_assoc]
    exact hws.opens (opens_braceOpen _)
  · intro s rest hs hrest hc hfresh
    rw [List.append_assoc] at hs
    obtain ⟨hsees, hhead⟩ := hws.passes hs (opens_braceOpen _)
    have hsaid := hws.sees_texts hs (opens_braceOpen _)
    rw [htexts] at hsaid
    have hcalm : (s.skip 2).context.Calm := by
      rw [context_skip, hc]
      exact Context.calm_ordinary r
    have hparameters : Parameters ((s.skip 2).skip 2) [] ((s.skip 2).skip 2) := by
      rw [skip_skip]
      exact .done (hsees.behind 4 ⟨_, rfl⟩)
    have hlist := hparameters.run_parameters (n := n + 2) hcalm (hsees.behind 2 ⟨_, rfl⟩) .name
      (by simp) (by simp)
    have hcontext : (s.skip 5).context = .ordinary r := hhead.context_eq.trans hc
    have hinside : (s.skip 5).At ('\x7b' :: (body ++ '\x7d' :: rest)) := by
      simpa using hhead.at_rest
    obtain ⟨span, ms, s', hread, htells, hend⟩ := hbody.run_functionBody hcount hinside hrest
      hcontext (hhead.fresh hfresh)
    have hwhole := hhead.trans hend
    simp only [skip_skip, Nat.reduceAdd] at hlist
    have hfunction := run_function hc (hsees.front ⟨_, rfl⟩) .name hlist hread hwhole.context_eq
      false
    refine ⟨not_closing hsees.1.1 nofun nofun, _, s', hfunction, ⟨?_, ?_⟩, hwhole⟩
    · simp [strayDefault?, strayDefaultIn?, strayDefaultIn?_of_tells htells]
    · refine ⟨_, meet_of_tells htells, ?_⟩
      rw [hsaid.getElem? (i := 1) rfl, hsaid.getElem? (i := 3) rfl]
      exact (Node.Parted.parameter .body).code_function _ _ _

theorem spells_loader : Spells (n + 19) true loader.toList [Eq loaderCode] := by
  have htext : loader.toList =
      (loaderHeadText.toList ++ ('\x7b' :: (loaderBody ++ ['\x7d']))) ++ "\n\n".toList := by
    have hopen : "(moduleId) \x7b\n".toList = "(moduleId) ".toList ++ ['\x7b', '\n'] := by
      decide
    have hclose : "  \x7d\n\n".toList = "  ".toList ++ ('\x7d' :: "\n\n".toList) := by
      decide
    unfold loader loaderHeadText loaderBody cachedModuleText fromCacheText newModuleText callText
      exportsText
    simp only [String.toList_append, List.append_assoc, hopen, hclose, List.cons_append,
      List.nil_append, -String.reduceAppend]
  rw [htext]
  have hfunction := spells_function (Wordings.loaderHead wordings)
    (Wordings.loaderHead_texts wordings) (r := true) (spells_loaderBody (n := n))
    (by simp [loaderBodyCode])
  refine (hfunction.mono ?_).append (.blanks _ (by decide))
  rintro _ ⟨cs, hcs, rfl⟩
  rw [Code.meet_eq_iff.1 hcs]
  rfl

end Loader

section Frame

theorem spells_cache : Spells (n + 7) true cache.toList [Eq cacheCode] := by
  refine (Wordings.cache wordings).spells nofun ?_
  intro s _ hsees htexts _ _
  rw [Wordings.cache_texts wordings] at htexts
  have hobject : (s.skip 3).Sees [.mark .braceOpen, .mark .braceClose] := hsees.behind 3 ⟨_, rfl⟩
  have hend : ((s.skip 3).skip 2).Sees [.mark .semicolon] := by
    rw [skip_skip]
    exact hsees.behind 5 ⟨_, rfl⟩
  have hvalue := run_assignment_primary (hobject.1.1 ▸ .literal .braceOpen)
    (by simp [hobject.1.1]) (run_object_nil (n := n + 1) hobject) (hend.1.1 ▸ .semicolon) true
  have hread := run_var (n := n + 4) (hsees.front ⟨_, rfl⟩) .name hvalue hend
  simp only [skip_skip, Nat.reduceAdd] at hread
  exact ⟨_, hread, rfl, by simp [cacheCode, htexts.getElem? (i := 1) rfl]⟩

def loaderCall (id : String) : List Char :=
  loaderName.toList ++ ('(' :: ((Text.quote id).toList ++ ");".toList))

theorem worded_loaderCall (id : String) : Worded
    [.name loaderName.toList, .mark .parenOpen, .quoted id, .mark .parenClose, .mark .semicolon]
    (loaderCall id)
    [.name, .mark .parenOpen, .string id.toList false, .mark .parenClose, .mark .semicolon] := by
  refine ⟨by simp [spelled, Piece.text, markText, loaderCall], ?_, ?_⟩
  · show ((Piece.name loaderName.toList).fits (some '(') && true) = true
    rw [Wordings.loaderName_fits wordings]
    rfl
  · show nameKind loaderName.toList :: _ = _
    rw [Wordings.loaderName_kind wordings]
    rfl

theorem spells_loaderCall (id : String) :
    Spells (n + 11) true (loaderCall id) [Eq (loaderCallCode id)] := by
  refine (worded_loaderCall id).spells nofun ?_
  intro s hc hsees htexts _ _
  have hcalm : s.context.Calm := hc ▸ Context.calm_ordinary true
  obtain ⟨span, span', span'', hread⟩ := run_nameCall (n := n) hcalm hsees
  have hname : wordText s.token = String.ofList loaderName.toList := htexts.1
  exact ⟨_, hread, rfl, by simp [loaderCallCode, hname]⟩

def loaderCalls (ids : List String) : List Char := List.intercalate [' '] (ids.map loaderCall)

theorem spells_loaderCalls (ids : List String) :
    Spells (n + 11) true (loaderCalls ids) ((ids.map loaderCallCode).map Eq) := by
  unfold loaderCalls
  induction ids with
  | nil => exact .nil
  | cons id more ih =>
    cases more with
    | nil =>
      rw [List.map_singleton, List.intercalate_singleton]
      exact spells_loaderCall id
    | cons next more =>
      have hmore := ih.blank (d := ' ') (by decide)
      have hboth := (spells_loaderCall id).append hmore
      rw [List.map_cons, List.map_cons, List.intercalate_cons_cons, List.append_assoc]
      exact hboth

theorem spells_immediate (h : Spells (n + 2) true text ps) (hcount : ps.length < n + 1) :
    Spells (n + 9) r ("(() => \x7b".toList ++ (text ++ "\x7d)();".toList))
      [fun c => ∃ cs, Code.Meet ps cs ∧ c = .call (.arrow [] cs) []] := by
  have htext : ∀ rest, "(() => \x7b".toList ++ (text ++ "\x7d)();".toList) ++ rest =
      "(() => ".toList ++ ('\x7b' :: (text ++ '\x7d' :: (")();".toList ++ rest))) := by simp
  refine .single ?_ ?_
  · intro rest _
    rw [htext]
    exact (Wordings.arrowHead wordings).opens (opens_braceOpen _)
  · intro s rest hs hrest hc hfresh
    rw [htext] at hs
    have hcalm : s.context.Calm := hc ▸ Context.calm_ordinary r
    obtain ⟨hsees, hstart⟩ := (Wordings.arrowHead wordings).passes hs (opens_braceOpen _)
    have hline := (Wordings.arrowHead wordings).sameLine hs (opens_braceOpen _)
      (Wordings.arrowHead_line wordings)
    obtain ⟨span, ms, s₁, hbody, htells, hinside⟩ := h.run_functionBody hcount hstart.at_rest
      ((Wordings.arrowEnd wordings).opens hrest) (hstart.context_eq.trans hc) (hstart.fresh hfresh)
    obtain ⟨hlast, hend⟩ := (Wordings.arrowEnd wordings).passes hinside.at_rest hrest
    have hbrace := hstart.at_rest.sees_braceOpen
    have hseen := hsees.append hbrace
    have hwhole := hstart.trans (hinside.trans hend)
    have hcontext := (hstart.trans hinside).context_eq
    have harrow := run_arrow_nil (n := n) (s := s.skip 1) (by simpa using hc)
      (hseen.behind 1 ⟨_, rfl⟩) (by simpa using hline) (by simpa using hbody)
      (by simpa using hcontext) true
    -- the arrow function is all that the parentheses hold, and the call stands behind them
    have hm := run_parenthesized (n := n + 1) hcalm (hsees.front ⟨_, rfl⟩)
      (.last (by simp [hsees.2.1.1]) harrow hlast.1.1) hcontext (hlast.front ⟨_, rfl⟩)
    have hcallee := accessed_primary (n := n + 2) hm (.inr hlast.2.1.1)
    have hsemicolon : ((s₁.skip 1).skip 2).Sees [.mark .semicolon] := by
      rw [skip_skip]
      exact hlast.behind 3 ⟨_, rfl⟩
    have hcall := hcallee.run_call (n := n + 1) hlast.2.1.1 (run_enclosed_nil hlast.2)
      (hsemicolon.1.1 ▸ .bounding (.ending .semicolon))
    have hexpression := run_assignment (n := n + 4) (hsees.1.1 ▸ .parenOpen)
      (fun _ => run_guessArrow_twice (hsees.front ⟨_, rfl⟩)) hcall
      (hsemicolon.1.1 ▸ .semicolon) true
    have hread := run_expressionStatement (n := n + 6) rfl hcalm (hsees.1.1 ▸ .parenOpen)
      hexpression (by simpa using hcontext) rfl (hsemicolon.1.1.trans_ne nofun)
      (run_endStatement hsemicolon) false
    refine ⟨not_closing hsees.1.1 nofun nofun, _, _, by simpa using hread, ⟨?_, ?_⟩, hwhole⟩
    · simp [strayDefault?, strayDefaultIn?, strayDefaultIn?_of_tells htells]
    · exact ⟨_, meet_of_tells htells, by simp [Node.Parted.code_arrow .body]⟩

end Frame

end ModuleBundler.Chunk
