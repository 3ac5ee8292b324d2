import Mathlib.Data.List.Perm.Basic
import ModuleBundler.Proofs.Build.Draft
import ModuleBundler.Proofs.Script.NameCalls

/-! Reading a rewritten text back. A reader that sees a text through its tokens meets the loader and
the names of modules where the calls and what they named were, and nothing else has changed for
it. -/
namespace ModuleBundler.Script

def Program.found (callee : String) (p : Program) : Scan :=
  ⟨p.tree.dependencies callee, p.hashbang⟩

/-- What some reader finds in a text. -/
def scanBy (read : Dialect → List Char → Except Fault Program) (callee : String)
    (dialect : Dialect) (text : String) : Except Fault Scan :=
  (read dialect text.toList).map (Program.found callee)

theorem scan_eq_scanBy : scan = scanBy Program.read := by
  funext callee dialect text
  rw [scan, scanBy]
  cases Program.read dialect text.toList <;> rfl

theorem scanBy_eq_ok {read : Dialect → List Char → Except Fault Program} {callee : String}
    {dialect : Dialect} {text : String} {found : Scan} :
    scanBy read callee dialect text = .ok found ↔
      ∃ program, read dialect text.toList = .ok program ∧ program.found callee = found := by
  unfold scanBy
  cases read dialect text.toList with
  | error e => exact ⟨nofun, nofun⟩
  | ok program =>
    constructor
    · exact fun h => ⟨program, rfl, Except.ok.inj h⟩
    · rintro ⟨_, hread, rfl⟩
      rw [Except.ok.inj hread]
      rfl

namespace Scan

def tokens (found : Scan) : List Span :=
  (Sources.startPlan found).edits.map Edit.span ++
    found.calls.flatMap fun call => [call.callee, call.argument]

def words (callee : String) (found : Scan) : List Word :=
  found.calls.flatMap fun call =>
    [⟨.identifier, call.callee, callee⟩, ⟨.string, call.argument, call.specifier⟩]

def redirected (found : Scan) (ids : List String) : EditPlan :=
  (found.calls.zip ids).foldl (fun plan step => plan.redirect step.1 step.2)
    (Sources.startPlan found)

def loaded (callee : String) (found : Scan) (ids : List String) : List (Word × Respelled) :=
  (found.calls.zip ids).flatMap fun step =>
    [(⟨.identifier, step.1.callee, callee⟩, ⟨loaderName, loaderName⟩),
      (⟨.string, step.1.argument, step.1.specifier⟩, ⟨Text.quote step.2, step.2⟩)]

end Scan

/-- A reader sees a text through its tokens. What it accepts is a row of tokens, which a hashbang
may stand before, and each word of the calls of a name is a token of its own. A text of the same
tokens is read as the same tree, wherever its parts now stand; but at the words of the calls there
may be other names, which are no keywords, and other strings, and the tree then has these. -/
structure SeenByTokens (read : Dialect → List Char → Except Fault Program) (callee : String)
    (dialect : Dialect) (text : List Char) : Prop where
  seen : ∀ program, read dialect text = .ok program →
    ∃ row, Reads dialect.isModule text program.hashbang row ∧
      (((program.found callee).words callee).map Word.span).Nodup ∧
      (∀ w ∈ (program.found callee).words callee, ∃ t, (.plain, t) ∈ row ∧ t.span = w.span ∧
        t.Says w.kind w.text) ∧
      ∀ (new : Word → String) text' sign row',
        (∀ w, w ∉ (program.found callee).words callee → new w = w.text) →
        Reads dialect.isModule text' sign row' →
        List.Forall₂ (Interchanged ((program.found callee).words callee) new) row row' →
        ∃ program', read dialect text' = .ok program' ∧ program'.hashbang = sign ∧
          program'.tree.unplaced = (program.tree.respell new).unplaced

/-- The reader of programs sees a text of calls through its tokens. -/
theorem seenByTokens_calls {callee : String} {text : List Char} {program : Program}
    {row : List (Manner × Token)} {calls : List (Word × Word)}
    (hread : Program.read .script text = .ok program)
    (hrow : Reads false text program.hashbang row) (hcalls : NameCalls row calls)
    (hwords : (program.found callee).words callee = callWords calls) (hcount : calls.length < 63)
    (htree : ∀ new, (program.tree.respell new).unplaced =
      nameCalls (calls.map fun c => (new c.1, new c.2))) :
    SeenByTokens Program.read callee .script text := by
  refine ⟨fun program' hread' => ?_⟩
  obtain rfl := Except.ok.inj (hread.symm.trans hread')
  rw [hwords]
  refine ⟨row, hrow, hrow.nodup.sublist hcalls.spans, hcalls.words_mem, ?_⟩
  intro new text' sign row' hnew hrow' hforall
  have hsaid (e : Manner × Token) (he : e ∈ row) (w : Word) (hw : w ∈ callWords calls)
      (hspan : w.span = e.2.span) : e.2.Says w.kind w.text := by
    obtain ⟨t, ht, hspan', hsaid⟩ := hcalls.words_mem w hw
    obtain rfl := List.inj_on_of_nodup_map hrow.nodup he ht (hspan.symm.trans hspan'.symm)
    exact hsaid
  obtain ⟨calls', hcalls', htexts⟩ := hcalls.exchanged hforall hsaid hnew
  have hcount' : calls'.length = calls.length := by simpa using congrArg List.length htexts
  obtain ⟨program', hread', hhashbang, htree'⟩ := hcalls'.read
    (Interchanged.plain_row hforall hcalls.keyword) (hcount' ▸ hcount) hrow'
  exact ⟨program', hread', hhashbang, by rw [htree', htexts, htree]⟩

/-- What a word says once others have come to stand for some. -/
def newText (swaps : List (Word × Respelled)) (w : Word) : String :=
  ((Keyed.get? w swaps).map Respelled.text).getD w.text

section Words

variable {callee : String} {found : Scan} {ids : List String}

theorem replaces_of_mem_loaded {s : Word × Respelled}
    (h : s ∈ found.loaded callee ids) : Replaces s.2 s.1.kind := by
  obtain ⟨step, -, hs⟩ := List.mem_flatMap.1 h
  rcases List.mem_pair.1 hs with rfl | rfl
  · exact .name
  · exact .string step.2

theorem map_fst_loaded (hids : ids.length = found.calls.length) :
    (found.loaded callee ids).map Prod.fst = found.words callee := by
  have hzip : (found.calls.zip ids).map Prod.fst = found.calls :=
    List.map_fst_zip (Nat.le_of_eq hids.symm)
  rw [Scan.loaded, List.map_flatMap, Scan.words]
  conv_rhs => rw [← hzip, List.flatMap_map]
  rfl

theorem edits_foldl_redirect (steps : List (DependencyCall × String)) (plan : EditPlan) :
    (steps.foldl (fun plan step => plan.redirect step.1 step.2) plan).edits = plan.edits ++
      steps.flatMap fun step =>
        [⟨step.1.callee, loaderName⟩, ⟨step.1.argument, Text.quote step.2⟩] := by
  induction steps generalizing plan with
  | nil => exact (List.append_nil _).symm
  | cons step more ih =>
    rw [List.foldl_cons, ih, List.flatMap_cons, EditPlan.redirect, List.append_assoc]

theorem edits_redirected (callee : String) (found : Scan) (ids : List String) :
    (found.redirected ids).edits = (Sources.startPlan found).edits ++
      (found.loaded callee ids).map fun s => ⟨s.1.span, s.2.spelling⟩ := by
  rw [Scan.redirected, edits_foldl_redirect, Scan.loaded, List.map_flatMap]
  rfl

theorem newText_of_mem {swaps : List (Word × Respelled)} (hnd : (swaps.map Prod.fst).Nodup)
    {s : Word × Respelled} (hs : s ∈ swaps) : newText swaps s.1 = s.2.text := by
  rw [newText, Keyed.get?_of_mem hnd hs]
  rfl

theorem newText_of_not_mem {swaps : List (Word × Respelled)} {w : Word}
    (h : w ∉ swaps.map Prod.fst) : newText swaps w = w.text := by
  rw [newText, Keyed.get?_eq_none.2 h]
  rfl

theorem newText_of_ne (hids : ids.length = found.calls.length) {span : Span} {text : String}
    (h : text ≠ callee) :
    newText (found.loaded callee ids) ⟨.identifier, span, text⟩ = text := by
  refine newText_of_not_mem fun hmem => ?_
  rw [map_fst_loaded hids] at hmem
  obtain ⟨call, -, hw⟩ := List.mem_flatMap.1 hmem
  rcases List.mem_pair.1 hw with hw | hw
  · exact h (congrArg Word.text hw)
  · have hkind : Leaf.identifier = Leaf.string := congrArg Word.kind hw
    cases hkind

section Loaded

variable (hnd : (found.words callee).Nodup)
  (hids : ids.length = found.calls.length)

include hnd hids

theorem newText_loaded {step : DependencyCall × String}
    (hstep : step ∈ found.calls.zip ids) :
    newText (found.loaded callee ids) ⟨.identifier, step.1.callee, callee⟩ =
        loaderName ∧
      newText (found.loaded callee ids)
        ⟨.string, step.1.argument, step.1.specifier⟩ = step.2 := by
  rw [← map_fst_loaded hids] at hnd
  exact ⟨newText_of_mem hnd (List.mem_flatMap.2 ⟨step, hstep, .head _⟩),
    newText_of_mem hnd (List.mem_flatMap.2 ⟨step, hstep, .tail _ (.head _)⟩)⟩

theorem newText_callee_loaded {call : DependencyCall}
    (hcall : call ∈ found.calls) :
    newText (found.loaded callee ids) ⟨.identifier, call.callee, callee⟩ =
      loaderName := by
  have hzip : (found.calls.zip ids).map Prod.fst = found.calls :=
    List.map_fst_zip (Nat.le_of_eq hids.symm)
  rw [← hzip] at hcall
  obtain ⟨step, hstep, rfl⟩ := List.mem_map.1 hcall
  exact (newText_loaded hnd hids hstep).1

theorem map_newText_loaded : found.calls.map (fun call =>
    newText (found.loaded callee ids)
      ⟨.string, call.argument, call.specifier⟩) = ids := by
  have hfst : (found.calls.zip ids).map Prod.fst = found.calls :=
    List.map_fst_zip (Nat.le_of_eq hids.symm)
  have hsnd : (found.calls.zip ids).map Prod.snd = ids :=
    List.map_snd_zip (Nat.le_of_eq hids)
  conv_lhs => rw [← hfst, List.map_map]
  conv_rhs => rw [← hsnd]
  exact List.map_congr_left fun step hstep => (newText_loaded hnd hids hstep).2

end Loaded

end Words

section Exchanged

variable {isModule : Bool} {text : List Char} {row : List (Manner × Token)}

theorem not_front_of_isLineBreak {c : Char} (h : isLineBreak c = true) :
    ¬ BeginsWord c ∧ ¬ IsQuote c := by
  simp only [isLineBreak, Bool.or_eq_true, beq_iff_eq] at h
  rcases h with ((rfl | rfl) | rfl) | rfl <;> decide +kernel

theorem Alike.not_hasHashbang {text' : List Char} (h : Alike text text')
    (htext : ¬ HasHashbang text) : ¬ HasHashbang text' := by
  rintro ⟨more, rfl⟩
  cases h with
  | same c h =>
    cases h with
    | same d h => exact htext ⟨_, rfl⟩

/-- Where the words of a row give way to others and a hashbang to a comment, the text is the row of
the tokens with these words in it. -/
theorem Reads.exchanged (found : Scan) (swaps : List (Word × Respelled))
    (h : Reads isModule text found.hashbang row)
    (hnd : ((swaps.map Prod.fst).map Word.span).Nodup)
    (hreplaces : ∀ s ∈ swaps, Replaces s.2 s.1.kind)
    (hwords : ∀ s ∈ swaps, ∃ t, (.plain, t) ∈ row ∧ t.span = s.1.span ∧
      t.Says s.1.kind s.1.text) :
    ∃ edits text' row', Substituted 0 text edits text' ∧
      edits.Perm ((Sources.startPlan found).edits ++
        swaps.map fun s => ⟨s.1.span, s.2.spelling⟩) ∧
      Reads isModule text' none row' ∧
      List.Forall₂ (Interchanged (swaps.map Prod.fst) (newText swaps)) row row' := by
  have hnew (s : Word × Respelled) (hs : s ∈ swaps) :
      newText swaps s.1 = s.2.text ∧ Replaces s.2 s.1.kind :=
    ⟨newText_of_mem (hnd.of_map _) hs, hreplaces s hs⟩
  generalize hsign : found.hashbang = sign at h
  cases h with
  | plain hno hrow =>
    obtain ⟨edits, text', hsub, hperm, halike, hagain⟩ := hrow.exchanged hnd hnew hwords
    obtain ⟨row', hrow', hforall⟩ := hagain 0
    refine ⟨edits, text', row', hsub, ?_, .plain (halike.not_hasHashbang hno) hrow', hforall⟩
    rwa [Sources.startPlan, hsign]
  | @hashbang _ t hhas hfirst hrow =>
    obtain ⟨line, rfl, hline, hbreak, -, hspan⟩ := first_hashbang hhas hfirst
    obtain ⟨_, span, _, _, _, _, rest⟩ := t
    obtain rfl : span = ⟨0, 2 + byteLength line⟩ := hspan
    obtain ⟨edits, rest', hsub, hperm, halike, hagain⟩ := hrow.exchanged hnd hnew hwords
    obtain ⟨row', hrow', hforall⟩ := hagain (2 + byteLength line)
    have hsign' : (['#', '!'] : List Char) ≠ [] := nofun
    have hwhole := Substituted.cons [] hsign' "//" (Substituted.behind hsub)
    have hbreak' (c : Char) (hc : rest'.head? = some c) : isLineBreak c = true := by
      cases halike with
      | nil => cases hc
      | same d halike => exact hbreak c hc
      | word hword => exact absurd hword (not_front_of_isLineBreak (hbreak _ rfl)).1
      | quote hquote => exact absurd hquote (not_front_of_isLineBreak (hbreak _ rfl)).2
    have hcomment := hrow'.underComment hline hbreak'
    refine ⟨_, _, row', hwhole, ?_, .plain ?_ hcomment, hforall⟩
    · rw [Sources.startPlan, hsign]
      exact hperm.cons _
    · rintro ⟨more, heq⟩
      cases heq

end Exchanged

deriving instance DecidableEq for Program

section Redirected

variable {read : Dialect → List Char → Except Fault Program} {callee : String} {dialect : Dialect}
  {text : String} {found : Scan} {ids : List String}

/-- A source text with all its calls redirected is read back: as calls of the loader with the names
of the modules, in their order, with no other call left and no hashbang. For `scan` the reader is
that of programs. -/
theorem redirected_scans_back (hcallee : callee ≠ loaderName)
    (hseen : SeenByTokens read callee dialect text.toList)
    (hfound : scanBy read callee dialect text = .ok found)
    (hloader : ∀ other, scanBy read loaderName dialect text = .ok other → other.calls = [])
    (hids : ids.length = found.calls.length) :
    ∃ back, scanBy read loaderName dialect ((found.redirected ids).apply text) = .ok back ∧
      back.calls.map DependencyCall.specifier = ids ∧ back.hashbang = none ∧
      scanBy read callee dialect ((found.redirected ids).apply text) = .ok ⟨[], none⟩ := by
  obtain ⟨program, hread, rfl⟩ := scanBy_eq_ok.1 hfound
  obtain ⟨row, hrow, hspans, hwords, hagain⟩ := hseen.seen program hread
  have hnd := List.Nodup.of_map _ hspans
  have hfst : ((program.found callee).loaded callee ids).map Prod.fst = _ := map_fst_loaded hids
  obtain ⟨edits, text', row', hsub, hperm, hrow', hforall⟩ :=
    Reads.exchanged (program.found callee) ((program.found callee).loaded callee ids) hrow
      (hfst ▸ hspans) (fun s hs => replaces_of_mem_loaded hs)
      (fun s hs => hwords s.1 (hfst ▸ List.mem_map_of_mem hs))
  -- the plan lists the edits call by call, which need not be the order of the text
  have happly : (((program.found callee).redirected ids).apply text).toList = text' := by
    have hplan := EditPlan.apply_eq hsub
      ((edits_redirected callee (program.found callee) ids) ▸ hperm.symm)
    rw [String.ofList_toList] at hplan
    rw [hplan, String.toList_ofList]
  rw [hfst] at hforall
  obtain ⟨program', hread', hhashbang, htree⟩ :=
    hagain _ text' none row' (fun w hw => newText_of_not_mem (hfst ▸ hw)) hrow' hforall
  have hno : program.tree.dependencies loaderName = [] :=
    hloader _ (scanBy_eq_ok.2 ⟨program, hread, rfl⟩)
  obtain ⟨hback, hnone⟩ := Node.specifiers_respelled htree hno hcallee
    (fun d hd => newText_callee_loaded hnd hids hd) (fun span text => newText_of_ne hids)
  rw [← happly] at hread'
  refine ⟨program'.found loaderName, scanBy_eq_ok.2 ⟨program', hread', rfl⟩, ?_, hhashbang,
    scanBy_eq_ok.2 ⟨program', hread', ?_⟩⟩
  · exact hback.trans (map_newText_loaded hnd hids)
  · rw [Program.found, hnone, hhashbang]

section Sample

def sampleText : String := "#!/n\nrequire('b'); require('c');"

def sampleProgram : Program :=
  ⟨some ⟨0, 4⟩, .branch .program ⟨5, 32⟩
    [.branch .expressionStatement ⟨5, 18⟩ [.call ⟨5, 17⟩ (.leaf .identifier ⟨5, 12⟩ "require") []
        [.leaf .string ⟨13, 16⟩ "b"]],
      .branch .expressionStatement ⟨19, 32⟩ [.call ⟨19, 31⟩ (.leaf .identifier ⟨19, 26⟩ "require")
        [] [.leaf .string ⟨27, 30⟩ "c"]]]⟩

theorem sample_read : Program.read .script sampleText.toList = .ok sampleProgram := by
  have hread : (Program.read .script sampleText.toList).toOption = some sampleProgram := by
    decide +kernel
  cases hprogram : Program.read .script sampleText.toList with
  | error fault =>
    rw [hprogram] at hread
    cases hread
  | ok program =>
    rw [hprogram] at hread
    exact congrArg Except.ok (Option.some.inj hread)

def sampleToken (kind : TokenKind) (start stop : Nat) (text : String) (afterBreak : Bool) : Token :=
  ⟨kind, ⟨start, stop⟩, afterBreak, false, text.toList, sampleText.toList.drop start,
    sampleText.toList.drop stop⟩

def sampleTokens : List Token :=
  [sampleToken (.keyword .requireWord) 5 12 "require" true,
    sampleToken (.mark .parenOpen) 12 13 "" false,
    sampleToken (.string ['b'] false) 13 16 "" false,
    sampleToken (.mark .parenClose) 16 17 "" false,
    sampleToken (.mark .semicolon) 17 18 "" false,
    sampleToken (.keyword .requireWord) 19 26 "require" false,
    sampleToken (.mark .parenOpen) 26 27 "" false,
    sampleToken (.string ['c'] false) 27 30 "" false,
    sampleToken (.mark .parenClose) 30 31 "" false,
    sampleToken (.mark .semicolon) 31 32 "" false]

theorem sample_reads :
    Reads false sampleText.toList (some ⟨0, 4⟩) (sampleTokens.map (Prod.mk .plain)) := by
  have htokens : plainTokens? false 11 true (sampleText.toList.drop 4) 4 = some sampleTokens := rfl
  exact .hashbang (t := (Lexer.first false sampleText.toList).token) ⟨_, rfl⟩ rfl
    (Row.of_plainTokens htokens)

theorem seenByTokens_sample :
    SeenByTokens Program.read "require" .script sampleText.toList := by
  have hcalls : NameCalls (sampleTokens.map (Prod.mk .plain))
      [(⟨.identifier, ⟨5, 12⟩, "require"⟩, ⟨.string, ⟨13, 16⟩, "b"⟩),
        (⟨.identifier, ⟨19, 26⟩, "require"⟩, ⟨.string, ⟨27, 30⟩, "c"⟩)] :=
    .cons ⟨rfl, rfl⟩ rfl ⟨false, rfl⟩ rfl rfl (.cons ⟨rfl, rfl⟩ rfl ⟨false, rfl⟩ rfl rfl .nil)
  exact seenByTokens_calls sample_read sample_reads hcalls rfl (by decide) fun _ => rfl

def sampleFound : Scan :=
  ⟨[⟨"b", ⟨5, 12⟩, ⟨13, 16⟩⟩, ⟨"c", ⟨19, 26⟩, ⟨27, 30⟩⟩], some ⟨0, 4⟩⟩

def sampleRedirected : String :=
  "///n\n__tinypack_require__(\"./\\\"b\\\".js\"); __tinypack_require__(\"./c\\n.js\");"

theorem sample_apply :
    (sampleFound.redirected ["./\"b\".js", "./c\n.js"]).apply sampleText = sampleRedirected := by
  have hplan : (sampleFound.redirected ["./\"b\".js", "./c\n.js"]).edits =
      [⟨⟨0, 2⟩, "//"⟩, ⟨⟨5, 12⟩, loaderName⟩, ⟨⟨13, 16⟩, Text.quote "./\"b\".js"⟩,
        ⟨⟨19, 26⟩, loaderName⟩, ⟨⟨27, 30⟩, Text.quote "./c\n.js"⟩] :=
    edits_redirected "require" sampleFound _
  have hsub : Substituted 0 sampleText.toList _ _ :=
    .cons [] (show "#!".toList ≠ [] by decide) "//" <|
      .cons "/n\n".toList (show "require".toList ≠ [] by decide) loaderName <|
      .cons "(".toList (show "'b'".toList ≠ [] by decide) (Text.quote "./\"b\".js") <|
      .cons "); ".toList (show "require".toList ≠ [] by decide) loaderName <|
      .cons "(".toList (show "'c'".toList ≠ [] by decide) (Text.quote "./c\n.js") <|
      .nil _ ");".toList
  have happly := EditPlan.apply_eq hsub (.of_eq hplan)
  rw [String.ofList_toList] at happly
  exact happly.trans (by decide +kernel)

theorem redirected_scans_back_sample :
    scan "require" .script sampleText = .ok sampleFound ∧
    (sampleFound.redirected ["./\"b\".js", "./c\n.js"]).apply sampleText = sampleRedirected ∧
    (∃ back, scan loaderName .script sampleRedirected = .ok back ∧
      back.calls.map DependencyCall.specifier = ["./\"b\".js", "./c\n.js"] ∧ back.hashbang = none) ∧
    scan "require" .script sampleRedirected = .ok ⟨[], none⟩ := by
  rw [scan_eq_scanBy]
  have hfound : scanBy Program.read "require" .script sampleText = .ok sampleFound :=
    scanBy_eq_ok.2 ⟨_, sample_read, rfl⟩
  have hloader : ∀ other, scanBy Program.read loaderName .script sampleText = .ok other →
      other.calls = [] := by
    intro other hother
    obtain ⟨program, hread, rfl⟩ := scanBy_eq_ok.1 hother
    obtain rfl := Except.ok.inj (sample_read.symm.trans hread)
    decide +kernel
  obtain ⟨back, hback, hids, hhashbang, hno⟩ :=
    redirected_scans_back (by decide) seenByTokens_sample hfound hloader
      (show ["./\"b\".js", "./c\n.js"].length = sampleFound.calls.length from rfl)
  rw [sample_apply] at hback hno
  exact ⟨hfound, sample_apply, ⟨back, hback, hids, hhashbang⟩, hno⟩

end Sample

end Redirected

end ModuleBundler.Script
