import ModuleBundler.Proofs.Json.Value
import ModuleBundler.Proofs.Script.Exports
import ModuleBundler.Proofs.Script.Place
import ModuleBundler.Proofs.Transform.JsonText

/-! A JSON document as a module of the script language. The module is read whatever the document
holds, and depends on nothing. What it exports is what the document says just if no object in the
document has a member for the key that sets the prototype of an object literal. -/
namespace ModuleBundler.Transform

open Script

section Tree

variable (v : Json) (pos : Nat)

theorem strayDefaultIn?_eq_none {ms : List Node}
    (h : ∀ m ∈ ms, Parser.strayDefault? m = none) : Parser.strayDefaultIn? ms = none := by
  induction ms with
  | nil => rfl
  | cons m more ih =>
    obtain ⟨hm, hmore⟩ := List.forall_mem_cons.1 h
    rw [Parser.strayDefaultIn?, hm, ih hmore]
    rfl

theorem strayDefault?_tree : Parser.strayDefault? (Json.tree pos v) = none := by
  refine Json.tree_induction (P := fun m => Parser.strayDefault? m = none) (fun _ _ _ => rfl)
    (fun kind span parts hkind hparts => ?_) v pos
  rw [Parser.strayDefault?, strayDefaultIn?_eq_none hparts]
  exact fun _ _ _ heq => absurd heq hkind

theorem dependencies_tree (callee : String) : (Json.tree pos v).dependencies callee = [] := by
  refine Json.tree_induction (P := fun m => m.dependencies callee = []) (fun _ _ _ => rfl)
    (fun kind span parts _ hparts => ?_) v pos
  rw [Node.dependencies, Node.dependenciesIn_eq_flatMap, List.flatMap_eq_nil_iff]
  exact hparts

end Tree

variable {text source : String} {document : Json} {d : Dialect}

theorem toList_jsonModule (v : Json) :
    (jsonModule v).toList = exportsText v.settled.compact := by
  have htext : v.settled.compactText.toList = v.settled.compact := String.toList_ofList
  rw [jsonModule_eq, String.toList_append, String.toList_append, htext, List.append_assoc]
  rfl

theorem document_of_run (h : json.run text = .ok source) :
    ∃ document, Json.parse text = .ok document ∧ source = jsonModule document := by
  cases hparse : Json.parse text with
  | ok document =>
    rw [json_run_of_parse hparse] at h
    exact ⟨document, rfl, (Except.ok.inj h).symm⟩
  | error fault =>
    unfold json at h
    dsimp only at h
    rw [hparse] at h
    cases h

/-- The module of a document is read in every dialect without types: it sets what it exports, and
does nothing else. -/
theorem read_jsonModule (hd : d.typed = false) (h : Json.parse text = .ok document) :
    Program.read d (jsonModule document).toList =
      .ok (Parser.exportsProgram document.settled.compact (Json.tree 17 document.settled)) := by
  have hwithin := (Json.within_of_parse h).settled
  rw [toList_jsonModule]
  exact Parser.read_exports hd (fun n hn => Json.readsItem_value hwithin hn)
    (strayDefault?_tree document.settled 17)

theorem scan_jsonModule (hd : d.typed = false) (h : Json.parse text = .ok document)
    (callee : String) : scan callee d (jsonModule document) = .ok ⟨[], none⟩ := by
  have hdependencies : (Parser.exportsProgram document.settled.compact
      (Json.tree 17 document.settled)).tree.dependencies callee = [] := by
    simp [Parser.exportsProgram, Parser.exportsStatement, Parser.exportsTree, Node.dependencies,
      Node.dependenciesIn, dependencies_tree]
  rw [scan, read_jsonModule hd h]
  exact congrArg (fun calls => Except.ok (Scan.mk calls none)) hdependencies

theorem stands_exportsText (text : List Char) : Stands (exportsText text) 17 text :=
  ⟨exportsHeading.toList, [';'], rfl, by decide⟩

/-- The expression in the module of a document has a value, which is what the document says just if
what is kept of the document is plain. -/
theorem json_exports_iff (h : json.run text = .ok source) (hd : d.typed = false) :
    ∃ document program expression x, Json.parse text = .ok document ∧
      Program.read d source.toList = .ok program ∧ program.exported? = some expression ∧
      Value.ofNode? source.toList expression = some x ∧
      (Json.Mirrors x document ↔ document.settled.Plain) := by
  obtain ⟨document, hparse, rfl⟩ := document_of_run h
  have hstands := stands_exportsText document.settled.compact
  rw [← toList_jsonModule] at hstands
  obtain ⟨x, hx, hiff⟩ := Json.exists_value document.settled_settled hstands
  have hsettled := document.settled_settled
  refine ⟨document, _, _, x, hparse, read_jsonModule hd hparse,
    Parser.exported?_exportsProgram _ _, hx, ?_⟩
  rw [← hiff]
  exact ⟨fun hmirrors => hmirrors.of_same (Json.same_iff_settled.2 hsettled.symm),
    fun hmirrors => hmirrors.of_same (Json.same_iff_settled.2 hsettled)⟩

def prototyped : Json := .object [("__proto__", .number (.natural 1))]

def prototypedText : String := "\x7b\"__proto__\":1\x7d"

theorem parse_prototyped : Json.parse prototypedText = .ok prototyped := by
  have htext : prototyped.compactText = prototypedText := by decide
  rw [← htext]
  refine Json.parse_compactText (.object (by decide) fun m hm => ?_)
  rw [List.mem_singleton.1 hm]
  exact .number _ ⟨by decide, rfl⟩

/-- The member is lost: the value is not what the document says. -/
theorem json_exports_iff_prototyped :
    ∃ source program expression x, json.run prototypedText = .ok source ∧
      Json.parse prototypedText = .ok prototyped ∧
      Program.read .plain source.toList = .ok program ∧ program.exported? = some expression ∧
      Value.ofNode? source.toList expression = some x ∧ ¬ Json.Mirrors x prototyped := by
  have hrun := json_run_of_parse parse_prototyped
  obtain ⟨document, program, expression, x, hparse, hread, hexported, hx, hiff⟩ :=
    json_exports_iff (d := .plain) hrun rfl
  obtain rfl := Except.ok.inj (parse_prototyped.symm.trans hparse)
  refine ⟨_, program, expression, x, hrun, hparse, hread, hexported, hx, fun hmirrors => ?_⟩
  have hkey := (Json.plain_object.1 (hiff.1 hmirrors)).1
  exact hkey (by decide)

end ModuleBundler.Transform
