import ModuleBundler.Config.Reader
import ModuleBundler.Proofs.Json.Record

/-! A configuration is read back from its text, whichever parts are there. -/
namespace ModuleBundler.ConfigFile

open Json (Spacing Within written)
open Json.Reader

/-- The entries have names of their own, as those of every configuration that is read. -/
def EntrySection.Distinct : EntrySection → Prop
  | single _ => True
  | named paths => (paths.map Prod.fst).Nodup

def Distinct (c : ConfigFile) : Prop := ∀ entry ∈ c.entry, entry.Distinct

section Restored

variable {sp : Spacing}

theorem restores_text (s : String) : Restores sp (nullable stringValue) (.string s) (some s) :=
  (restores_stringValue s).nullable fun _ => by simp

theorem restores_strings (texts : List String) :
    Restores sp (listOf stringValue) (strings texts) texts :=
  restores_listOf fun s _ => restores_stringValue s

theorem namedPaths?_map (paths : List (String × String)) :
    namedPaths? (paths.map fun p => (p.1, .string p.2)) = some paths := by
  induction paths with
  | nil => rfl
  | cons p more ih => rw [List.map_cons, namedPaths?, ih, Option.map_some]

theorem ofJson?_json {entry : EntrySection} (h : entry.Distinct) :
    EntrySection.ofJson? entry.json = some entry := by
  cases entry with
  | single path => rfl
  | named paths =>
    rw [EntrySection.json, EntrySection.ofJson?, namedPaths?_map, Option.map_some,
      Keyed.ofPairs_of_nodup h]

theorem within_json (entry : EntrySection) :
    Within Exact Json.maxNesting entry.json := by
  cases entry with
  | single path => exact .string _ _
  | named paths =>
    refine .object (by decide) fun m hm => ?_
    obtain ⟨p, -, rfl⟩ := List.mem_map.1 hm
    exact .string _ _

theorem restores_entrySection {entry : EntrySection} (h : entry.Distinct) :
    Restores sp entrySection entry.json entry := by
  have hvalue : Restores sp (value Json.maxNesting) entry.json entry.json :=
    restores_value (within_json entry)
  obtain ⟨hstarts, htakes⟩ := hvalue
  refine ⟨hstarts, fun level gap rest hgap hrest => (htakes level hgap hrest).bind ?_⟩
  simp only [ofJson?_json h]
  exact takes_pure entry rest

theorem restores_outputSection (s : OutputSection) : Restores sp outputSection s.json s := by
  refine restores_record fun level => ?_
  rw [← List.append_nil (member "filename" .string s.filename)]
  refine .nullable rfl (List.nil_subset []) (by decide) rfl (fun x _ => restores_text x)
    fun _ _ hpath => ?_
  refine .nullable rfl hpath (by decide) rfl (fun x _ => restores_text x) fun _ _ _ => ?_
  exact fills_nil (by simp [option]) s

theorem restores_resolveSection (s : ResolveSection) :
    Restores sp resolveSection s.json s := by
  refine restores_record fun level => ?_
  rw [← List.append_nil (member "extensions" strings s.extensions)]
  refine .nullable rfl (List.nil_subset []) (by decide) rfl
    (fun x _ => (restores_strings x).nullable fun _ => by simp [strings]) fun _ _ _ => ?_
  exact fills_nil (by simp [option]) s

theorem restores_ruleSection (r : RuleSection) : Restores sp ruleSection r.json r := by
  refine restores_record fun level => ?_
  rw [← List.append_nil (member "use" strings _)]
  refine .cons rfl (by simp) (restores_stringValue r.test).map ?_
  refine .nullable rfl (List.Subset.refl ["test"]) (by decide) rfl (fun x _ => restores_text x)
    fun _ htest hloader => ?_
  refine .option (b := r) rfl hloader (by decide) (fun hnone => ?_) (fun x hx => ?_)
    fun _ hseen _ => ?_
  · have huse : r.use = [] := by simpa using hnone
    rw [← huse]
  · obtain ⟨-, rfl⟩ : ¬ r.use.isEmpty ∧ r.use = x := by simpa using hx
    exact (restores_strings r.use).map
  · exact fills_nil (by simpa using hseen (htest (List.mem_singleton_self "test"))) r

theorem restores_moduleSection (s : ModuleSection) :
    Restores sp moduleSection s.json s := by
  refine restores_record fun level => ?_
  refine .cons rfl (by simp) ?_ (fills_nil (by simp) s)
  exact (restores_listOf fun r _ => restores_ruleSection r).map

theorem restores_reader {c : ConfigFile} (h : c.Distinct) : Restores sp reader c.json c := by
  refine restores_record fun level => ?_
  rw [← List.append_nil (member "banner" .string c.banner)]
  simp only [List.append_assoc]
  refine .nullable rfl (List.nil_subset []) (by decide) rfl (fun x _ => restores_text x)
    fun _ _ hcontext => ?_
  refine .nullable rfl hcontext (by decide) rfl (fun x hx => ?_) fun _ _ hentry => ?_
  · refine (restores_entrySection (h x hx)).nullable fun _ => ?_
    cases x <;> simp [EntrySection.json]
  refine .nullable rfl hentry (by decide) rfl (fun x _ => ?_) fun _ _ houtput => ?_
  · exact (restores_outputSection x).nullable fun _ => by simp [OutputSection.json]
  refine .nullable rfl houtput (by decide) rfl (fun x _ => ?_) fun _ _ hresolve => ?_
  · exact (restores_resolveSection x).nullable fun _ => by simp [ResolveSection.json]
  refine .nullable rfl hresolve (by decide) rfl (fun x _ => ?_) fun _ _ hmodule => ?_
  · exact (restores_moduleSection x).nullable fun _ => by simp [ModuleSection.json]
  refine .nullable rfl hmodule (by decide) rfl (fun x _ => restores_text x) fun _ _ _ => ?_
  exact fills_nil (by simp [option]) c

end Restored

section Read

variable {text : String} {c : ConfigFile}

theorem distinct_of_ofJson? {v : Json} {entry : EntrySection}
    (h : EntrySection.ofJson? v = some entry) : entry.Distinct := by
  cases v with
  | string path =>
    obtain rfl := Option.some.inj h
    trivial
  | object members =>
    obtain ⟨paths, -, rfl⟩ := Option.map_eq_some_iff.1 h
    exact Keyed.nodup_ofPairs paths
  | _ => nomatch h

theorem gives_entrySection : Gives entrySection EntrySection.Distinct := by
  refine .after fun v => ?_
  split
  · next entry h => exact gives_pure (distinct_of_ofJson? h)
  · exact gives_failUnplaced _

theorem gives_reader : Gives reader Distinct := by
  refine gives_record (fun f hf c hc => ?_) "TinypackConfig" (by simp [Distinct, empty])
  simp only [List.mem_cons, List.not_mem_nil, or_false] at hf
  rcases hf with rfl | rfl | rfl | rfl | rfl | rfl
  case inr.inl =>
    have hentry : Gives (nullable entrySection) fun entry => ∀ e ∈ entry, e.Distinct :=
      gives_entrySection.nullable (by simp) (by simp)
    exact hentry.map fun _ he => he
  -- The other parts do not touch the entries.
  all_goals exact .after fun _ => gives_pure hc

theorem parse_eq_ok : parse text = .ok c ↔ read text = .ok c := by
  unfold parse
  split
  · next h => simp [h]
  · next h => simp [h]

theorem distinct_of_parse (h : parse text = .ok c) : c.Distinct :=
  gives_reader.of_run (parse_eq_ok.1 h)

theorem parse_written (h : c.Distinct) (sp : Spacing) :
    parse (String.ofList (written sp 0 c.json)) = .ok c := by
  refine parse_eq_ok.2 (run_eq_ok ?_)
  have hrestores : Restores sp reader c.json c := restores_reader h
  have htext := hrestores.takes 0 .nil .nil
  rwa [List.nil_append, List.append_nil, ← String.toList_ofList (l := written sp 0 c.json)] at htext

theorem parse_text (h : c.Distinct) : parse c.text = .ok c := by
  rw [text, Json.compactText, ← Json.written_tight 0]
  exact parse_written h Json.tight

end Read

/-- A configuration is read back from its text, compact or spread over lines, with its entries and
rules in order. What is read from a file is thus unchanged by writing it and reading it again. -/
theorem config_round_trip :
    (∀ c : ConfigFile, c.Distinct → parse c.text = .ok c ∧ parse c.json.prettyText = .ok c) ∧
      ∀ text c, parse text = .ok c → c.Distinct ∧ parse c.text = .ok c := by
  refine ⟨fun c h => ⟨parse_text h, ?_⟩, fun text c h => ?_⟩
  · rw [Json.prettyText, ← Json.written_spread 0]
    exact parse_written h Json.spread
  · exact ⟨distinct_of_parse h, parse_text (distinct_of_parse h)⟩

def twoPages : ConfigFile where
  context := none
  entry := some (.named [("search", "./b.js"), ("home", "./a.js")])
  output := some ⟨none, none⟩
  resolve := some ⟨some []⟩
  module := some ⟨[⟨"\\.json$", none, ["json", "banner"]⟩, ⟨"", some "json", []⟩]⟩
  banner := some ""

theorem distinct_twoPages : twoPages.Distinct := by
  simp [Distinct, twoPages, EntrySection.Distinct]

theorem config_round_trip_twoPages :
    parse twoPages.text = .ok twoPages ∧ parse twoPages.json.prettyText = .ok twoPages ∧
      twoPages.Distinct :=
  have h := config_round_trip.1 twoPages distinct_twoPages
  ⟨h.1, h.2, (config_round_trip.2 twoPages.text twoPages h.1).1⟩

end ModuleBundler.ConfigFile
