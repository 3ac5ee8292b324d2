import ModuleBundler.Proofs.Json.Codec
import ModuleBundler.Proofs.Text.Utf8
import ModuleBundler.Report

/-! A report is read back from its text, whatever its sources, names and assets hold. Two reports
that differ therefore have different texts. A report has a text if the paths of its modules have
one. -/
namespace ModuleBundler

theorem Path.text?_eq_some {p : Path} {s : String} : p.text? = some s ↔ ofString s = p := by
  obtain ⟨bytes⟩ := p
  rw [text?, Option.map_eq_some_iff, ofString, mk.injEq]
  constructor
  · rintro ⟨cs, hcs, rfl⟩
    rw [String.toList_ofList]
    exact Utf8.chars?_eq_some.1 hcs
  · intro h
    exact ⟨s.toList, Utf8.chars?_eq_some.2 h, String.ofList_toList⟩

namespace Report

open Json (Codec)

theorem json?_strings (texts : List String) :
    Codec.string.list.json? texts = some (stringsJson texts) :=
  Codec.json?_list (fun _ => rfl) texts

@[simp] theorem ofJson?_stringsJson (texts : List String) :
    Codec.string.list.ofJson? (stringsJson texts) = some texts :=
  Codec.string.list.ofJson?_of_json? (json?_strings texts)

section Entries

def entryOf? (v : Json) : Option Entry := do
  let name ← Codec.string.member? "name" v
  let moduleId ← Codec.string.member? "moduleId" v
  return ⟨name, moduleId⟩

def entryCodec : Codec Entry where
  json? e := some (entryJson e)
  ofJson? := entryOf?
  depth := 1
  within_of_json? h := by
    cases h
    exact Codec.within_record ⟨.string _ _, .string _ _⟩
  ofJson?_of_json? h := by
    cases h
    rfl

end Entries

section Modules

variable {m : Module} {v : Json}

def moduleOf? (v : Json) : Option Module := do
  let id ← Codec.string.member? "id" v
  let path ← Codec.string.member? "absolutePath" v
  let source ← Codec.string.member? "source" v
  let dependencies ← Codec.string.list.member? "dependencies" v
  let owners ← Codec.string.list.member? "owningEntries" v
  return ⟨id, .ofString path, source, dependencies, owners⟩

theorem moduleJson?_eq_some : moduleJson? m = some v ↔ ∃ path, .ofString path = m.path ∧
    .object [("id", .string m.id), ("absolutePath", .string path), ("source", .string m.source),
      ("dependencies", stringsJson m.dependencies),
      ("owningEntries", stringsJson m.owners)] = v := by
  simp [moduleJson?, Option.bind_eq_some_iff, Path.text?_eq_some]

def moduleCodec : Codec Module where
  json? := moduleJson?
  ofJson? := moduleOf?
  depth := 2
  within_of_json? h := by
    obtain ⟨path, -, rfl⟩ := moduleJson?_eq_some.1 h
    exact Codec.within_record ⟨.string _ _, .string _ _, .string _ _,
      Codec.string.list.within (by decide) (json?_strings _),
      Codec.string.list.within (by decide) (json?_strings _)⟩
  ofJson?_of_json? {m v} h := by
    obtain ⟨path, hpath, rfl⟩ := moduleJson?_eq_some.1 h
    simp [moduleOf?, Codec.member?, Keyed.get?, hpath]

end Modules

section Chunks

variable {c : Chunk} {v : Json}

def chunkOf? (v : Json) : Option Chunk := do
  let name ← Codec.string.member? "name" v
  let entryModule ← moduleCodec.member? "entryModule" v
  let modules ← moduleCodec.list.member? "modules" v
  return ⟨name, entryModule, modules⟩

theorem chunkJson?_eq_some : chunkJson? c = some v ↔ ∃ entryModule modules,
    moduleCodec.json? c.entryModule = some entryModule ∧
      moduleCodec.list.json? c.modules = some modules ∧
      .object [("name", .string c.name), ("entryModule", entryModule),
        ("modules", modules)] = v := by
  simp [chunkJson?, Option.bind_eq_some_iff, moduleCodec, Codec.list]

def chunkCodec : Codec Chunk where
  json? := chunkJson?
  ofJson? := chunkOf?
  depth := 4
  within_of_json? h := by
    obtain ⟨_, _, hentry, hmodules, rfl⟩ := chunkJson?_eq_some.1 h
    exact Codec.within_record ⟨.string _ _, moduleCodec.within (by decide) hentry,
      moduleCodec.list.within (by decide) hmodules⟩
  ofJson?_of_json? h := by
    obtain ⟨_, _, hentry, hmodules, rfl⟩ := chunkJson?_eq_some.1 h
    simp [chunkOf?, Codec.member?, Keyed.get?, moduleCodec.ofJson?_of_json? hentry,
      moduleCodec.list.ofJson?_of_json? hmodules]

end Chunks

variable {r : Report} {v : Json}

/-- A report, from the members of its object. The assets keep the order of theirs. -/
def ofJson? (v : Json) : Option Report := do
  let entries ← entryCodec.list.member? "entries" v
  let modules ← moduleCodec.list.member? "modules" v
  let files ← Codec.string.list.member? "files" v
  let assets ← Codec.string.named.member? "assets" v
  let chunks ← chunkCodec.list.member? "chunks" v
  return ⟨entries, modules, files, assets, chunks⟩

theorem json?_eq_some : r.json? = some v ↔ ∃ entries modules files assets chunks,
    entryCodec.list.json? r.entries = some entries ∧
      moduleCodec.list.json? r.modules = some modules ∧
      Codec.string.list.json? r.files = some files ∧
      Codec.string.named.json? r.assets = some assets ∧
      chunkCodec.list.json? r.chunks = some chunks ∧
      .object [("entries", entries), ("modules", modules), ("files", files), ("assets", assets),
        ("chunks", chunks)] = v := by
  have hentries := Codec.json?_list (c := entryCodec) (fun _ => rfl) r.entries
  have hassets := Codec.json?_named (c := Codec.string) (fun _ => rfl) r.assets
  simp only [hentries, json?_strings, hassets]
  simp [json?, Option.bind_eq_some_iff, moduleCodec, chunkCodec, Codec.list]

def codec : Codec Report where
  json? := json?
  ofJson? := ofJson?
  depth := 6
  within_of_json? h := by
    obtain ⟨_, _, _, _, _, hentries, hmodules, hfiles, hassets, hchunks, rfl⟩ := json?_eq_some.1 h
    exact Codec.within_record ⟨entryCodec.list.within (by decide) hentries,
      moduleCodec.list.within (by decide) hmodules, Codec.string.list.within (by decide) hfiles,
      Codec.string.named.within (by decide) hassets, chunkCodec.list.within (by decide) hchunks⟩
  ofJson?_of_json? h := by
    obtain ⟨_, _, _, _, _, hentries, hmodules, hfiles, hassets, hchunks, rfl⟩ := json?_eq_some.1 h
    simp [ofJson?, Codec.member?, Keyed.get?, entryCodec.list.ofJson?_of_json? hentries,
      moduleCodec.list.ofJson?_of_json? hmodules, Codec.string.list.ofJson?_of_json? hfiles,
      Codec.string.named.ofJson?_of_json? hassets, chunkCodec.list.ofJson?_of_json? hchunks]

section Paths

def allModules (r : Report) : List Module :=
  r.modules ++ r.chunks.flatMap fun c => c.entryModule :: c.modules

theorem isSome_moduleJson? {m : Module} :
    (moduleJson? m).isSome ↔ ∃ s, Path.ofString s = m.path := by
  rw [Option.isSome_iff_exists]
  simp only [moduleJson?_eq_some]
  exact ⟨fun ⟨_, s, hs, _⟩ => ⟨s, hs⟩, fun ⟨s, hs⟩ => ⟨_, s, hs, rfl⟩⟩

theorem isSome_chunkJson? {c : Chunk} :
    (chunkJson? c).isSome ↔ ∀ m ∈ c.entryModule :: c.modules, (moduleJson? m).isSome := by
  rw [List.forall_mem_cons, ← Codec.isSome_mapM, chunkJson?]
  cases moduleJson? c.entryModule <;> cases c.modules.mapM moduleJson? <;> simp

theorem isSome_json? :
    r.json?.isSome ↔ ∀ m ∈ r.allModules, ∃ s, Path.ofString s = m.path := by
  have hparts : r.json?.isSome ↔
      (r.modules.mapM moduleJson?).isSome ∧ (r.chunks.mapM chunkJson?).isSome := by
    rw [json?]
    cases r.modules.mapM moduleJson? <;> cases r.chunks.mapM chunkJson? <;> simp
  rw [hparts, Codec.isSome_mapM, Codec.isSome_mapM, allModules, List.forall_mem_append,
    List.forall_mem_flatMap]
  simp only [isSome_chunkJson?, isSome_moduleJson?]

end Paths

theorem text_eq_ok {t : String} : r.text = .ok t ↔ ∃ v, r.json? = some v ∧ v.prettyText = t := by
  unfold text
  cases r.json? <;> simp

/-- A module whose path has a byte that stands for no character. -/
example : text ⟨[], [⟨"./m.js", ⟨[Path.slash, 0xFF]⟩, "", [], []⟩], [], [], []⟩ =
    .error (.report ⟨.pathNotText, 0, 0⟩) := rfl

end Report

end ModuleBundler
