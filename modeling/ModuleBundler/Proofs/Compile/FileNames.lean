import ModuleBundler.Config.Merge
import ModuleBundler.Proofs.Compile.Ownership
import ModuleBundler.Proofs.Text.Replacement

/-! The names of output files. A template with the placeholder tells all chunks apart, and one
without it gives all of them one file, so what a configuration is warned about is what ends its
compilation. -/
namespace ModuleBundler

open Build

namespace Output

variable {o : Output} {n n' : String}

theorem hasPlaceholder_iff (o : Output) :
    o.hasPlaceholder = true ↔ placeholder.toList <:+: o.template.toList :=
  Text.contains_iff_infix ..

theorem fileFor_eq_iff (o : Output) (n n' : String) :
    o.fileFor n = o.fileFor n' ↔ n = n' ∨ ¬ placeholder.toList <:+: o.template.toList := by
  rw [fileFor, fileFor, Text.replace, Text.replace, String.ofList_inj, Text.replaceFrom_eq_iff,
    String.toList_inj]

theorem fileFor_injective (h : o.hasPlaceholder = true) : Function.Injective o.fileFor := by
  intro n n' heq
  exact ((o.fileFor_eq_iff n n').1 heq).resolve_right (not_not_intro (o.hasPlaceholder_iff.1 h))

end Output

namespace ConfigFile

variable {file : ConfigFile} {o : Overrides} {base : Path} {loaders : Loaders} {c : BuildConfig}
  {events : List Log.Event}

theorem warnings_of_merge (h : file.merge o base loaders = (.ok c, events)) :
    events = warnings c.entries c.output := by
  obtain ⟨hconfig, rfl⟩ := Prod.mk.inj h
  cases hrules : ((file.module.map ModuleSection.rules).getD []).mapM
      fun r => loaders.rule r.test r.loaders with
  | error e =>
    rw [hrules] at hconfig
    cases hconfig
  | ok rules =>
    rw [hrules] at hconfig
    cases hconfig
    rfl

theorem mem_warnings_iff (entries : List (String × Path)) (output : Output) :
    .missingPlaceholder output.template Output.placeholder entries.length ∈
        warnings entries output ↔
      1 < entries.length ∧ ¬ output.hasPlaceholder = true := by
  unfold warnings
  split <;> simp_all

end ConfigFile

namespace BuildConfig

/-- All entries are built, whether or not there are output files for them. -/
def GraphBuilds (c : BuildConfig) (cwd : Path) (files : Files) : Prop :=
  ∃ entries q, outcome (c.buildEntries cwd files) (c.begun cwd) = (.ok entries, q)

variable {c : BuildConfig} {cwd : Path} {files : Files}

theorem graphBuilds_of_toOption {α : Type} {f : List Entry → α} {a : α}
    (h : (outcome (c.buildEntries cwd files) (c.begun cwd)).1.toOption.map f = some a) :
    c.GraphBuilds cwd files := by
  obtain ⟨entries, hok, -⟩ := ok_of_toOption h
  exact ⟨entries, _, Prod.ext hok rfl⟩

theorem nodup_fileFor_iff (c : BuildConfig) :
    (c.entries.map fun e => c.output.fileFor e.1).Nodup ↔
      ¬ (1 < c.entries.length ∧ ¬ c.output.hasPlaceholder = true) := by
  have hnames := c.names_nodup
  constructor
  · rintro hnodup ⟨hmany, hplain⟩
    match hentries : c.entries, hmany with
    | first :: second :: more, _ =>
      have hshared : c.output.fileFor first.1 = c.output.fileFor second.1 :=
        (c.output.fileFor_eq_iff ..).2 (.inr (mt c.output.hasPlaceholder_iff.2 hplain))
      rw [hentries] at hnodup
      simp [hshared] at hnodup
  · intro h
    by_cases hplaceholder : c.output.hasPlaceholder = true
    · have hfiles := hnames.map (Output.fileFor_injective hplaceholder)
      rwa [List.map_map] at hfiles
    · have hfew : c.entries.length ≤ 1 := by
        by_contra hmany
        exact h ⟨by omega, hplaceholder⟩
      match hentries : c.entries, hfew with
      | [], _ => exact List.nodup_nil
      | [only], _ => exact List.nodup_singleton _

/-- Once the graph is built, only the names of the output files can end a compilation. -/
theorem sharedFile_iff (hbuilds : c.GraphBuilds cwd files) :
    (∃ shared p, c.compile cwd files = (.error (.config (.sharedFile shared)), p)) ↔
      ¬ (c.entries.map fun e => c.output.fileFor e.1).Nodup := by
  by_cases hne : c.entries = []
  · rw [compile_of_empty hne, hne]
    simp
  obtain ⟨entries, q, hbuild⟩ := hbuilds
  rcases compile_of_files hne hbuild with ⟨⟨p, hok⟩, hnodup⟩ | ⟨hshared, hdup⟩
  · rw [hok]
    simp [hnodup]
  · exact iff_of_true hshared hdup

/-- Different names have one file exactly when the template is without the placeholder. So a
configuration whose graph builds is warned about exactly when its compilation ends because two
chunks would be written to one file. -/
theorem warned_iff_sharedFile :
    (∀ (o : Output) (n n' : String), n ≠ n' →
      (o.fileFor n = o.fileFor n' ↔ ¬ Output.placeholder.toList <:+: o.template.toList)) ∧
    ∀ (file : ConfigFile) (overrides : Overrides) (base : Path) (loaders : Loaders)
      (c : BuildConfig) (events : List Log.Event),
      file.merge overrides base loaders = (.ok c, events) →
      ∀ (cwd : Path) (files : Files), c.GraphBuilds cwd files →
        (.missingPlaceholder c.output.template Output.placeholder c.entries.length ∈ events ↔
          ∃ shared p, c.compile cwd files = (.error (.config (.sharedFile shared)), p)) := by
  refine ⟨fun o n n' hne => ?_, ?_⟩
  · rw [o.fileFor_eq_iff, or_iff_right hne]
  · intro file overrides base loaders c events hmerge cwd files hbuilds
    rw [ConfigFile.warnings_of_merge hmerge, ConfigFile.mem_warnings_iff, sharedFile_iff hbuilds,
      nodup_fileFor_iff, not_not]

def bundleFile : ConfigFile :=
  { ConfigFile.empty with
    entry := some (.named [("main", "a.js"), ("side", "b.js")])
    output := some ⟨none, some "bundle.js"⟩ }

def bundleConfig : BuildConfig :=
  { new (.ofString "/app") with
    entries := bundleFile.chosenEntries .none
    output := ⟨.ofString "dist", "bundle.js"⟩
    names_nodup := bundleFile.chosenEntries_nodup .none }

theorem warned_iff_sharedFile_bundle :
    bundleConfig.output.fileFor "main" = bundleConfig.output.fileFor "side" ∧
    bundleFile.merge .none (.ofString "/app") .empty =
      (.ok bundleConfig, [.missingPlaceholder "bundle.js" "[name]" 2]) ∧
    bundleConfig.GraphBuilds (.ofString "/") sampleFiles.view ∧
    ∃ shared p, bundleConfig.compile (.ofString "/") sampleFiles.view =
      (.error (.config (.sharedFile shared)), p) := by
  have hmerge : bundleFile.merge .none (.ofString "/app") .empty =
      (.ok bundleConfig, [.missingPlaceholder "bundle.js" "[name]" 2]) := rfl
  have hnames : (outcome (bundleConfig.buildEntries (.ofString "/") sampleFiles.view)
      (bundleConfig.begun (.ofString "/"))).1.toOption.map (List.map Entry.name) =
        some ["main", "side"] := by
    decide +kernel
  have hbuilds := graphBuilds_of_toOption hnames
  refine ⟨(warned_iff_sharedFile.1 _ "main" "side" (by decide)).2 (by decide), hmerge, hbuilds, ?_⟩
  exact (warned_iff_sharedFile.2 _ _ _ _ _ _ hmerge _ _ hbuilds).1 List.mem_cons_self

end BuildConfig

end ModuleBundler
