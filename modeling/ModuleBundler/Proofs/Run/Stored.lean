import Mathlib.Data.List.Nodup
import ModuleBundler.Proofs.Compile.Ownership
import ModuleBundler.Proofs.Path.Place
import ModuleBundler.Proofs.Run.Outcome

/-! What the output files hold after a run. Their names differ, but two names may lead to one place,
and then the file of the later chunk is the one that stays there. -/
namespace ModuleBundler

namespace Memory

variable {directory : Path} {assets : List (String × String)} {m : Memory}

theorem get?_congr {p q : Path} (m : Memory) (h : p.components = q.components) :
    m.get? p = m.get? q := by
  rw [get?, get?, h]

theorem get?_withFiles_last {before after : List (String × String)} {a : String × String}
    (hassets : assets = before ++ a :: after)
    (hlast : ∀ b ∈ after, (directory.join (.ofString b.1)).components ≠
      (directory.join (.ofString a.1)).components) :
    (m.withFiles directory assets).get? (directory.join (.ofString a.1)) = some a.2 := by
  have hfind : assets.reverse.find? (fun b => decide ((directory.join (.ofString b.1)).components =
      (directory.join (.ofString a.1)).components)) = some a := by
    rw [hassets, List.reverse_append, List.reverse_cons, List.append_assoc, List.find?_append,
      List.find?_eq_none.2 fun b hb => by simpa using hlast b (List.mem_reverse.1 hb)]
    simp
  rw [get?_withFiles, hfind]
  rfl

/-- All files are read back if and only if those written to one place have one text. -/
theorem get?_withFiles_all_iff :
    (∀ a ∈ assets,
        (m.withFiles directory assets).get? (directory.join (.ofString a.1)) = some a.2) ↔
      ∀ a ∈ assets, ∀ b ∈ assets, (directory.join (.ofString a.1)).components =
        (directory.join (.ofString b.1)).components → a.2 = b.2 := by
  constructor
  · intro h a ha b hb hplace
    have hread := (h a ha).symm.trans ((get?_congr _ hplace).trans (h b hb))
    exact Option.some.inj hread
  · intro h a ha
    rw [get?_withFiles]
    cases hfind : assets.reverse.find? (fun b => decide
        ((directory.join (.ofString b.1)).components =
          (directory.join (.ofString a.1)).components)) with
    | none => exact absurd (List.find?_eq_none.1 hfind a (List.mem_reverse.2 ha)) (by simp)
    | some b =>
      have hplace : (directory.join (.ofString b.1)).components =
          (directory.join (.ofString a.1)).components := by
        simpa using List.find?_some hfind
      rw [h a ha b (List.mem_reverse.1 (List.mem_of_find?_eq_some hfind)) hplace.symm]
      rfl

end Memory

namespace BuildConfig

theorem isAbsolute_outputDirectory (c : BuildConfig) {cwd : Path} (hcwd : cwd.isAbsolute) :
    (c.outputDirectory cwd).isAbsolute :=
  (Path.canonical_normalize (Path.isAbsolute_join
    (Path.canonical_normalize (Path.isAbsolute_join hcwd _)).isAbsolute _)).isAbsolute

def outputPath (c : BuildConfig) (cwd : Path) (file : String) : Path :=
  (c.outputDirectory cwd).join (.ofString file)

end BuildConfig

namespace Compiler

open Build

variable {ω : Type} {c : Compiler ω} {m : Memory} {world : ω} {report : Report}
  {s : RunState Memory ω}

/-- The output files of a run that succeeds have different names. One that no later one is written
over is read back. All are read back if and only if those that go to one place have one text. With
tidy names no two go to one place. -/
theorem run_stores_assets_iff (h : c.run m world = (.ok report, s)) :
    (report.assets.map Prod.fst).Nodup ∧
    ∃ cwd, c.config.origin c.current = .ok cwd ∧
    (∀ before a after, report.assets = before ++ a :: after →
      (∀ b ∈ after, (c.config.outputPath cwd b.1).components ≠
        (c.config.outputPath cwd a.1).components) →
      s.store.get? (c.config.outputPath cwd a.1) = some a.2) ∧
    ((∀ a ∈ report.assets, s.store.get? (c.config.outputPath cwd a.1) = some a.2) ↔
      ∀ a ∈ report.assets, ∀ b ∈ report.assets, (c.config.outputPath cwd a.1).components =
        (c.config.outputPath cwd b.1).components → a.2 = b.2) ∧
    (cwd.isAbsolute → (∀ a ∈ report.assets, (Path.ofString a.1).Tidy) →
      ∀ a ∈ report.assets, s.store.get? (c.config.outputPath cwd a.1) = some a.2) := by
  obtain ⟨cwd, horigin, hcompile, rfl⟩ := state_of_run_ok h
  obtain ⟨-, _, _, -, -, hnames⟩ := BuildConfig.built_of_compile (Prod.ext hcompile rfl)
  refine ⟨hnames, cwd, horigin,
    fun before a after hassets hlast => Memory.get?_withFiles_last hassets hlast,
    Memory.get?_withFiles_all_iff, fun hcwd htidy => Memory.get?_withFiles_all_iff.2 ?_⟩
  -- tidy names that lead to one place are one name, which no two assets have
  intro a ha b hb hplace
  have hpath := Path.Tidy.eq_of_components_join_eq (c.config.isAbsolute_outputDirectory hcwd)
    (htidy a ha) (htidy b hb) hplace
  have hfile : a.1 = b.1 :=
    String.toList_injective (Utf8.encode_injective (Path.mk.inj hpath))
  rw [List.inj_on_of_nodup_map hnames ha hb hfile]

def twinConfig : BuildConfig :=
  ((BuildConfig.new (.ofString "/app")).withEntry "a" (.ofString "a.js")).withEntry "./a"
    (.ofString "b.js")

def twinFiles : Memory := .ofList [(.ofString "/app/a.js", "1;"), (.ofString "/app/b.js", "2;")]

/-- With a dot before a name, an output file is written over; with tidy names none is. -/
theorem run_stores_assets_twin :
    (∃ report s, (new twinConfig (.ok (.ofString "/")) : Compiler Unit).run twinFiles () =
        (.ok report, s) ∧ report.files = ["a.js", "./a.js"] ∧
      ¬ ∀ a ∈ report.assets,
        s.store.get? (twinConfig.outputPath (.ofString "/app") a.1) = some a.2) ∧
    ∃ report s, (new BuildConfig.sampleConfig (.ok (.ofString "/")) : Compiler Unit).run
        BuildConfig.sampleFiles () = (.ok report, s) ∧
      report.files = ["main.js", "side.js", "again.js", "lone.js"] ∧
      ∀ a ∈ report.assets,
        s.store.get? (BuildConfig.sampleConfig.outputPath (.ofString "/app") a.1) = some a.2 := by
  constructor
  · have horigin : twinConfig.origin (.ok (.ofString "/")) = .ok (.ofString "/app") :=
      if_pos (by decide)
    have heval : (twinConfig.compile (.ofString "/app") twinFiles.view).1.toOption.map
        (fun r => (r.files, decide (∃ a ∈ r.assets, ∃ b ∈ r.assets,
          (twinConfig.outputPath (.ofString "/app") a.1).components =
            (twinConfig.outputPath (.ofString "/app") b.1).components ∧ a.2 ≠ b.2))) =
        some (["a.js", "./a.js"], true) := by
      decide +kernel
    obtain ⟨report, hok, heval⟩ := BuildConfig.ok_of_toOption heval
    obtain ⟨hfiles, htwin⟩ := Prod.mk.inj heval
    obtain ⟨a, ha, b, hb, hplace, htext⟩ := of_decide_eq_true htwin
    have hrun : ((new twinConfig (.ok (.ofString "/")) : Compiler Unit).run twinFiles ()).1 =
        .ok report := by
      rw [run_fst, compile_new, BuildConfig.compileIn_of_origin horigin, hok]
    obtain ⟨s, hrun⟩ := exists_run_eq hrun
    obtain ⟨-, cwd, hcwd, -, hall, -⟩ := run_stores_assets_iff hrun
    obtain rfl := Except.ok.inj (horigin.symm.trans hcwd)
    exact ⟨report, s, hrun, hfiles, fun hread => htext (hall.1 hread a ha b hb hplace)⟩
  · have horigin : BuildConfig.sampleConfig.origin (.ok (.ofString "/")) =
        .ok (.ofString "/app") := if_pos (by decide)
    have heval : (BuildConfig.sampleConfig.compile (.ofString "/app")
        BuildConfig.sampleFiles.view).1.toOption.map (fun r =>
          (r.files, decide (∀ a ∈ r.assets, (Path.ofString a.1).Tidy))) =
        some (["main.js", "side.js", "again.js", "lone.js"], true) := by
      decide +kernel
    obtain ⟨report, hok, heval⟩ := BuildConfig.ok_of_toOption heval
    obtain ⟨hfiles, htidy⟩ := Prod.mk.inj heval
    have hrun : ((new BuildConfig.sampleConfig (.ok (.ofString "/")) : Compiler Unit).run
        BuildConfig.sampleFiles ()).1 = .ok report := by
      rw [run_fst, compile_new, BuildConfig.compileIn_of_origin horigin, hok]
    obtain ⟨s, hrun⟩ := exists_run_eq hrun
    obtain ⟨-, cwd, hcwd, -, -, hread⟩ := run_stores_assets_iff hrun
    obtain rfl := Except.ok.inj (horigin.symm.trans hcwd)
    exact ⟨report, s, hrun, hfiles, hread (by decide) (of_decide_eq_true htidy)⟩

end Compiler

end ModuleBundler
