import ModuleBundler.Proofs.Build.Access
import ModuleBundler.Proofs.Compile.Record
import ModuleBundler.Proofs.Compile.Termination

/-! A compilation depends on no file that it does not look at: over other files that agree with
these on what it looked at, it comes to the same, whether it succeeds or fails. -/
namespace ModuleBundler

open Build

theorem Memory.agreeOn_view {F G : Memory} {paths : List Path}
    (h : ∀ path ∈ paths, G.get? path = F.get? path) : F.view.AgreeOn G.view paths := by
  intro path hpath
  have hget := h path hpath
  refine ⟨?_, ?_⟩
  · show G.read path = F.read path
    rw [Memory.read, Memory.read, hget]
  · show (G.get? path).isSome = (F.get? path).isSome
    rw [hget]

namespace BuildConfig

variable {c : BuildConfig} {cwd : Path} {F G : Memory} {p q : Progress}

section Entries

variable {r : Except BuildError (List Entry)}

theorem buildModule_agree {entry : String} {path : Path} {r : Except BuildError Unit}
    (h : outcome ((c.sources cwd F.view).buildModule entry ((c.sources cwd F.view).bound + 1) path)
      p = (r, q)) :
    p.looked <+: q.looked ∧ (F.view.AgreeOn G.view q.looked →
      outcome ((c.sources cwd G.view).buildModule entry ((c.sources cwd G.view).bound + 1) path)
        p = (r, q)) := by
  have hvisits := visits_iff_outcome.2 h
  exact ⟨hvisits.looked_prefix, fun hagree => visits_iff_outcome.1 (hvisits.withFiles hagree)⟩

theorem buildEntries_agree {es : List (String × Path)}
    (h : outcome (es.mapM (c.sources cwd F.view).buildEntry) p = (r, q)) :
    p.looked <+: q.looked ∧ (F.view.AgreeOn G.view q.looked →
      outcome (es.mapM (c.sources cwd G.view).buildEntry) p = (r, q)) := by
  induction es generalizing p r with
  | nil =>
    cases h
    exact ⟨List.prefix_refl _, fun _ => rfl⟩
  | cons e more ih =>
    obtain ⟨err, hbuild, rfl⟩ | ⟨p', rest, hbuild, hmore, rfl⟩ := Sources.buildEntries_cases h
    · obtain ⟨hlooked, hother⟩ := buildModule_agree (G := G) hbuild
      exact ⟨hlooked, fun hagree => Sources.outcome_buildEntries_error (hother hagree)⟩
    · obtain ⟨hlooked, hother⟩ := buildModule_agree (G := G) hbuild
      obtain ⟨hlooked', hother'⟩ := ih hmore
      refine ⟨hlooked.trans hlooked', fun hagree => ?_⟩
      -- what the first entry looked at is a part of what was looked at in the end
      have hfirst := hother (hagree.mono hlooked'.subset)
      exact Sources.outcome_buildEntries_ok hfirst (hother' hagree)

end Entries

/-- A compilation over other files ends as it does over these, with the same report or the same
error, if the other files agree with these on every path that it looked at here. -/
theorem compile_eq_of_agree
    (h : ∀ path ∈ (c.compile cwd F.view).2.looked, G.get? path = F.get? path) :
    c.compile cwd G.view = c.compile cwd F.view := by
  by_cases hne : c.entries = []
  · rw [compile_of_empty hne, compile_of_empty hne]
  rcases hbuild : outcome (c.buildEntries cwd F.view) (c.begun cwd) with ⟨r, q⟩
  have halike := (alike_compile hne hbuild).1
  rw [halike.looked_eq] at h
  have hother : outcome (c.buildEntries cwd G.view) (c.begun cwd) = (r, q) := by
    rw [buildEntries_eq] at hbuild ⊢
    exact (buildEntries_agree hbuild).2 (Memory.agreeOn_view h)
  rw [compile_eq hne, compile_eq hne, outcome_bind, outcome_bind, outcome_timed hother,
    outcome_timed hbuild]

/-- The project does not ask for the new file, which is no script. -/
theorem compile_eq_of_agree_sample :
    sampleConfig.compile (.ofString "/")
        (sampleFiles.insert (.ofString "/app/notes.js") "require('./a").view =
      sampleConfig.compile (.ofString "/") sampleFiles.view := by
  have hnew : ∀ path ∈ (sampleConfig.compile (.ofString "/") sampleFiles.view).2.looked,
      path.components ≠ (Path.ofString "/app/notes.js").components := by
    decide +kernel
  refine compile_eq_of_agree fun path hpath => ?_
  rw [Memory.get?_insert, if_neg (hnew path hpath)]

end BuildConfig

end ModuleBundler
