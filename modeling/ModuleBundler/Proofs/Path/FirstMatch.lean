import ModuleBundler.Keyed
import ModuleBundler.Proofs.Path.Joining
import ModuleBundler.Proofs.Path.Resolve

/-! What a resolver finds, told from its extensions as they are configured. The endings that it
tries are the extensions without the empty one and without repetitions, behind the empty ending; a
repetition is never the first match, so the first match among the endings is the first among the
extensions. -/
namespace ModuleBundler

namespace Resolver

open ModuleBundler.Path

theorem addProbe_eq {probes : List String} (h : "" ∈ probes) (e : String) :
    addProbe probes e = Keyed.addNew e probes := by
  by_cases he : e ∈ probes
  · rw [Keyed.addNew_of_mem he, addProbe, if_pos (by simp [he])]
  · have hne : e ≠ "" := fun heq => he (heq ▸ h)
    rw [Keyed.addNew_of_not_mem he, addProbe, if_neg (by simp [he, hne])]

theorem foldl_addProbe_eq {probes : List String} (h : "" ∈ probes) (extensions : List String) :
    extensions.foldl addProbe probes =
      extensions.foldl (fun probes e => Keyed.addNew e probes) probes := by
  induction extensions generalizing probes with
  | nil => rfl
  | cons e more ih =>
    rw [List.foldl_cons, List.foldl_cons, addProbe_eq h, ih (Keyed.mem_addNew.2 (.inl h))]

theorem probes_eq (extensions : List String) : (ofExtensions extensions).probes =
    extensions.foldl (fun probes e => Keyed.addNew e probes) [""] :=
  foldl_addProbe_eq List.mem_cons_self extensions

theorem ofExtensions_drop {before : List String} {e : String} (h : e = "" ∨ e ∈ before)
    (after : List String) :
    ofExtensions (before ++ e :: after) = ofExtensions (before ++ after) := by
  have hmem : e ∈ before.foldl (fun probes e => Keyed.addNew e probes) [""] :=
    Keyed.mem_foldl_addNew.2 (h.imp_left List.mem_singleton.2)
  have hprobes : (ofExtensions (before ++ e :: after)).probes =
      (ofExtensions (before ++ after)).probes := by
    rw [probes_eq, probes_eq, List.foldl_append, List.foldl_append, List.foldl_cons,
      Keyed.addNew_of_mem hmem]
  exact congrArg Resolver.mk hprobes

theorem find?_attempts (extensions : List String) (isFile : Path → Bool) (specifier : String)
    (directory : Path) :
    ((ofExtensions extensions).attempts specifier directory).find? isFile =
      if isFile (candidate specifier directory) then some (candidate specifier directory)
      else (extensions.find? fun e => isFile (withEnding (candidate specifier directory) e)).map
        (withEnding (candidate specifier directory)) := by
  rw [attempts, List.find?_map, probes_eq, Keyed.find?_foldl_addNew, List.singleton_append]
  by_cases h : isFile (candidate specifier directory) = true
  · rw [if_pos h, List.find?_cons_of_pos (by simpa [withEnding_empty] using h), Option.map_some,
      withEnding_empty]
  · rw [if_neg h, List.find?_cons_of_neg (by simpa [withEnding_empty] using h)]
    rfl

theorem candidate_normalize (specifier : String) (directory : Path) :
    candidate specifier directory.normalize = candidate specifier directory :=
  normalize_join_normalize directory (.ofString specifier)

/-- A specifier means the path that it gives from the directory, if that is a file, and else this
path with the first extension of the list with which it is one. Extensions that are empty or
repeated count for nothing, and the directory counts only for what it is when normalized. -/
theorem resolve_first_match (extensions : List String) (isFile : Path → Bool) (specifier : String)
    (directory : Path) :
    ((ofExtensions extensions).resolve isFile specifier directory).1 =
      (let path := (directory.join (.ofString specifier)).normalize
      if isFile path then .ok path
      else match extensions.find? fun e => isFile (withEnding path e) with
        | some e => .ok (withEnding path e)
        | none => .error (.resolution specifier directory)) ∧
    (∀ before e middle after, ofExtensions (before ++ e :: (middle ++ e :: after)) =
      ofExtensions (before ++ e :: (middle ++ after))) ∧
    (∀ before after, ofExtensions (before ++ "" :: after) = ofExtensions (before ++ after)) ∧
    ((ofExtensions extensions).resolve isFile specifier directory.normalize).1.toOption =
      ((ofExtensions extensions).resolve isFile specifier directory).1.toOption := by
  refine ⟨?_, fun before e middle after => ?_, fun before after => ?_, ?_⟩
  · rw [resolve_eq, find?_attempts, candidate]
    by_cases h : isFile (directory.join (.ofString specifier)).normalize = true
    · simp only [if_pos h]
    · simp only [if_neg h]
      cases extensions.find? _ <;> rfl
  · have hmem : e ∈ before ++ e :: middle := List.mem_append_right _ List.mem_cons_self
    simpa using ofExtensions_drop (.inr hmem) after
  · exact ofExtensions_drop (.inl rfl) after
  · rw [resolve_eq, resolve_eq, attempts, attempts, candidate_normalize]
    cases ((ofExtensions extensions).probes.map
      (withEnding (candidate specifier directory))).find? isFile <;> rfl

end Resolver

end ModuleBundler
