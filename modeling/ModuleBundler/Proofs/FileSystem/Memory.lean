import Mathlib.Data.Finset.Card
import ModuleBundler.FileSystem.Memory

/-! What a memory tells after a history of calls. It is a map from the components of paths: a path
is read as it was last written under any of its spellings, and directories are those that were made
and those above a file. An ordered map with whole paths as its keys tells the same, since the order
of paths by their components takes just the spellings of one path for equal. -/
namespace ModuleBundler

section Order

/-- Components in their order: the root, the dot, the step up, and names by their bytes. -/
def Component.rank : Component → List Nat
  | root => [0]
  | here => [1]
  | up => [2]
  | name bs => 3 :: bs.map UInt8.toNat

theorem Component.rank_injective : Function.Injective Component.rank := by
  intro c d h
  cases c <;> cases d <;> simp only [rank, List.cons.injEq, reduceCtorEq, Nat.reduceEqDiff,
    false_and, true_and, and_true] at h ⊢
  next bs bs' => exact congrArg name (List.map_injective_iff.2 (fun _ _ => UInt8.toNat_inj.1) h)

def Path.order : Path → Path → Ordering := compareOn fun p => p.components.map Component.rank

instance : Std.TransCmp Path.order := inferInstanceAs (Std.TransCmp (compareOn _))

theorem Path.order_eq_iff {p q : Path} :
    Path.order p q = .eq ↔ p.components = q.components := by
  have hcompare : Path.order p q =
      compare (p.components.map Component.rank) (q.components.map Component.rank) := rfl
  rw [hcompare, Std.compare_eq_iff_eq]
  exact (List.map_injective_iff.2 Component.rank_injective).eq_iff

end Order

inductive MemoryCall where
  | insert (path : Path) (text : String)
  | write (path : Path) (text : String)
  | createDirectory (path : Path)

namespace MemoryCall

def on (m : Memory) : MemoryCall → Memory
  | insert path text => m.insert path text
  | write path text => (FileSystem.write path text m).2
  | createDirectory path => (FileSystem.createDirectory path m).2

def file? : MemoryCall → Option (Path × String)
  | insert path text | write path text => some (path, text)
  | createDirectory _ => none

def directory? : MemoryCall → Option Path
  | insert .. | write .. => none
  | createDirectory path => some path

def written (calls : List MemoryCall) : List (Path × String) := calls.filterMap file?

def made (calls : List MemoryCall) : List Path := calls.filterMap directory?

/-- The files of calls in an ordered map, one put in after the other. -/
def ordered (calls : List MemoryCall) : Std.TreeMap Path String Path.order :=
  (written calls).foldl (fun map f => map.insert f.1 f.2) ∅

end MemoryCall

namespace Memory

open MemoryCall (written made ordered)

/-- The memory after calls, the first of which starts from an empty one. -/
def after (calls : List MemoryCall) : Memory := calls.foldl MemoryCall.on empty

variable (calls : List MemoryCall) (p : Path)

theorem files_after : (after calls).files =
    Keyed.ofPairs ((written calls).map fun f => (f.1.components, f.2)) := by
  rw [Keyed.ofPairs, List.foldl_map, written, List.foldl_filterMap]
  exact (List.foldl_hom Memory.files fun m c => by cases c <;> rfl).symm

theorem directories_after : (after calls).directories =
    ((made calls).map Path.components).foldl (fun ds d => Keyed.addNew d ds) [] := by
  rw [List.foldl_map, made, List.foldl_filterMap]
  exact (List.foldl_hom Memory.directories fun m c => by cases c <;> rfl).symm

theorem get?_after : (after calls).get? p =
    ((written calls).reverse.find? fun f => f.1.components = p.components).map Prod.snd := by
  rw [get?, files_after, Keyed.ofPairs, Keyed.get?_foldl_put, ← List.map_reverse, List.find?_map,
    Option.map_map]
  exact Option.or_none

theorem get?_after_eq_some {text : String} : (after calls).get? p = some text ↔
    ∃ before q later, written calls = before ++ (q, text) :: later ∧
      q.components = p.components ∧ ∀ f ∈ later, f.1.components ≠ p.components := by
  rw [get?_after, Option.map_eq_some_iff]
  constructor
  · rintro ⟨⟨q, t⟩, hfind, rfl⟩
    obtain ⟨hplace, later, before, hfiles, hlater⟩ := List.find?_eq_some_iff_append.1 hfind
    refine ⟨before.reverse, q, later.reverse, ?_, by simpa using hplace, fun f hf => ?_⟩
    · rw [← List.reverse_reverse (written calls), hfiles]
      simp
    · simpa using hlater f (List.mem_reverse.1 hf)
  · rintro ⟨before, q, later, hfiles, hplace, hlater⟩
    refine ⟨(q, text), List.find?_eq_some_iff_append.2 ⟨by simpa using hplace, later.reverse,
      before.reverse, ?_, fun f hf => ?_⟩, rfl⟩
    · rw [hfiles]
      simp
    · simpa using hlater f (List.mem_reverse.1 hf)

theorem get?_after_eq_none : (after calls).get? p = none ↔
    ∀ f ∈ written calls, f.1.components ≠ p.components := by
  rw [get?_after, Option.map_eq_none_iff, List.find?_eq_none]
  simp

theorem readModule_eq_ok {m : Memory} {text : String} :
    (FileSystem.files m).readModule p = .ok text ↔ m.get? p = some text := by
  show m.view.readModule p = .ok text ↔ _
  unfold Files.readModule view read
  cases hget : m.get? p <;> simp [hget]

theorem readModule_eq_error {m : Memory} :
    (FileSystem.files m).readModule p = .error (.io p .noSuchFile) ↔ m.get? p = none := by
  show m.view.readModule p = .error (.io p .noSuchFile) ↔ _
  unfold Files.readModule view read
  cases hget : m.get? p <;> simp [hget]

theorem fileCount_after : (after calls).fileCount =
    ((written calls).map fun f => f.1.components).toFinset.card := by
  have hkeys : ((after calls).files.map Prod.fst).Nodup := by
    rw [files_after]
    exact Keyed.nodup_ofPairs _
  have hmem : ((written calls).map fun f => f.1.components).toFinset =
      ((after calls).files.map Prod.fst).toFinset := by
    ext place
    rw [List.mem_toFinset, List.mem_toFinset, files_after, Keyed.mem_map_fst_ofPairs, List.map_map]
    rfl
  rw [hmem, List.toFinset_card_of_nodup hkeys, List.length_map]
  rfl

theorem isAbove_iff {above below : List Component} :
    isAbove above below = true ↔ above <+: below ∧ above ≠ below := by
  rw [isAbove, Bool.and_eq_true, List.isPrefixOf_iff_prefix, decide_eq_true_iff]

theorem directoryExists_after : (after calls).directoryExists p = true ↔
    (∃ d ∈ made calls, d.components = p.components) ∨
      ∃ f ∈ written calls, p.components <+: f.1.components ∧ p.components ≠ f.1.components := by
  have hmade : (after calls).directories.contains p.components = true ↔
      ∃ d ∈ made calls, d.components = p.components := by
    rw [List.contains_iff_mem, directories_after, Keyed.mem_foldl_addNew]
    simp
  have habove : ((after calls).files.any fun f => isAbove p.components f.1) = true ↔
      ∃ f ∈ written calls, p.components <+: f.1.components ∧ p.components ≠ f.1.components := by
    have hplaces : ∀ place, place ∈ (after calls).files.map Prod.fst ↔
        ∃ f ∈ written calls, f.1.components = place := by
      intro place
      rw [files_after, Keyed.mem_map_fst_ofPairs, List.map_map, List.mem_map]
      rfl
    calc ((after calls).files.any fun f => isAbove p.components f.1) = true
      _ ↔ ∃ place ∈ (after calls).files.map Prod.fst, isAbove p.components place = true := by simp
      _ ↔ ∃ f ∈ written calls, isAbove p.components f.1.components = true := by
        constructor
        · rintro ⟨place, hplace, habove⟩
          obtain ⟨f, hf, rfl⟩ := (hplaces place).1 hplace
          exact ⟨f, hf, habove⟩
        · rintro ⟨f, hf, habove⟩
          exact ⟨f.1.components, (hplaces _).2 ⟨f, hf, rfl⟩, habove⟩
      _ ↔ _ := by simp only [isAbove_iff]
  rw [directoryExists, Bool.or_eq_true, hmade, habove]

section Ordered

/-- An ordered map tells the same as a map from components. -/
structure Keeps (map : Std.TreeMap Path String Path.order)
    (files : List (List Component × String)) : Prop where
  getElem?_eq : ∀ p : Path, map[p]? = Keyed.get? p.components files
  size_eq : map.size = files.length

variable {map : Std.TreeMap Path String Path.order} {files : List (List Component × String)}

theorem Keeps.contains_iff (h : Keeps map files) (p : Path) :
    map.contains p = true ↔ p.components ∈ files.map Prod.fst := by
  rw [Std.TreeMap.contains_iff_mem, Std.TreeMap.mem_iff_isSome_getElem?, h.getElem?_eq,
    Keyed.get?_isSome]

theorem Keeps.insert (h : Keeps map files) (p : Path) (text : String) :
    Keeps (map.insert p text) (Keyed.put p.components text files) where
  getElem?_eq q := by
    rw [Std.TreeMap.getElem?_insert, Keyed.get?_put, h.getElem?_eq]
    by_cases hplace : p.components = q.components
    · rw [if_pos (Path.order_eq_iff.2 hplace), if_pos hplace.symm]
    · rw [if_neg (mt Path.order_eq_iff.1 hplace), if_neg (Ne.symm hplace)]
  size_eq := by
    rw [Std.TreeMap.size_insert, Keyed.length_put, h.size_eq]
    by_cases hmem : p.components ∈ files.map Prod.fst
    · rw [if_pos ((h.contains_iff p).2 hmem), if_pos hmem]
    · rw [if_neg (mt (h.contains_iff p).1 hmem), if_neg hmem]

theorem keeps_ordered : Keeps (ordered calls) (after calls).files := by
  have key : ∀ (fs : List (Path × String)) (map : Std.TreeMap Path String Path.order)
      (files : List (List Component × String)), Keeps map files →
      Keeps (fs.foldl (fun map f => map.insert f.1 f.2) map)
        (fs.foldl (fun files f => Keyed.put f.1.components f.2 files) files) := by
    intro fs
    induction fs with
    | nil => exact fun _ _ h => h
    | cons f more ih => exact fun map files h => ih _ _ (h.insert f.1 f.2)
  rw [files_after, Keyed.ofPairs, List.foldl_map]
  exact key (written calls) ∅ [] ⟨fun _ => Std.TreeMap.getElem?_emptyc, Std.TreeMap.size_emptyc⟩

end Ordered

/-- What a memory tells about a path, by the calls that it has had. A path is read as it was last
written, in whatever spelling, and it is an error on that path if it never was; it is a file just if
it can be read. There are as many files as places were written, and the directories are those that
were made and those above a file. An ordered map of paths tells the same of the files. -/
theorem memory_tells_history :
    (∀ text, (FileSystem.files (after calls)).readModule p = .ok text ↔
        ∃ before q later, written calls = before ++ (q, text) :: later ∧
          q.components = p.components ∧ ∀ f ∈ later, f.1.components ≠ p.components) ∧
      ((FileSystem.files (after calls)).readModule p = .error (.io p .noSuchFile) ↔
        ∀ f ∈ written calls, f.1.components ≠ p.components) ∧
      ((FileSystem.files (after calls)).isFile p = true ↔
        ∃ text, (FileSystem.files (after calls)).readModule p = .ok text) ∧
      (FileSystem.files (after calls)).count =
        ((written calls).map fun f => f.1.components).toFinset.card ∧
      (FileSystem.isDirectory (after calls) p = true ↔
        (∃ d ∈ made calls, d.components = p.components) ∨
          ∃ f ∈ written calls, p.components <+: f.1.components ∧
            p.components ≠ f.1.components) ∧
      (ordered calls)[p]? = (after calls).get? p ∧
      (ordered calls).size = (FileSystem.files (after calls)).count := by
  have hkeeps := keeps_ordered calls
  refine ⟨fun text => ?_, ?_, ?_, fileCount_after calls, directoryExists_after calls p,
    hkeeps.getElem?_eq p, hkeeps.size_eq⟩
  · rw [readModule_eq_ok, get?_after_eq_some]
  · rw [readModule_eq_error, get?_after_eq_none]
  · simp only [readModule_eq_ok]
    exact Option.isSome_iff_exists

/-- One file under two spellings, beside one whose step up is kept. -/
example : (after [.insert (.ofString "/app//a.js") "1", .write (.ofString "/app/./a.js/") "2",
    .write (.ofString "/app/x/../a.js") "3"]).files =
      [((Path.ofString "/app/a.js").components, "2"),
        ((Path.ofString "/app/x/../a.js").components, "3")] := by
  decide

end Memory

end ModuleBundler
