import ModuleBundler.Keyed
import ModuleBundler.Proofs.Json.Written

/-! Values as documents: how they are written, and how they are had from a document again. Lists
and records are put together from what they hold, so that a value of many layers is read back from
its text by what is known of each layer. -/
namespace ModuleBundler.Json

/-- A way to write values as documents, those that can be written, and to have them from a document.
At most `depth` lists and objects lie in one another. -/
structure Codec (α : Type) where
  json? : α → Option Json
  ofJson? : Json → Option α
  depth : Nat
  within_of_json? : ∀ {a v}, json? a = some v → Within Reader.Exact (depth + 1) v
  ofJson?_of_json? : ∀ {a v}, json? a = some v → ofJson? v = some a

namespace Codec

variable {α β γ : Type}

theorem within {depth : Nat} {a : α} {v : Json} (c : Codec α) (hdepth : c.depth ≤ depth)
    (h : c.json? a = some v) : Within Reader.Exact (depth + 1) v :=
  (c.within_of_json? h).mono (Nat.succ_le_succ hdepth)

theorem within_record {depth : Nat} {members : List (String × Json)}
    (h : members.Forall fun m => Within Reader.Exact (depth + 1) m.2) :
    Within Reader.Exact (depth + 2) (.object members) :=
  .object (Nat.succ_ne_zero depth) (List.forall_iff_forall_mem.1 h)

section Text

variable (c : Codec α) (hdepth : c.depth ≤ maxNesting) {a b : α} {v w : Json}

include hdepth

/-- The document of a value is read back from its text. -/
theorem parse_prettyText (h : c.json? a = some v) : parse v.prettyText = .ok v := by
  rw [prettyText, ← written_spread 0]
  exact parse_written (c.within hdepth h) spread

theorem eq_of_prettyText_eq (hv : c.json? a = some v) (hw : c.json? b = some w)
    (htext : v.prettyText = w.prettyText) : a = b := by
  have hparse := congrArg parse htext
  rw [c.parse_prettyText hdepth hv, c.parse_prettyText hdepth hw] at hparse
  obtain rfl := Except.ok.inj hparse
  exact Option.some.inj ((c.ofJson?_of_json? hv).symm.trans (c.ofJson?_of_json? hw))

end Text

section Items

variable {f : β → Option γ} {bs : List β} {cs : List γ}

theorem mapM_eq_some : bs.mapM f = some cs ↔ List.Forall₂ (fun b c => f b = some c) bs cs := by
  induction bs generalizing cs with
  | nil => cases cs <;> simp
  | cons b more ih => cases cs <;> simp [← ih, Option.bind_eq_some_iff]

theorem isSome_mapM : (bs.mapM f).isSome ↔ ∀ b ∈ bs, (f b).isSome := by
  induction bs with
  | nil => simp
  | cons b more ih =>
    rw [List.forall_mem_cons, ← ih, List.mapM_cons]
    cases f b <;> cases more.mapM f <;> simp

theorem mapM_of_mapM {read : γ → Option β} (hread : ∀ b c, f b = some c → read c = some b)
    (h : bs.mapM f = some cs) : cs.mapM read = some bs :=
  mapM_eq_some.2 ((mapM_eq_some.1 h).imp hread).flip

theorem exists_of_mem_mapM (h : bs.mapM f = some cs) {c : γ} (hc : c ∈ cs) :
    ∃ b ∈ bs, f b = some c := by
  induction mapM_eq_some.1 h with
  | nil => cases hc
  | @cons b c' bs cs hbc hmore ih =>
    rcases List.mem_cons.1 hc with rfl | hc
    · exact ⟨b, List.mem_cons_self, hbc⟩
    · obtain ⟨b', hb', hbc'⟩ := ih (mapM_eq_some.2 hmore) hc
      exact ⟨b', List.mem_cons_of_mem _ hb', hbc'⟩

def string : Codec String where
  json? s := some (.string s)
  ofJson?
    | .string s => some s
    | _ => none
  depth := 0
  within_of_json? h := Option.some.inj h ▸ .string 0 _
  ofJson?_of_json? h := Option.some.inj h ▸ rfl

@[simp] theorem ofJson?_string (s : String) : string.ofJson? (.string s) = some s := rfl

def list (c : Codec α) : Codec (List α) where
  json? as := (as.mapM c.json?).map .array
  ofJson?
    | .array items => items.mapM c.ofJson?
    | _ => none
  depth := c.depth + 1
  within_of_json? h := by
    obtain ⟨items, hitems, rfl⟩ := Option.map_eq_some_iff.1 h
    refine .array (Nat.succ_ne_zero _) fun v hv => ?_
    obtain ⟨a, -, ha⟩ := exists_of_mem_mapM hitems hv
    exact c.within_of_json? ha
  ofJson?_of_json? h := by
    obtain ⟨items, hitems, rfl⟩ := Option.map_eq_some_iff.1 h
    exact mapM_of_mapM (fun _ _ => c.ofJson?_of_json?) hitems

theorem json?_list {c : Codec α} {write : α → Json} (h : ∀ a, c.json? a = some (write a))
    (as : List α) : c.list.json? as = some (.array (as.map write)) := by
  have hitems : as.mapM c.json? = some (as.map write) := by
    rw [funext h]
    exact List.mapM_pure
  exact congrArg (Option.map array) hitems

/-- Values with names, which stand in an object in their order. -/
def named (c : Codec α) : Codec (List (String × α)) where
  json? pairs := (pairs.mapM fun p => (c.json? p.2).map (p.1, ·)).map .object
  ofJson?
    | .object members => members.mapM fun m => (c.ofJson? m.2).map (m.1, ·)
    | _ => none
  depth := c.depth + 1
  within_of_json? h := by
    obtain ⟨members, hmembers, rfl⟩ := Option.map_eq_some_iff.1 h
    refine .object (Nat.succ_ne_zero _) fun m hm => ?_
    obtain ⟨p, -, hp⟩ := exists_of_mem_mapM hmembers hm
    obtain ⟨v, hv, rfl⟩ := Option.map_eq_some_iff.1 hp
    exact c.within_of_json? hv
  ofJson?_of_json? h := by
    obtain ⟨members, hmembers, rfl⟩ := Option.map_eq_some_iff.1 h
    refine mapM_of_mapM (fun p m hp => ?_) hmembers
    obtain ⟨v, hv, rfl⟩ := Option.map_eq_some_iff.1 hp
    rw [c.ofJson?_of_json? hv, Option.map_some]

theorem json?_named {c : Codec α} {write : α → Json} (h : ∀ a, c.json? a = some (write a))
    (pairs : List (String × α)) :
    c.named.json? pairs = some (.object (pairs.map fun p => (p.1, write p.2))) := by
  have hmembers : pairs.mapM (fun p => (c.json? p.2).map (p.1, ·)) =
      some (pairs.map fun p => (p.1, write p.2)) := by
    simp only [h, Option.map_some]
    exact List.mapM_pure
  exact congrArg (Option.map object) hmembers

def member? (c : Codec α) (key : String) : Json → Option α
  | .object members => (Keyed.get? key members).bind c.ofJson?
  | _ => none

end Items

end Codec

end ModuleBundler.Json
