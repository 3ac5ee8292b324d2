import ModuleBundler.Proofs.Path.Joining

/-! The way from one path to another: up by the names that only the first has, then down by those
that only the second has. Joined to the first path it leads to the second, since each step up takes
off one of the names that were put on before; so the way tells where it leads. -/
namespace ModuleBundler.Path

open Component (IsName)

section Common

theorem afterCommon_spec (as bs : List Component) :
    ∃ common, as = common ++ (afterCommon as bs).1 ∧ bs = common ++ (afterCommon as bs).2 := by
  induction as generalizing bs with
  | nil => exact ⟨[], by simp [afterCommon]⟩
  | cons a as ih =>
    cases bs with
    | nil => exact ⟨[], by simp [afterCommon]⟩
    | cons b bs =>
      rw [afterCommon]
      split
      · next hab =>
        obtain ⟨common, has, hbs⟩ := ih bs
        exact ⟨a :: common, congrArg (a :: ·) has, by rw [hab]; exact congrArg (b :: ·) hbs⟩
      · exact ⟨[], rfl, rfl⟩

theorem afterCommon_append (as bs : List Component) : afterCommon as (as ++ bs) = ([], bs) := by
  induction as with
  | nil => simp [afterCommon]
  | cons a as ih => rw [List.cons_append, afterCommon, if_pos rfl, ih]

theorem afterCommon_fst_eq_nil {as bs : List Component} :
    (afterCommon as bs).1 = [] ↔ as <+: bs := by
  constructor
  · intro hnil
    obtain ⟨common, has, hbs⟩ := afterCommon_spec as bs
    have hcommon : common = as := by rw [has, hnil, List.append_nil]
    exact ⟨(afterCommon as bs).2, hcommon ▸ hbs.symm⟩
  · rintro ⟨more, rfl⟩
    rw [afterCommon_append]

theorem afterCommon_snd_suffix {as ds bs : List Component} (h : ds <+: as) :
    (afterCommon as (ds ++ bs)).2 <:+ bs := by
  induction ds generalizing as with
  | nil =>
    obtain ⟨common, -, hbs⟩ := afterCommon_spec as bs
    exact ⟨common, hbs.symm⟩
  | cons d ds ih =>
    obtain ⟨more, rfl⟩ := h
    rw [List.cons_append, List.cons_append, afterCommon, if_pos rfl]
    exact ih (List.prefix_append ds more)

end Common

section Stack

variable (names : List (List UInt8)) (kept : List Component)

theorem foldl_normalStep_names :
    (names.map Component.name).foldl normalStep kept =
      (names.map Component.name).reverse ++ kept := by
  induction names generalizing kept with
  | nil => rfl
  | cons n more ih =>
    rw [List.map_cons, List.foldl_cons, ih, List.reverse_cons, List.append_assoc]
    rfl

theorem foldl_normalStep_up :
    (List.replicate names.length Component.up).foldl normalStep
      (names.map Component.name ++ kept) = kept := by
  induction names with
  | nil => rfl
  | cons n more ih =>
    rw [List.length_cons, List.replicate_succ, List.foldl_cons]
    exact ih

end Stack

variable {base target other p : Path}

theorem Plain.normalComponents_eq (h : p.Plain) : normalComponents p.components = p.components := by
  obtain ⟨names, -, heq⟩ := h
  have hstack := foldl_normalStep_names names [.root]
  have hfold : (Component.root :: names.map .name).foldl normalStep [] =
      (names.map .name).reverse ++ [.root] := hstack
  rw [heq, normalComponents, hfold]
  simp

/-- Two paths share names behind the root. What follows on the first is the way up, and what follows
on the second the way down. -/
structure Way (base target : Path) (shared up down : List (List UInt8)) : Prop where
  base_eq : base.components = .root :: (shared ++ up).map .name
  target_eq : target.components = .root :: (shared ++ down).map .name
  isName : ∀ n ∈ down, IsName n
  relative_eq : relative base target =
    ofComponents (List.replicate up.length .up ++ down.map .name)
  up_eq_nil_iff : up = [] ↔ base.components <+: target.components
  down_eq : down.map .name = (afterCommon base.components target.components).2

theorem exists_way (hbase : base.Plain) (htarget : target.Plain) :
    ∃ shared up down, Way base target shared up down := by
  obtain ⟨bnames, -, hbeq⟩ := hbase
  obtain ⟨tnames, htnames, hteq⟩ := htarget
  obtain ⟨common, hup, hdown⟩ := afterCommon_spec (bnames.map Component.name) (tnames.map .name)
  have hafter : afterCommon base.components target.components =
      afterCommon (bnames.map Component.name) (tnames.map .name) := by
    rw [hbeq, hteq, afterCommon, if_pos rfl]
  obtain ⟨shared, up, rfl, hshared, hmapUp⟩ := List.map_eq_append_iff.1 hup
  obtain ⟨shared', down, rfl, hshared', hmapDown⟩ := List.map_eq_append_iff.1 hdown
  have hsame : shared' = shared :=
    List.map_injective_iff.2 (fun _ _ => Component.name.inj) (hshared'.trans hshared.symm)
  subst hsame
  refine ⟨shared', up, down, hbeq, hteq, fun n hn => htnames n (List.mem_append_right _ hn), ?_, ?_,
    hmapDown.trans (congrArg Prod.snd hafter.symm)⟩
  · have hrelative : relative base target = ofComponents
        ((afterCommon base.components target.components).1.map (fun _ => Component.up) ++
          (afterCommon base.components target.components).2) := rfl
    rw [hrelative, hafter, ← hmapUp, ← hmapDown, List.map_map, ← List.map_const']
    rfl
  · rw [← afterCommon_fst_eq_nil, hafter, ← hmapUp, List.map_eq_nil_iff]

namespace Way

variable {shared up down : List (List UInt8)}

theorem steps (h : Way base target shared up down) :
    ∀ c ∈ List.replicate up.length Component.up ++ down.map .name,
      c = .up ∨ ∃ n, IsName n ∧ c = .name n := by
  intro c hc
  rcases List.mem_append.1 hc with hc | hc
  · exact .inl (List.eq_of_mem_replicate hc)
  · obtain ⟨n, hn, rfl⟩ := List.mem_map.1 hc
    exact .inr ⟨n, h.isName n hn, rfl⟩

theorem components_relative (h : Way base target shared up down) :
    (relative base target).components = List.replicate up.length .up ++ down.map .name := by
  rw [h.relative_eq]
  exact components_ofComponents h.steps

theorem isAbsolute_relative (h : Way base target shared up down) :
    (relative base target).isAbsolute = false := by
  rw [h.relative_eq]
  exact isAbsolute_ofComponents h.steps

theorem parts_relative (h : Way base target shared up down) :
    (relative base target).parts = (relative base target).components := by
  rw [h.components_relative, h.relative_eq]
  exact parts_ofComponents h.steps

theorem normalComponents_eq (h : Way base target shared up down) :
    normalComponents (base.components ++ (relative base target).components) =
      target.components := by
  have hdown := foldl_normalStep_names down ((shared.map .name).reverse ++ [.root])
  have hup := foldl_normalStep_up up.reverse ((shared.map .name).reverse ++ [.root])
  have hbase := foldl_normalStep_names (shared ++ up) [.root]
  have hstack : (Component.root :: (shared ++ up).map .name).foldl normalStep [] =
      up.reverse.map .name ++ ((shared.map .name).reverse ++ [.root]) := by
    rw [List.map_append, List.reverse_append, List.append_assoc, ← List.map_reverse] at hbase
    exact List.map_append ▸ hbase
  rw [List.length_reverse] at hup
  rw [h.components_relative, h.base_eq, h.target_eq, normalComponents, List.foldl_append,
    List.foldl_append, hstack, hup, hdown]
  simp

end Way

section RoundTrip

theorem normalComponents_relative (hbase : base.Plain) (htarget : target.Plain) :
    normalComponents (base.components ++ (relative base target).components) =
      target.components := by
  obtain ⟨shared, up, down, hway⟩ := exists_way hbase htarget
  exact hway.normalComponents_eq

/-- Any path that is made of the way leads to where the way leads. -/
theorem normalize_join_way (hbase : base.Plain) (htarget : target.Plain)
    (hp : p.isAbsolute = false) (hparts : p.parts = (relative base target).components) :
    (base.join p).normalize = target.normalize := by
  refine normalize_congr ?_
  rw [normalComponents_join base hp, hparts, normalComponents_relative hbase htarget,
    htarget.normalComponents_eq]

theorem normalize_join_relative (hbase : base.Plain) (htarget : target.Plain) :
    (base.join (relative base target)).normalize = target.normalize := by
  obtain ⟨shared, up, down, hway⟩ := exists_way hbase htarget
  exact normalize_join_way hbase htarget hway.isAbsolute_relative hway.parts_relative

theorem relative_injective (hbase : base.Plain) (htarget : target.Plain) (hother : other.Plain)
    (h : (relative base other).components = (relative base target).components) :
    other.components = target.components := by
  rw [← normalComponents_relative hbase hother, h, normalComponents_relative hbase htarget]

end RoundTrip

end ModuleBundler.Path
