import Mathlib.Data.List.Infix
import ModuleBundler.Config

/-! What replacing leaves of a text are the pieces between the occurrences of the pattern, with the
new text between them. So when there is an occurrence, the new text can be told from the result. -/
namespace ModuleBundler.Text

section Intercalate

variable {α : Type} {parts : List (List α)}

theorem intercalate_modifyHead_cons (a : α) (sep : List α) (h : parts ≠ []) :
    sep.intercalate (parts.modifyHead (a :: ·)) = a :: sep.intercalate parts := by
  match parts, h with
  | [first], _ => simp
  | first :: second :: more, _ => simp [List.intercalate_cons_cons]

theorem length_intercalate (parts : List (List α)) (sep : List α) :
    (sep.intercalate parts).length = parts.flatten.length + (parts.length - 1) * sep.length := by
  induction parts with
  | nil => simp
  | cons first more ih =>
    cases more with
    | nil => simp
    | cons second rest =>
      rw [List.intercalate_cons_cons, List.length_append, List.length_append, ih]
      simp only [List.flatten_cons, List.length_append, List.length_cons, Nat.add_sub_cancel,
        Nat.add_one_mul]
      omega

theorem intercalate_inj {sep sep' : List α} (h : 1 < parts.length)
    (heq : sep.intercalate parts = sep'.intercalate parts) : sep = sep' := by
  have hlength : sep.length = sep'.length := by
    have hresults := congrArg List.length heq
    rw [length_intercalate, length_intercalate] at hresults
    exact Nat.eq_of_mul_eq_mul_left (Nat.sub_pos_of_lt h) (Nat.add_left_cancel hresults)
  match parts, h with
  | first :: second :: more, _ =>
    rw [List.intercalate_cons_cons, List.intercalate_cons_cons, List.append_assoc,
      List.append_assoc] at heq
    exact List.append_inj_left (List.append_cancel_left heq) hlength

end Intercalate

/-- The pieces of all that follows the first `skip` characters, between the occurrences of the
pattern. -/
def pieces (pattern : List Char) : Nat → List Char → List (List Char)
  | 0, [] => if pattern.isEmpty then [[], []] else [[]]
  | _ + 1, [] => [[]]
  | 0, c :: rest =>
    if pattern.isEmpty then [] :: (pieces pattern 0 rest).modifyHead (c :: ·)
    else if pattern.isPrefixOf (c :: rest) then [] :: pieces pattern (pattern.length - 1) rest
    else (pieces pattern 0 rest).modifyHead (c :: ·)
  | skip + 1, _ :: rest => pieces pattern skip rest

variable {pattern : List Char}

theorem pieces_ne_nil (pattern : List Char) (skip : Nat) (text : List Char) :
    pieces pattern skip text ≠ [] := by
  fun_induction pieces pattern skip text <;> simp_all

theorem replaceFrom_eq_intercalate (pattern by_ : List Char) (skip : Nat) (text : List Char) :
    replaceFrom pattern by_ skip text = by_.intercalate (pieces pattern skip text) := by
  fun_induction pieces pattern skip text with
  | case1 hempty => simp [replaceFrom, hempty, List.intercalate_cons_cons]
  | case2 hempty => simp [replaceFrom, hempty]
  | case3 => simp [replaceFrom]
  | case4 c rest hempty ih =>
    rw [replaceFrom, if_pos hempty, ih, List.intercalate_cons_of_ne_nil (by simp [pieces_ne_nil]),
      intercalate_modifyHead_cons c by_ (pieces_ne_nil _ _ _), List.nil_append]
  | case5 c rest hempty hhere ih =>
    rw [replaceFrom, if_neg hempty, if_pos hhere, ih,
      List.intercalate_cons_of_ne_nil (pieces_ne_nil _ _ _), List.nil_append]
  | case6 c rest hempty hhere ih =>
    rw [replaceFrom, if_neg hempty, if_neg hhere, ih,
      intercalate_modifyHead_cons c by_ (pieces_ne_nil _ _ _)]
  | case7 skip c rest ih => rw [replaceFrom, ih]

theorem contains_iff_infix (pattern text : List Char) :
    contains pattern text = true ↔ pattern <:+: text := by
  induction text with
  | nil => rw [contains, List.isEmpty_iff, List.infix_nil]
  | cons c rest ih =>
    rw [contains, Bool.or_eq_true, List.isPrefixOf_iff_prefix, ih, List.infix_cons_iff]

theorem contains_iff_pieces (pattern text : List Char) :
    contains pattern text = true ↔ 1 < (pieces pattern 0 text).length := by
  induction text with
  | nil =>
    rw [contains, pieces]
    by_cases hempty : pattern.isEmpty = true <;> simp [hempty]
  | cons c rest ih =>
    have hsome (skip : Nat) : 0 < (pieces pattern skip rest).length :=
      List.length_pos_iff.2 (pieces_ne_nil _ _ _)
    rw [contains, pieces]
    by_cases hempty : pattern.isEmpty = true
    · have hhere : pattern.isPrefixOf (c :: rest) = true := by simp_all
      rw [if_pos hempty, hhere]
      simpa using hsome 0
    by_cases hhere : pattern.isPrefixOf (c :: rest) = true
    · rw [if_neg hempty, if_pos hhere, hhere]
      simpa using hsome (pattern.length - 1)
    · rw [if_neg hempty, if_neg hhere, List.length_modifyHead, ← ih]
      simp [hhere]

/-- Two texts give one result exactly when they are one, or there is nothing to replace. -/
theorem replaceFrom_eq_iff {by_ by' : List Char} (text : List Char) :
    replaceFrom pattern by_ 0 text = replaceFrom pattern by' 0 text ↔
      by_ = by' ∨ ¬ pattern <:+: text := by
  rw [replaceFrom_eq_intercalate, replaceFrom_eq_intercalate, ← contains_iff_infix,
    contains_iff_pieces]
  constructor
  · intro heq
    by_cases hmany : 1 < (pieces pattern 0 text).length
    · exact .inl (intercalate_inj hmany heq)
    · exact .inr hmany
  · rintro (rfl | hfew)
    · rfl
    · obtain ⟨only, honly⟩ : ∃ only, pieces pattern 0 text = [only] := by
        have hsome := List.length_pos_iff.2 (pieces_ne_nil pattern 0 text)
        exact List.length_eq_one_iff.1 (by omega)
      rw [honly, List.intercalate_singleton, List.intercalate_singleton]

end ModuleBundler.Text
