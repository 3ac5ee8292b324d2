import Mathlib.Algebra.Order.Field.Power
import Mathlib.Data.Rat.Cast.Order
import Mathlib.Tactic.NormNum
import ModuleBundler.Decimal.Shortest

/-! The texts of numbers. A number is written as digits without a leading zero, then perhaps a point
with digits behind it, then perhaps a power of ten. -/
namespace ModuleBundler.Decimal

section Digits

def Digits (text : List Char) : Prop := ∀ c ∈ text, c.isDigit = true

/-- The digits of a whole number, of which the first is zero only for zero itself. -/
inductive Whole : List Char → Prop
  | zero : Whole ['0']
  | leading (c : Char) (more : List Char) (hc : c ≠ '0') (hdigits : Digits (c :: more)) :
    Whole (c :: more)

inductive Fraction : List Char → Prop
  | absent : Fraction []
  | point (ds : List Char) (hne : ds ≠ []) (hdigits : Digits ds) : Fraction ('.' :: ds)

inductive Power : List Char → Prop
  | absent : Power []
  | mark (sign : Char) (ds : List Char) (hsign : sign = '+' ∨ sign = '-') (hne : ds ≠ [])
    (hdigits : Digits ds) : Power ('e' :: sign :: ds)

def Numeric (text : List Char) : Prop :=
  ∃ whole fraction power, text = whole ++ (fraction ++ power) ∧
    Whole whole ∧ Fraction fraction ∧ Power power

theorem Whole.digits {text : List Char} (h : Whole text) : Digits text := by
  cases h with
  | zero => simp [Digits]
  | leading c more hc hdigits => exact hdigits

theorem Whole.numeric {text : List Char} (h : Whole text) : Numeric text :=
  ⟨text, [], [], by simp, h, .absent, .absent⟩

theorem Numeric.exists_cons {text : List Char} (h : Numeric text) :
    ∃ c more, text = c :: more ∧ c.isDigit = true := by
  obtain ⟨whole, fraction, power, rfl, hwhole, -, -⟩ := h
  cases hwhole with
  | zero => exact ⟨'0', _, rfl, rfl⟩
  | leading c more hc hdigits => exact ⟨c, _, rfl, hdigits c List.mem_cons_self⟩

theorem digits_toDigits (n : Nat) : Digits (Nat.toDigits 10 n) :=
  fun _ hc => Nat.isDigit_of_mem_toDigits (by decide) (by decide) hc

theorem exists_toDigits_eq_cons {n : Nat} (h : n ≠ 0) :
    ∃ c more, Nat.toDigits 10 n = c :: more ∧ c ≠ '0' := by
  induction n using Nat.strong_induction_on with
  | _ n ih =>
    rcases Nat.lt_or_ge n 10 with hsmall | hlarge
    · exact ⟨_, _, Nat.toDigits_of_lt_base hsmall, by simpa using h⟩
    · obtain ⟨c, more, hdigits, hc⟩ := ih (n / 10) (by omega) (by omega)
      refine ⟨c, more ++ [(n % 10).digitChar], ?_, hc⟩
      rw [Nat.toDigits_of_base_le (by decide) hlarge, hdigits, List.cons_append]

theorem whole_toDigits (n : Nat) : Whole (Nat.toDigits 10 n) := by
  rcases eq_or_ne n 0 with rfl | hn
  · exact .zero
  · obtain ⟨c, more, hdigits, hc⟩ := exists_toDigits_eq_cons hn
    rw [hdigits]
    exact .leading c more hc (hdigits ▸ digits_toDigits n)

end Digits

section Shortest

def Reaches (num den : Nat) (e : Int) : Prop := (den : ℚ) * 10 ^ e ≤ num

theorem Reaches.mono {num den : Nat} {e e' : Int} (h : Reaches num den e) (he : e' ≤ e) :
    Reaches num den e' :=
  (mul_le_mul_of_nonneg_left (zpow_le_zpow_right₀ (by norm_num) he) den.cast_nonneg).trans h

theorem reaches_natCast {num den k : Nat} : Reaches num den k ↔ den * 10 ^ k ≤ num := by
  rw [Reaches, zpow_natCast]
  exact_mod_cast Iff.rfl

theorem reaches_neg {num den k : Nat} : Reaches num den (-k) ↔ den ≤ num * 10 ^ k := by
  rw [Reaches, zpow_neg, zpow_natCast, ← div_eq_mul_inv, div_le_iff₀ (by positivity)]
  exact_mod_cast Iff.rfl

theorem Reaches.pos {num den : Nat} {e : Int} (h : Reaches num den e) (hden : 0 < den) :
    0 < (scaledByTen num den e).1 / (scaledByTen num den e).2 := by
  unfold scaledByTen
  split
  · next he =>
    obtain ⟨k, rfl⟩ := Int.eq_ofNat_of_zero_le he
    exact Nat.div_pos (reaches_natCast.1 h) (Nat.mul_pos hden (Nat.pow_pos (by decide)))
  · next he =>
    obtain ⟨k, rfl⟩ : ∃ k : Nat, e = -k := ⟨(-e).toNat, by omega⟩
    rw [Int.neg_neg, Int.toNat_natCast]
    exact Nat.div_pos (reaches_neg.1 h) hden

theorem reaches_leadingZeros {num den : Nat} (fuel k : Nat)
    (h : den ≤ num * 10 ^ (k + fuel)) : den ≤ num * 10 ^ leadingZeros num den fuel k := by
  induction fuel generalizing k with
  | zero => exact h
  | succ fuel ih =>
    unfold leadingZeros
    split
    · assumption
    · exact ih (k + 1) (by rwa [Nat.add_right_comm])

theorem reaches_floorLog10 {num den : Nat} (hden : 0 < den) (h : den ≤ num * 10 ^ 400) :
    Reaches num den (floorLog10 num den) := by
  unfold floorLog10
  split
  · next hle =>
    have hquotient : 0 < num / den := Nat.div_pos hle hden
    obtain ⟨k, hk⟩ : ∃ k, digitCount (num / den) = k + 1 :=
      Nat.exists_eq_succ_of_ne_zero Nat.length_toDigits_pos.ne'
    have hpower : 10 ^ k ≤ num / den := by
      rcases Nat.eq_zero_or_pos k with rfl | hpos
      · exact hquotient
      · refine Nat.le_of_not_lt fun hlt => ?_
        have hlength := (Nat.length_toDigits_le_iff (by decide) hpos).2 hlt
        unfold digitCount at hk
        omega
    rw [hk, Int.natCast_succ, Int.add_sub_cancel]
    refine reaches_natCast.2 ?_
    rw [Nat.mul_comm]
    exact (Nat.le_div_iff_mul_le hden).1 hpower
  · exact reaches_neg.2 (reaches_leadingZeros 400 0 (by rwa [Nat.zero_add]))

theorem nearest?_digits {i : Interval} {num den : Nat} {e : Int} {d : Numeral}
    (h : Reaches num den e) (hden : 0 < den) (hd : nearest? i num den e = some d) :
    d.digits ≠ 0 := by
  have hpos := h.pos hden
  unfold nearest? at hd
  dsimp only at hd
  -- whichever of the two is nearer, it is the quotient or one more
  split at hd <;> split at hd <;> (try split at hd) <;> cases hd
  all_goals first | exact hpos.ne' | exact Nat.succ_ne_zero _

theorem shortestFrom_digits {i : Interval} {num den : Nat} {lead : Int}
    (h : Reaches num den lead) (hden : 0 < den) (fuel count : Nat) (hcount : 0 < count) :
    (shortestFrom i num den lead fuel count).digits ≠ 0 := by
  induction fuel generalizing count with
  | zero => exact ((h.mono (by omega)).pos hden).ne'
  | succ fuel ih =>
    unfold shortestFrom
    split
    · next hnearest => exact nearest?_digits (h.mono (by omega)) hden hnearest
    · exact ih (count + 1) (Nat.succ_pos count)

theorem fraction_reaches {x : Binary} (hmantissa : 0 < x.mantissa) {k : Nat}
    (h : -x.exponent ≤ 3 * k) :
    0 < x.fraction.2 ∧ x.fraction.2 ≤ x.fraction.1 * 10 ^ k := by
  unfold Binary.fraction
  split
  · exact ⟨Nat.one_pos, Nat.mul_pos (Nat.mul_pos hmantissa (Nat.pow_pos (by decide)))
      (Nat.pow_pos (by decide))⟩
  · refine ⟨Nat.pow_pos (by decide), ?_⟩
    calc 2 ^ (-x.exponent).toNat ≤ 2 ^ (3 * k) := Nat.pow_le_pow_right (by decide) (by omega)
      _ = 8 ^ k := Nat.pow_mul 2 3 k
      _ ≤ 10 ^ k := Nat.pow_le_pow_left (by decide) k
      _ ≤ x.mantissa * 10 ^ k := Nat.le_mul_of_pos_left _ hmantissa

theorem shortest_digits {x : Binary} (hzero : x.isZero = false)
    (h : Binary.minExponent ≤ x.exponent) : x.shortest.digits ≠ 0 := by
  have hmantissa : 0 < x.mantissa := by
    simpa [Binary.isZero, Nat.pos_iff_ne_zero] using hzero
  unfold Binary.minExponent at h
  obtain ⟨hden, hreaches⟩ := fraction_reaches hmantissa (k := 400) (by omega)
  exact shortestFrom_digits (reaches_floorLog10 hden hreaches) hden 17 1 Nat.one_pos

end Shortest

section Layout

theorem exists_trimZeros_eq_cons {c : Char} (hc : c ≠ '0') (more : List Char) :
    ∃ kept, trimZeros (c :: more) = c :: kept ∧ ∀ d ∈ kept, d ∈ more := by
  unfold trimZeros
  rw [List.reverse_cons, List.dropWhile_append]
  split
  · exact ⟨[], by simp [hc], by simp⟩
  · refine ⟨(more.reverse.dropWhile (· == '0')).reverse, by simp, fun d hd => ?_⟩
    exact List.mem_reverse.1 ((List.dropWhile_suffix _).subset (List.mem_reverse.1 hd))

theorem digits_replicate_zero (n : Nat) : Digits (List.replicate n '0') := by
  intro c hc
  rw [List.eq_of_mem_replicate hc]
  rfl

theorem Digits.append {as bs : List Char} (ha : Digits as) (hb : Digits bs) : Digits (as ++ bs) :=
  fun c hc => (List.mem_append.1 hc).elim (ha c) (hb c)

theorem numeric_digits (layout : Layout) {c : Char} {more : List Char} (hc : c ≠ '0')
    (h : Digits (c :: more)) (power : Int) : Numeric (layout.digits (c :: more) power) := by
  unfold Layout.digits
  split
  · split
    -- a fraction below one
    · exact ⟨['0'], '.' :: (List.replicate (-power - 1).toNat '0' ++ c :: more), [], by simp, .zero,
        .point _ (by simp) ((digits_replicate_zero _).append h), .absent⟩
    -- a whole number of digits and zeros, and what is behind the point
    · set whole := power.toNat + 1 with hwhole
      have hfront : (c :: more).take whole = c :: more.take power.toNat := rfl
      have hback : Digits ((c :: more).drop whole) := fun d hd => h d (List.drop_subset _ _ hd)
      refine ⟨(c :: more).take whole ++
          List.replicate (whole - ((c :: more).take whole).length) '0',
        '.' :: if ((c :: more).drop whole).isEmpty then ['0'] else (c :: more).drop whole, [],
        by simp, ?_, ?_, .absent⟩
      · rw [hfront]
        have hwhole' : Digits (c :: more.take power.toNat) := fun d hd =>
          h d (List.take_subset (power.toNat + 1) (c :: more) hd)
        exact .leading c _ hc (hwhole'.append (digits_replicate_zero _))
      · split
        · exact .point ['0'] (by simp) (digits_replicate_zero 1)
        · next hne => exact .point _ (fun heq => hne (by rw [heq]; rfl)) hback
  -- one digit before the point
  · have hwhole : Whole [c] :=
      .leading c [] hc fun d hd => List.mem_singleton.1 hd ▸ h c List.mem_cons_self
    have hpower : Power ('e' :: (if power < 0 then '-' else '+') :: Nat.toDigits 10 power.natAbs) :=
      .mark _ _ (by split <;> simp) Nat.toDigits_ne_nil (digits_toDigits _)
    cases more with
    | nil => exact ⟨[c], [], _, by simp, hwhole, .absent, hpower⟩
    | cons d more =>
      exact ⟨[c], '.' :: d :: more, _, by simp, hwhole,
        .point _ (by simp) fun e he => h e (List.mem_cons_of_mem c he), hpower⟩

theorem exists_numeric_text (layout : Layout) {x : Binary} (h : Binary.minExponent ≤ x.exponent) :
    ∃ text, layout.text x = (if x.negative then ['-'] else []) ++ text ∧ Numeric text := by
  by_cases hzero : x.isZero = true
  · refine ⟨['0', '.', '0'], ?_, ['0'], ['.', '0'], [], rfl, .zero,
      .point ['0'] (by simp) (digits_replicate_zero 1), .absent⟩
    simp only [Layout.text, hzero, if_true]
  · have hdigits := shortest_digits (by simpa using hzero) h
    obtain ⟨c, more, hall, hc⟩ := exists_toDigits_eq_cons hdigits
    obtain ⟨kept, htrim, hkept⟩ := exists_trimZeros_eq_cons hc more
    refine ⟨layout.digits (c :: kept) (x.shortest.exponent + (c :: more).length - 1), ?_, ?_⟩
    · simp only [Layout.text, hzero, Bool.false_eq_true, if_false, hall, htrim]
    · refine numeric_digits layout hc (fun d hd => ?_) _
      have hd' : d ∈ Nat.toDigits 10 x.shortest.digits := by
        rw [hall]
        exact (List.mem_cons.1 hd).elim (fun hd => hd ▸ List.mem_cons_self)
          fun hd => List.mem_cons_of_mem c (hkept d hd)
      exact digits_toDigits _ d hd'

end Layout

end ModuleBundler.Decimal
