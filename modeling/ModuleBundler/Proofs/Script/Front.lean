import Mathlib.Tactic.IntervalCases
import ModuleBundler.Proofs.Decimal.Text
import ModuleBundler.Proofs.Script.Spelling

/-! The words of data at the front of a text: strings, numbers, constants and brackets. Each is read
as one token, of which all is known. -/
namespace ModuleBundler.Script

open Lexer

def frontToken (kind : TokenKind) (name spelling rest : List Char) (pos : Nat) : Token :=
  ⟨kind, ⟨pos, pos + byteLength spelling⟩, false, false, name, spelling ++ rest, rest⟩

def Fronts (spelling rest : List Char) (kind : TokenKind) (name : List Char) : Prop :=
  ∀ isModule pos, next isModule false ⟨spelling ++ rest, pos⟩ =
    sound (frontToken kind name spelling rest pos)

/-- A text whose first token has no fault. -/
def Clear (text : List Char) : Prop :=
  ∀ isModule pos, (next isModule false ⟨text, pos⟩).fault = none

theorem Fronts.clear {spelling rest name : List Char} {kind : TokenKind}
    (h : Fronts spelling rest kind name) : Clear (spelling ++ rest) := by
  intro isModule pos
  rw [h isModule pos]
  rfl

theorem clear_nil : Clear [] := fun _ _ => rfl

section Marks

def endings : List (Char × Mark) :=
  [(',', .comma), (']', .bracketClose), ('\x7d', .braceClose), (';', .semicolon)]

def singles : List (Char × Mark) :=
  endings ++ [('[', .bracketOpen), ('\x7b', .braceOpen), (':', .colon)]

theorem next_single {c : Char} {m : Mark} (h : (c, m) ∈ singles) (isModule : Bool)
    (rest : List Char) (pos : Nat) : next isModule false ⟨c :: rest, pos⟩ =
      sound ⟨.mark m, ⟨pos, pos + 1⟩, false, false, [], c :: rest, rest⟩ := by
  simp only [singles, endings, List.cons_append, List.nil_append, List.mem_cons, Prod.mk.injEq,
    List.not_mem_nil, or_false] at h
  rcases h with ⟨rfl, rfl⟩ | ⟨rfl, rfl⟩ | ⟨rfl, rfl⟩ | ⟨rfl, rfl⟩ | ⟨rfl, rfl⟩ | ⟨rfl, rfl⟩ |
    ⟨rfl, rfl⟩ <;> rfl

theorem clear_single {c : Char} {m : Mark} (h : (c, m) ∈ singles) (rest : List Char) :
    Clear (c :: rest) := by
  intro isModule pos
  rw [next_single h]
  rfl

def Ended (rest : List Char) (m : Mark) : Prop := ∃ c more, rest = c :: more ∧ (c, m) ∈ endings

variable {rest : List Char} {m : Mark}

theorem Ended.exists_cons (h : Ended rest m) :
    ∃ c more, rest = c :: more ∧ (c = ',' ∨ c = ']' ∨ c = '\x7d' ∨ c = ';') := by
  obtain ⟨c, more, rfl, hc⟩ := h
  refine ⟨c, more, rfl, ?_⟩
  simp only [endings, List.mem_cons, Prod.mk.injEq, List.not_mem_nil, or_false] at hc
  exact hc.imp And.left (.imp And.left (.imp And.left And.left))

theorem Ended.clear (h : Ended rest m) : Clear rest := by
  obtain ⟨c, more, rfl, hc⟩ := h
  exact clear_single (List.mem_append_left _ hc) more

end Marks

section Words

variable {rest : List Char} {m : Mark}

theorem Ended.noNamePart (h : Ended rest m) : NoNamePart rest := by
  obtain ⟨c, more, rfl, hc⟩ := h.exists_cons
  rintro _ ⟨⟩
  rcases hc with rfl | rfl | rfl | rfl <;> decide

theorem fronts_string (text : String) (rest : List Char) :
    Fronts (Text.quoteChars text.toList) rest (.string text.toList false) [] :=
  fun isModule pos => next_quoted isModule false text.toList rest pos

theorem name_keyword {cs : List Char} {k : Keyword} (hcs : ∀ c ∈ cs, isNamePart c = true)
    (hne : cs ≠ []) (hkeyword : Keyword.ofChars? cs = some k) (hrest : NoNamePart rest)
    (broken : Bool) (pos : Nat) : name broken ⟨cs ++ rest, pos⟩ = sound
      { token (.keyword k) broken ⟨cs ++ rest, pos⟩ ⟨rest, pos + byteLength cs⟩ with
        text := cs } := by
  rw [name, readName_append hcs hrest]
  simp [hkeyword, checked, sound, hne, token]

def constants : List (String × Keyword) :=
  [("null", .nullWord), ("true", .trueWord), ("false", .falseWord)]

theorem fronts_constant {word : String} {k : Keyword} (hword : (word, k) ∈ constants)
    (h : Ended rest m) : Fronts word.toList rest (.keyword k) word.toList := by
  intro isModule pos
  simp only [constants, List.mem_cons, Prod.mk.injEq, List.not_mem_nil, or_false] at hword
  have hname : next isModule false ⟨word.toList ++ rest, pos⟩ =
        name false ⟨word.toList ++ rest, pos⟩ ∧
      (∀ c ∈ word.toList, isNamePart c = true) ∧ word.toList ≠ [] ∧
        Keyword.ofChars? word.toList = some k := by
    rcases hword with ⟨rfl, rfl⟩ | ⟨rfl, rfl⟩ | ⟨rfl, rfl⟩ <;>
      exact ⟨rfl, List.all_eq_true.1 (by decide), by decide, by decide⟩
  obtain ⟨hnext, hparts, hne, hkeyword⟩ := hname
  rw [hnext, name_keyword hparts hne hkeyword h.noNamePart]
  rfl

end Words

section Numbers

open Decimal Number

def Stops (text : List Char) : Prop :=
  ∀ c, text.head? = some c → c.isDigit = false ∧ c ≠ '_'

variable {ds fraction power rest : List Char} {m : Mark}

theorem digitsTail_append (h : Digits ds) (hrest : Stops rest) (pos : Nat) :
    digitsTail Char.isDigit (ds ++ rest) pos = (⟨rest, pos + ds.length⟩, true) := by
  induction ds generalizing pos with
  | nil =>
    cases rest with
    | nil => rfl
    | cons c more =>
      obtain ⟨hdigit, hbar⟩ := hrest c rfl
      simp [digitsTail, hdigit, hbar]
  | cons d more ih =>
    obtain ⟨hd, hmore⟩ := List.forall_mem_cons.1 h
    rw [List.cons_append, digitsTail, if_pos hd, ih hmore, List.length_cons, Nat.add_assoc,
      Nat.add_comm 1]

theorem digits_append (h : Digits ds) (hne : ds ≠ []) (hrest : Stops rest) (pos : Nat) :
    digits Char.isDigit (ds ++ rest) pos = (⟨rest, pos + ds.length⟩, true) := by
  obtain ⟨d, more, rfl⟩ := List.exists_cons_of_ne_nil hne
  rw [digits, if_pos (by simpa using h d List.mem_cons_self), digitsTail_append h hrest]

theorem Ended.stops (h : Ended rest m) : Stops rest := by
  obtain ⟨c, more, rfl, hc⟩ := h.exists_cons
  rintro _ ⟨⟩
  rcases hc with rfl | rfl | rfl | rfl <;> decide

theorem stops_power (h : Power power) (hrest : Ended rest m) : Stops (power ++ rest) := by
  cases h with
  | absent => exact hrest.stops
  | mark sign ds hsign hne hdigits =>
    rintro _ ⟨⟩
    decide

theorem exponent_append (h : Power power) (hrest : Ended rest m) (pos : Nat) :
    exponent ⟨power ++ rest, pos⟩ = (⟨rest, pos + power.length⟩, true) := by
  cases h with
  | absent =>
    obtain ⟨c, more, rfl, hc⟩ := hrest.exists_cons
    rcases hc with rfl | rfl | rfl | rfl <;> rfl
  | mark sign ds hsign hne hdigits =>
    have hmore := digits_append hdigits hne hrest.stops (pos + 2)
    have hsign' : (sign == '+' || sign == '-') = true := by simpa using hsign
    simp [exponent, hsign', hmore]
    omega

theorem stops_fraction (h : Fraction fraction) (hpower : Power power) (hrest : Ended rest m) :
    Stops (fraction ++ (power ++ rest)) := by
  cases h with
  | absent => simpa using stops_power hpower hrest
  | point ds hne hdigits =>
    rintro _ ⟨⟩
    decide

theorem afterWhole_append (h : Fraction fraction) (hpower : Power power) (hrest : Ended rest m)
    (pos : Nat) : afterWhole ⟨fraction ++ (power ++ rest), pos⟩ =
      (⟨rest, pos + (fraction ++ power).length⟩, true) := by
  cases h with
  | absent =>
    have hexponent := exponent_append hpower hrest pos
    cases hpower with
    | absent =>
      obtain ⟨c, more, rfl, hc⟩ := hrest.exists_cons
      rcases hc with rfl | rfl | rfl | rfl <;> rfl
    | mark sign ds hsign hne hdigits => exact hexponent
  | point ds hne hdigits =>
    have hmore := digitsTail_append hdigits (stops_power hpower hrest) (pos + 1)
    have hexponent := exponent_append hpower hrest (pos + 1 + ds.length)
    obtain ⟨d, more, rfl⟩ := List.exists_cons_of_ne_nil hne
    have hd : d.isDigit = true := hdigits d List.mem_cons_self
    simp only [List.cons_append] at hmore
    simp only [List.length_cons] at hmore hexponent
    simp [afterWhole, Number.fraction, hd, hmore, hexponent]
    omega

theorem readUnended_zero (h : Fraction fraction) (hpower : Power power) (hrest : Ended rest m)
    (pos : Nat) : readUnended '0' (fraction ++ (power ++ rest)) pos =
      afterWhole ⟨fraction ++ (power ++ rest), pos⟩ := by
  cases h with
  | absent =>
    cases hpower with
    | absent =>
      obtain ⟨c, more, rfl, hc⟩ := hrest.exists_cons
      rcases hc with rfl | rfl | rfl | rfl <;> rfl
    | mark sign ds hsign hne hdigits => rfl
  | point ds hne hdigits => rfl

theorem readUnended_numeric {c : Char} {more : List Char} (h : Numeric (c :: more))
    (hrest : Ended rest m) (pos : Nat) :
    readUnended c (more ++ rest) pos = (⟨rest, pos + more.length⟩, true) := by
  obtain ⟨whole, fraction, power, htext, hwhole, hfraction, hpower⟩ := h
  cases hwhole with
  | zero =>
    rw [List.cons_append] at htext
    obtain ⟨rfl, rfl⟩ := List.cons.inj htext
    rw [List.nil_append, List.append_assoc, readUnended_zero hfraction hpower hrest,
      afterWhole_append hfraction hpower hrest]
  | leading d ds hd hdigits =>
    rw [List.cons_append] at htext
    obtain ⟨rfl, rfl⟩ := List.cons.inj htext
    obtain ⟨hdigit, hmore⟩ := List.forall_mem_cons.1 hdigits
    have hpoint : c ≠ '.' := by
      rintro rfl
      exact absurd hdigit (by decide)
    have htail := digitsTail_append hmore (stops_fraction hfraction hpower hrest) pos
    have hafter := afterWhole_append hfraction hpower hrest (pos + ds.length)
    rw [List.append_assoc, List.append_assoc]
    simp [readUnended, hpoint, hd, htail, hafter, Nat.add_assoc]

theorem read_numeric {c : Char} {more : List Char} (h : Numeric (c :: more))
    (hrest : Ended rest m) (pos : Nat) :
    Number.read c (more ++ rest) pos = (⟨rest, pos + more.length⟩, true) := by
  rw [Number.read, readUnended_numeric h hrest]
  obtain ⟨d, after, rfl, hd⟩ := hrest.exists_cons
  have hend : (isNameStart d || d.isDigit) = false := by
    rcases hd with rfl | rfl | rfl | rfl <;> decide
  simp [hend]

theorem exists_digitChar {c : Char} (h : c.isDigit = true) : ∃ n < 10, c = Nat.digitChar n := by
  simp only [Char.isDigit, Bool.and_eq_true, decide_eq_true_eq] at h
  obtain ⟨hlow, hhigh⟩ : 48 ≤ c.toNat ∧ c.toNat ≤ 57 := h
  refine ⟨c.toNat - 48, by omega, ?_⟩
  generalize hn : c.toNat = n at hlow hhigh
  rw [← Char.ofNat_toNat c, hn]
  interval_cases n <;> rfl

theorem utf8Size_of_le {c d : Char} (h : c ≤ d) (hd : d.val ≤ 127) : c.utf8Size = 1 :=
  Char.utf8Size_eq_one_iff.2 (UInt32.le_trans h hd)

theorem utf8Size_digit {c : Char} (h : c.isDigit = true) : c.utf8Size = 1 := by
  simp only [Char.isDigit, Bool.and_eq_true, decide_eq_true_eq] at h
  exact utf8Size_of_le (d := '9') h.2 (by decide)

theorem byteLength_digits (h : Digits ds) : byteLength ds = ds.length := by
  induction ds with
  | nil => rfl
  | cons d more ih =>
    obtain ⟨hd, hmore⟩ := List.forall_mem_cons.1 h
    rw [byteLength_cons, utf8Size_digit hd, ih hmore, List.length_cons, Nat.add_comm]

theorem byteLength_numeric {text : List Char} (h : Numeric text) :
    byteLength text = text.length := by
  obtain ⟨whole, fraction, power, rfl, hwhole, hfraction, hpower⟩ := h
  have hfraction' : byteLength fraction = fraction.length := by
    cases hfraction with
    | absent => rfl
    | point ds hne hdigits =>
      rw [byteLength_cons, byteLength_digits hdigits, List.length_cons, Nat.add_comm]
      rfl
  have hpower' : byteLength power = power.length := by
    cases hpower with
    | absent => rfl
    | mark sign ds hsign hne hdigits =>
      rcases hsign with rfl | rfl <;> simp [byteLength_digits hdigits, Char.utf8Size] <;> omega
  simp [byteLength_digits hwhole.digits, hfraction', hpower']

theorem next_digit {c : Char} (h : c.isDigit = true) (isModule : Bool) (more : List Char)
    (pos : Nat) : next isModule false ⟨c :: more, pos⟩ =
      checked (token .number false ⟨c :: more, pos⟩ (Number.read c more (pos + 1)).1)
        (Number.read c more (pos + 1)).2 .badNumber := by
  obtain ⟨n, hn, rfl⟩ := exists_digitChar h
  interval_cases n <;> rfl

theorem fronts_number {text : List Char} (h : Numeric text) (hrest : Ended rest m) :
    Fronts text rest .number [] := by
  intro isModule pos
  have hlength := byteLength_numeric h
  obtain ⟨c, more, rfl, hc⟩ := h.exists_cons
  rw [List.cons_append, next_digit hc, read_numeric h hrest]
  simp [checked, sound, token, frontToken, hlength]
  omega

theorem fronts_minus {text : List Char} (h : Numeric text) (rest : List Char) :
    Fronts ['-'] (text ++ rest) (.mark .minus) [] := by
  intro isModule pos
  obtain ⟨c, more, rfl, hc⟩ := h.exists_cons
  obtain ⟨n, hn, rfl⟩ := exists_digitChar hc
  interval_cases n <;> rfl

end Numbers

end ModuleBundler.Script
